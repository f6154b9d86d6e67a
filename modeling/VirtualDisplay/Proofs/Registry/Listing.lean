import Mathlib.Data.List.Basic
import VirtualDisplay.Proofs.Registry.Issues
import VirtualDisplay.Proofs.Registry.Positions

/-! The list of issues, place by place. Ids in use more than once come first, each where it repeats,
and then the modes of one monitor after the other. What is listed is what the registry has, once each
and in the order of the places. -/

namespace VirtualDisplay

section

variable {β γ : Type}

/-! ### Second occurrences -/

/-- The index is where a value occurs for the second time: one index before it holds the value too,
and no other. -/
def SecondAt (xs : List β) (i : Nat) : Prop := i < xs.length ∧ ∃! j, j < i ∧ xs[j]? = xs[i]?

theorem count_eq_one [BEq β] [LawfulBEq β] {x : β} {xs : List β} :
    xs.count x = 1 ↔ ∃! j : Nat, xs[j]? = some x := by
  induction xs with
  | nil => simp [ExistsUnique]
  | cons y ys ih =>
    by_cases h : y = x
    · subst h
      rw [List.count_cons_self, Nat.add_eq_right, List.count_eq_zero]
      constructor
      · intro hy
        refine ⟨0, rfl, ?_⟩
        rintro (_ | j) hj
        · rfl
        · exact absurd (List.mem_of_getElem? (l := ys) hj) hy
      · rintro ⟨j, -, huniq⟩ hy
        obtain ⟨k, hk⟩ := List.getElem?_of_mem hy
        have hzero : 0 = j := huniq 0 rfl
        have hsucc : k + 1 = j := huniq (k + 1) hk
        omega
    · rw [List.count_cons_of_ne h, ih]
      constructor
      · rintro ⟨j, hj, huniq⟩
        refine ⟨j + 1, hj, ?_⟩
        rintro (_ | k) hk
        · exact absurd (Option.some.inj hk) h
        · rw [huniq k hk]
      · rintro ⟨_ | j, hj, huniq⟩
        · exact absurd (Option.some.inj hj) h
        · exact ⟨j, hj, fun k hk => Nat.succ.inj (huniq (k + 1) hk)⟩

theorem secondAt_iff [BEq β] [LawfulBEq β] {xs : List β} {i : Nat} {x : β} (h : xs[i]? = some x) :
    SecondAt xs i ↔ (xs.take i).count x = 1 := by
  have hi : i < xs.length := (List.getElem?_eq_some_iff.1 h).1
  have htake : ∀ j, (xs.take i)[j]? = some x ↔ j < i ∧ xs[j]? = some x := by
    intro j
    rw [List.getElem?_take]
    split <;> simp [*]
  rw [SecondAt, count_eq_one, h, and_iff_right hi]
  simp only [htake]

/-! ### Listings -/

/-- What is found, and at which places. -/
abbrev Listing (γ : Type) := List (List Nat × γ)

namespace Listing

/-- All places move below an index. -/
def below (i : Nat) (found : Listing γ) : Listing γ := found.map fun f => (i :: f.1, f.2)

/-- Goes through a list: what is found in an element stands below its index. -/
def along (find : Nat → β → Listing γ) (xs : List β) : Listing γ :=
  xs.zipIdx.flatMap fun p => below p.2 (find p.2 p.1)

/-- No place twice, and the lesser place first. -/
def Ordered (found : Listing γ) : Prop := found.Pairwise fun f g => f.1 < g.1

variable {find : Nat → β → Listing γ} {found : Listing γ} {xs : List β} {place : List Nat} {c : γ}
  {i : Nat}

theorem mem_below : (place, c) ∈ below i found ↔ ∃ rest, place = i :: rest ∧ (rest, c) ∈ found := by
  simp [below, and_comm, eq_comm]

theorem mem_along : (place, c) ∈ along find xs ↔
    ∃ i x rest, xs[i]? = some x ∧ place = i :: rest ∧ (rest, c) ∈ find i x := by
  simp only [along, List.mem_flatMap, Prod.exists, List.mem_zipIdx_iff_getElem?, mem_below]
  constructor
  · rintro ⟨x, i, hx, rest, hplace, hmem⟩
    exact ⟨i, x, rest, hx, hplace, hmem⟩
  · rintro ⟨i, x, rest, hx, hplace, hmem⟩
    exact ⟨x, i, hx, rest, hplace, hmem⟩

theorem map_below : (below i found).map (·.2) = found.map (·.2) := by
  simp [below]

theorem map_along : (along find xs).map (·.2) =
    xs.zipIdx.flatMap fun p => (find p.2 p.1).map (·.2) := by
  simp only [along, List.map_flatMap, map_below]

theorem map_along_of {f : β → List γ} (h : ∀ i x, (find i x).map (·.2) = f x) :
    (along find xs).map (·.2) = xs.flatMap f := by
  rw [map_along]
  simp only [h]
  rw [← List.flatMap_map Prod.fst f, List.zipIdx_map_fst]

theorem Ordered.below (h : found.Ordered) (i : Nat) : (below i found).Ordered := by
  rw [Ordered, Listing.below, List.pairwise_map]
  exact h.imp fun hlt => List.cons_lt_cons_iff.2 (Or.inr ⟨rfl, hlt⟩)

theorem lt_of_below {j : Nat} {other : Listing γ} (h : i < j) {f g : List Nat × γ}
    (hf : f ∈ Listing.below i found) (hg : g ∈ Listing.below j other) : f.1 < g.1 := by
  obtain ⟨p, hp, -⟩ := mem_below.1 hf
  obtain ⟨q, hq, -⟩ := mem_below.1 hg
  rw [hp, hq]
  exact List.cons_lt_cons_iff.2 (Or.inl h)

theorem ordered_along (h : ∀ i x, (find i x).Ordered) : (along find xs).Ordered := by
  have hindices : xs.zipIdx.Pairwise fun p q => p.2 < q.2 := by
    rw [← List.pairwise_map (f := Prod.snd) (R := (· < ·)), List.zipIdx_map_snd]
    exact List.pairwise_lt_range'
  rw [Ordered, along, List.pairwise_flatMap]
  exact ⟨fun p _ => (h p.2 p.1).below p.2, hindices.imp fun hlt f hf g hg => lt_of_below hlt hf hg⟩

end Listing

end

theorem repeated_eq_flatMap {β : Type} [DecidableEq β] (xs : List β) : repeated xs =
    xs.zipIdx.flatMap fun p => if (xs.take p.2).count p.1 = 1 then [p.1] else [] := by
  rw [repeated, scan_eq_flatMap _ _ Passed.tells_nil]
  simp only [List.append_nil, List.map_id, id, List.count_reverse, decide_eq_true_eq]

/-! ### Modes -/

namespace Mode

/-- The issues of one mode, at the numbers of the checks that find them. -/
def found (monitor : Id) (again : Bool) (m : Mode) : Listing Issue :=
  (if m.width = 0 ∨ m.height = 0 then [([0], .zeroDimension monitor m.width m.height)] else []) ++
  (if m.rates.valid then [] else [([1], .noRates monitor m.width m.height)]) ++
  (if again then [([2], .duplicateMode monitor m.width m.height)] else [])

theorem issues_eq (monitor : Id) (again : Bool) (m : Mode) :
    m.issues monitor again = (m.found monitor again).map (·.2) := by
  rw [issues, found]
  split <;> split <;> split <;> rfl

theorem ordered_found (monitor : Id) (again : Bool) (m : Mode) : (m.found monitor again).Ordered := by
  rw [Listing.Ordered, found]
  split <;> split <;> split <;> simp [List.cons_lt_cons_iff]

theorem mem_found {monitor : Id} {again : Bool} {m : Mode} {place : List Nat} {issue : Issue} :
    (place, issue) ∈ m.found monitor again ↔
      ((m.width = 0 ∨ m.height = 0) ∧ place = [0] ∧ issue = .zeroDimension monitor m.width m.height) ∨
      (m.rates.rates = [] ∧ place = [1] ∧ issue = .noRates monitor m.width m.height) ∨
      (again = true ∧ place = [2] ∧ issue = .duplicateMode monitor m.width m.height) := by
  have hrates : m.rates.valid = false ↔ m.rates.rates = [] := by simp [RateSet.valid]
  simp only [found, List.mem_append, List.mem_ite_nil_left, List.mem_ite_nil_right,
    List.mem_singleton, Prod.mk.injEq, Bool.not_eq_true, hrates, or_assoc]

end Mode

/-! ### Monitors -/

namespace Monitor

/-- The monitor has an issue: the mode at index `j` fails the check with the number `k`, and the issue
stands at `[j, k]`. -/
inductive Has (m : Monitor) : List Nat → Issue → Prop
  | zero {j : Nat} {mode : Mode} (hmode : m.modes[j]? = some mode)
    (h : mode.width = 0 ∨ mode.height = 0) :
    Has m [j, 0] (.zeroDimension m.id mode.width mode.height)
  | bare {j : Nat} {mode : Mode} (hmode : m.modes[j]? = some mode) (h : mode.rates.rates = []) :
    Has m [j, 1] (.noRates m.id mode.width mode.height)
  | again {j : Nat} {mode : Mode} (hmode : m.modes[j]? = some mode)
    (h : SecondAt (m.modes.map Mode.resolution) j) :
    Has m [j, 2] (.duplicateMode m.id mode.width mode.height)

/-- Whether the mode at an index is the second with its resolution. -/
def again (m : Monitor) (j : Nat) (mode : Mode) : Bool :=
  ((m.modes.take j).map Mode.resolution).count mode.resolution = 1

def found (m : Monitor) : Listing Issue :=
  .along (fun j mode => mode.found m.id (m.again j mode)) m.modes

theorem issues_eq (m : Monitor) : m.issues = m.found.map (·.2) := by
  rw [issues, found, Listing.map_along, scan_eq_flatMap _ _ Passed.tells_nil]
  simp only [List.append_nil, List.count_reverse, Mode.issues_eq, again]

theorem ordered_found (m : Monitor) : m.found.Ordered :=
  Listing.ordered_along fun _ mode => mode.ordered_found _ _

theorem mem_found {m : Monitor} {place : List Nat} {issue : Issue} :
    (place, issue) ∈ m.found ↔ m.Has place issue := by
  have hsecond : ∀ {j : Nat} {mode : Mode}, m.modes[j]? = some mode →
      (SecondAt (m.modes.map Mode.resolution) j ↔ m.again j mode = true) := by
    intro j mode hmode
    rw [again, decide_eq_true_eq, List.map_take,
      secondAt_iff (by rw [List.getElem?_map, hmode, Option.map_some])]
  rw [found, Listing.mem_along]
  constructor
  · rintro ⟨j, mode, rest, hmode, rfl, hfound⟩
    obtain ⟨h, rfl, rfl⟩ | ⟨h, rfl, rfl⟩ | ⟨h, rfl, rfl⟩ := Mode.mem_found.1 hfound
    · exact .zero hmode h
    · exact .bare hmode h
    · exact .again hmode ((hsecond hmode).2 h)
  · rintro (⟨hmode, h⟩ | ⟨hmode, h⟩ | ⟨hmode, h⟩)
    · exact ⟨_, _, _, hmode, rfl, Mode.mem_found.2 (Or.inl ⟨h, rfl, rfl⟩)⟩
    · exact ⟨_, _, _, hmode, rfl, Mode.mem_found.2 (Or.inr (Or.inl ⟨h, rfl, rfl⟩))⟩
    · exact ⟨_, _, _, hmode, rfl,
        Mode.mem_found.2 (Or.inr (Or.inr ⟨(hsecond hmode).1 h, rfl, rfl⟩))⟩

end Monitor

/-! ### Registries -/

namespace Registry

/-- The registry has an issue: the monitor at index `i` is the second with its id, and the issue stands
at `[0, i]`, or the monitor has an issue of its own, and that stands below `[1, i]`. -/
inductive Has (r : Registry) : List Nat → Issue → Prop
  | shared {i : Nat} {m : Monitor} (hm : r.monitors[i]? = some m) (h : SecondAt r.ids i) :
    Has r [0, i] (.duplicateMonitor m.id)
  | own {i : Nat} {m : Monitor} {place : List Nat} {issue : Issue} (hm : r.monitors[i]? = some m)
    (h : m.Has place issue) : Has r (1 :: i :: place) issue

/-- The ids that repeat, at the indices where they do. -/
def shared (r : Registry) : Listing Issue :=
  .along (fun i id => if (r.ids.take i).count id = 1 then [([], .duplicateMonitor id)] else []) r.ids

def found (r : Registry) : Listing Issue :=
  .below 0 r.shared ++ .below 1 (.along (fun _ m => m.found) r.monitors)

theorem map_shared (r : Registry) : r.shared.map (·.2) = r.duplicateIds.map .duplicateMonitor := by
  rw [shared, Listing.map_along, duplicateIds, repeated_eq_flatMap, List.map_flatMap]
  refine List.flatMap_congr fun p _ => ?_
  split <;> rfl

theorem issues_eq (r : Registry) : r.issues = r.found.map (·.2) := by
  rw [issues, found, List.map_append, Listing.map_below, Listing.map_below, map_shared,
    Listing.map_along_of fun _ m => m.issues_eq.symm]

theorem ordered_shared (r : Registry) : r.shared.Ordered := by
  refine Listing.ordered_along fun i id => ?_
  rw [Listing.Ordered]
  split <;> simp

theorem ordered_found (r : Registry) : r.found.Ordered := by
  have hmodes : (Listing.along (fun _ m => m.found) r.monitors).Ordered :=
    Listing.ordered_along fun _ m => m.ordered_found
  refine List.pairwise_append.2 ⟨r.ordered_shared.below 0, hmodes.below 1, fun f hf g hg => ?_⟩
  exact Listing.lt_of_below Nat.zero_lt_one hf hg

theorem mem_shared {r : Registry} {place : List Nat} {issue : Issue} : (place, issue) ∈ r.shared ↔
    ∃ i m, r.monitors[i]? = some m ∧ SecondAt r.ids i ∧ place = [i] ∧
      issue = .duplicateMonitor m.id := by
  rw [shared, Listing.mem_along]
  simp only [List.mem_ite_nil_right, List.mem_singleton, Prod.mk.injEq]
  constructor
  · rintro ⟨i, id, rest, hi, rfl, h, rfl, rfl⟩
    obtain ⟨m, hm, rfl⟩ := getElem?_ids.1 hi
    exact ⟨i, m, hm, (secondAt_iff hi).2 h, rfl, rfl⟩
  · rintro ⟨i, m, hm, h, rfl, rfl⟩
    have hi : r.ids[i]? = some m.id := getElem?_ids.2 ⟨m, hm, rfl⟩
    exact ⟨i, m.id, [], hi, rfl, (secondAt_iff hi).1 h, rfl, rfl⟩

theorem mem_found {r : Registry} {place : List Nat} {issue : Issue} :
    (place, issue) ∈ r.found ↔ r.Has place issue := by
  rw [found, List.mem_append, Listing.mem_below, Listing.mem_below]
  constructor
  · rintro (⟨rest, rfl, hfound⟩ | ⟨rest, rfl, hfound⟩)
    · obtain ⟨i, m, hm, h, rfl, rfl⟩ := mem_shared.1 hfound
      exact .shared hm h
    · obtain ⟨i, m, rest, hm, rfl, h⟩ := Listing.mem_along.1 hfound
      exact .own hm (Monitor.mem_found.1 h)
  · rintro (⟨hm, h⟩ | ⟨hm, h⟩)
    · exact Or.inl ⟨_, rfl, mem_shared.2 ⟨_, _, hm, h, rfl, rfl⟩⟩
    · exact Or.inr ⟨_, rfl, Listing.mem_along.2 ⟨_, _, _, hm, rfl, Monitor.mem_found.2 h⟩⟩

/-- The issues are listed in the order of their places, each at its place and once, and no others. Of
an id in use more than once there is one. -/
theorem issues_listed (r : Registry) :
    (∃ found : List (List Nat × Issue), r.issues = found.map (·.2) ∧
      found.Pairwise (fun f g => f.1 < g.1) ∧
      ∀ place issue, (place, issue) ∈ found ↔ r.Has place issue) ∧
    ∀ id, r.issues.count (.duplicateMonitor id) = if 2 ≤ r.ids.count id then 1 else 0 :=
  ⟨⟨r.found, r.issues_eq, r.ordered_found, fun _ _ => mem_found⟩, r.count_duplicateMonitor_issues⟩

/-- The third monitor and the third mode of a kind are not told of again. -/
example : issues ⟨[{ id := 1, modes := [{ height := 1 }, { height := 1 }, { height := 1 }] },
      { id := 1 }, { id := 1 }]⟩ =
    [.duplicateMonitor 1, .zeroDimension 1 0 1, .noRates 1 0 1, .zeroDimension 1 0 1, .noRates 1 0 1,
      .duplicateMode 1 0 1, .zeroDimension 1 0 1, .noRates 1 0 1] := by decide

end Registry
end VirtualDisplay
