import VirtualDisplay.RateSet

/-! Rates added to a set, one after the other. A set keeps what it has where it is, takes each new rate
where it first comes, and counts those that it takes. -/

namespace VirtualDisplay

theorem eraseDups_of_nodup {β : Type} [BEq β] [LawfulBEq β] {xs : List β} (h : xs.Nodup) :
    xs.eraseDups = xs := by
  induction xs with
  | nil => rfl
  | cons x xs ih =>
    obtain ⟨hx, hxs⟩ := List.nodup_cons.1 h
    rw [List.eraseDups_cons, List.filter_eq_self.2, ih hxs]
    intro y hy
    have hne : y ≠ x := fun he => hx (he ▸ hy)
    simpa using hne

namespace RateSet

variable {s : RateSet} {r : Rate}

@[ext] theorem ext {s t : RateSet} (h : s.rates = t.rates) : s = t := by
  cases s
  cases t
  simp_all

/-! ### One rate -/

theorem push_of_mem (h : r ∈ s.rates) : push r s = (false, s) := by
  rw [push, dif_pos h]

theorem push_of_not_mem (h : r ∉ s.rates) :
    (push r s).1 = true ∧ (push r s).2.rates = s.rates ++ [r] := by
  rw [push, dif_neg h]
  exact ⟨rfl, rfl⟩

theorem size_push (r : Rate) (s : RateSet) : (push r s).2.size = s.size + (push r s).1.toNat := by
  by_cases h : r ∈ s.rates
  · rw [push_of_mem h]
    rfl
  · obtain ⟨hgrown, hrates⟩ := push_of_not_mem h
    rw [hgrown, size, hrates, List.length_append]
    rfl

/-! ### Several rates -/

/-- Of the rates in the set and those that are added, in this order, the first of each is kept. -/
theorem rates_pushMany (rs : List Rate) (s : RateSet) :
    (pushMany rs s).2.rates = (s.rates ++ rs).eraseDups := by
  induction rs generalizing s with
  | nil =>
    rw [List.append_nil, eraseDups_of_nodup s.nodup]
    rfl
  | cons r rs ih =>
    rw [pushMany, ih]
    by_cases h : r ∈ s.rates
    · rw [push_of_mem h, List.eraseDups_append, List.eraseDups_append]
      simp [List.removeAll, h]
    · rw [(push_of_not_mem h).2, List.append_assoc]
      rfl

theorem size_pushMany (rs : List Rate) (s : RateSet) :
    (pushMany rs s).2.size = s.size + (pushMany rs s).1 := by
  induction rs generalizing s with
  | nil => rfl
  | cons r rs ih =>
    have hone : (if (push r s).1 then 1 else 0) = (push r s).1.toNat := by
      cases (push r s).1 <;> rfl
    rw [pushMany, ih, size_push, hone, Nat.add_assoc]

theorem pushMany_append (rs rs' : List Rate) (s : RateSet) :
    pushMany (rs ++ rs') s = ((pushMany rs s).1 + (pushMany rs' (pushMany rs s).2).1,
      (pushMany rs' (pushMany rs s).2).2) := by
  induction rs generalizing s with
  | nil => rw [List.nil_append, pushMany, Nat.zero_add]
  | cons r rs ih => rw [List.cons_append, pushMany, ih, pushMany, Nat.add_assoc]

theorem rates_ofList (rs : List Rate) : (ofList rs).rates = rs.eraseDups := rates_pushMany rs empty

@[simp] theorem ofList_rates (s : RateSet) : ofList s.rates = s :=
  ext ((rates_ofList s.rates).trans (eraseDups_of_nodup s.nodup))

/-! ### Runs -/

/-- A call that adds rates. -/
inductive Addition
  | push (r : Rate)
  | pushMany (rs : List Rate)
  | extend (rs : List Rate)

namespace Addition

/-- The rates that are handed over. -/
def rates : Addition → List Rate
  | push r => [r]
  | pushMany rs => rs
  | extend rs => rs

def run : Addition → RateSet → RateSet
  | push r, s => (RateSet.push r s).2
  | pushMany rs, s => (RateSet.pushMany rs s).2
  | extend rs, s => (RateSet.extend rs s).2

/-- With their answers left aside, all of them do the same. -/
theorem run_eq (a : Addition) (s : RateSet) : a.run s = (RateSet.pushMany a.rates s).2 := by
  cases a <;> rfl

end Addition

def addAll (as : List Addition) (s : RateSet) : RateSet := as.foldl (fun s a => a.run s) s

theorem addAll_eq (as : List Addition) (s : RateSet) :
    addAll as s = (pushMany (as.flatMap Addition.rates) s).2 := by
  induction as generalizing s with
  | nil => rfl
  | cons a as ih =>
    have hstep : addAll (a :: as) s = addAll as (a.run s) := rfl
    rw [hstep, ih, a.run_eq, List.flatMap_cons, pushMany_append]

/-- What is in the set stays in front, for it is without repetitions. -/
theorem prefix_pushMany (rs : List Rate) (s : RateSet) : s.rates <+: (pushMany rs s).2.rates := by
  rw [rates_pushMany, List.eraseDups_append, eraseDups_of_nodup s.nodup]
  exact List.prefix_append ..

/-- After any calls that add rates, the set holds the rates it had and those it was handed, each where it
first comes. What it had stays where it is. A call answers by how much the set grows, and rates may be
added at once or in two parts. A set that is filled anew keeps nothing of what it had. -/
theorem additions_keep_firsts (s : RateSet) :
    (∀ as : List Addition, s.rates <+: (addAll as s).rates ∧
      (addAll as s).rates = (s.rates ++ as.flatMap Addition.rates).eraseDups) ∧
    (∀ r, (push r s).2.size = s.size + (push r s).1.toNat) ∧
    (∀ rs, (pushMany rs s).2.size = s.size + (pushMany rs s).1) ∧
    (∀ rs rs', pushMany (rs ++ rs') s = ((pushMany rs s).1 + (pushMany rs' (pushMany rs s).2).1,
      (pushMany rs' (pushMany rs s).2).2)) ∧
    ∀ rs, (replaceAll rs s).2.rates = rs.eraseDups ∧ (ofList rs).rates = rs.eraseDups := by
  refine ⟨fun as => ?_, fun r => size_push r s, fun rs => size_pushMany rs s,
    fun rs rs' => pushMany_append rs rs' s, fun rs => ⟨rates_ofList rs, rates_ofList rs⟩⟩
  rw [addAll_eq]
  exact ⟨prefix_pushMany _ s, rates_pushMany _ s⟩

/-- The second and the third call bring rates that the set has by then. -/
example : (addAll [.push 90, .pushMany [60, 144, 144], .extend [90, 75]] (.ofList [60])).rates =
    [60, 90, 144, 75] := by decide

end RateSet
end VirtualDisplay
