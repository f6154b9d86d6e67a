import Mathlib.Data.List.Perm.Subperm
import VirtualDisplay.Registry.Edit

/-! Ids for new monitors. The search goes through all ids and stops at the least one not in use, and
monitors that are added one after the other get the ids not in use from the least one up. -/

namespace VirtualDisplay

/-- All ids, from the least one up. -/
noncomputable def allIds : List Id := (List.range UInt32.size).map UInt32.ofNat

theorem toNat_ofNat_of_mem_range {n : Nat} (h : n ∈ List.range UInt32.size) :
    (UInt32.ofNat n).toNat = n :=
  UInt32.toNat_ofNat_of_lt' (List.mem_range.1 h)

theorem pairwise_allIds : allIds.Pairwise (· < ·) := by
  rw [allIds, List.pairwise_map]
  refine List.pairwise_lt_range.imp_of_mem fun ha hb hlt => ?_
  rw [UInt32.lt_iff_toNat_lt, toNat_ofNat_of_mem_range ha, toNat_ofNat_of_mem_range hb]
  exact hlt

theorem nodup_allIds : allIds.Nodup := pairwise_allIds.imp UInt32.ne_of_lt

theorem mem_allIds (id : Id) : id ∈ allIds :=
  List.mem_map.2 ⟨id.toNat, List.mem_range.2 id.toNat_lt, UInt32.ofNat_toNat⟩

/-- Does an edit a number of times and collects the answers. -/
def Edit.times {σ α : Type} (e : Edit σ α) : Nat → Edit σ (List α)
  | 0, s => ([], s)
  | n + 1, s =>
    let first := e s
    let rest := times e n first.2
    (first.1 :: rest.1, rest.2)

/-- The least element stands at the head of a list that ascends. -/
theorem head?_eq_some_of_pairwise {xs : List Id} (h : xs.Pairwise (· < ·)) {x : Id} :
    xs.head? = some x ↔ x ∈ xs ∧ ∀ y ∈ xs, x ≤ y := by
  cases xs with
  | nil => simp
  | cons y ys =>
    have hlt := (List.pairwise_cons.1 h).1
    rw [List.head?_cons, Option.some.injEq]
    constructor
    · rintro rfl
      refine ⟨List.mem_cons_self, List.forall_mem_cons.2 ⟨UInt32.le_refl _, fun z hz => ?_⟩⟩
      exact UInt32.le_of_lt (hlt z hz)
    · rintro ⟨hx, hle⟩
      obtain rfl | hx := List.mem_cons.1 hx
      · rfl
      · exact absurd (hlt x hx) (UInt32.not_lt.2 (hle y List.mem_cons_self))

namespace Registry

/-- The ids not in use, from the least one up. -/
noncomputable def unused (r : Registry) : List Id := allIds.filter (· ∉ r.ids)

theorem mem_unused {r : Registry} {id : Id} : id ∈ r.unused ↔ id ∉ r.ids := by
  simp [unused, mem_allIds]

theorem pairwise_unused (r : Registry) : r.unused.Pairwise (· < ·) := pairwise_allIds.filter _

/-- At most as many ids are in use as there are monitors. -/
theorem size_le_unused (r : Registry) : UInt32.size ≤ r.unused.length + r.monitors.length := by
  have hused : (allIds.filter (· ∈ r.ids)).length ≤ r.ids.length := by
    refine (List.subperm_of_subset (nodup_allIds.filter _) fun id hid => ?_).length_le
    exact of_decide_eq_true (List.mem_filter.1 hid).2
  have hsplit : allIds.length = _ := List.length_eq_length_filter_add (· ∈ r.ids)
  have hall : allIds.length = UInt32.size := by rw [allIds, List.length_map, List.length_range]
  have hids : r.ids.length = r.monitors.length := List.length_map ..
  simp only [← decide_not] at hsplit
  rw [unused]
  omega

theorem freeFrom?_eq (used : List Id) (left n : Nat) : freeFrom? used left (UInt32.ofNat n) =
    ((List.range' n left).map UInt32.ofNat).find? (· ∉ used) := by
  induction left generalizing n with
  | zero => rfl
  | succ left ih =>
    have hnext : UInt32.ofNat n + 1 = UInt32.ofNat (n + 1) := (UInt32.ofNat_add n 1).symm
    rw [freeFrom?, hnext, ih, List.range'_succ, List.map_cons, List.find?_cons]
    by_cases h : UInt32.ofNat n ∈ used <;> simp [h]

theorem leastFreeId?_eq_head? (r : Registry) : r.leastFreeId? = r.unused.head? := by
  rw [unused, List.head?_filter, allIds, List.range_eq_range']
  exact freeFrom?_eq r.ids UInt32.size 0

theorem newId_none (r : Registry) : r.newId none = r.unused.head? := r.leastFreeId?_eq_head?

theorem newId_none_eq_some {r : Registry} {id : Id} :
    r.newId none = some id ↔ id ∉ r.ids ∧ ∀ k < id, k ∈ r.ids := by
  rw [newId_none, head?_eq_some_of_pairwise r.pairwise_unused]
  simp only [mem_unused]
  refine and_congr_right fun _ => forall_congr' fun k => ?_
  rw [← UInt32.not_lt]
  tauto

theorem newId_none_eq_none {r : Registry} : r.newId none = none ↔ ∀ id, id ∈ r.ids := by
  rw [newId_none, List.head?_eq_none_iff, List.eq_nil_iff_forall_not_mem]
  simp only [mem_unused, Classical.not_not]

/-- All ids below the one that is given are in use, so there are no more of them than monitors. -/
theorem newId_none_le {r : Registry} {id : Id} (h : r.newId none = some id) :
    id.toNat ≤ r.monitors.length := by
  have hbelow := (newId_none_eq_some.1 h).2
  have hlt : id.toNat < UInt32.size := id.toNat_lt
  have hsub : (List.range id.toNat).map UInt32.ofNat ⊆ r.ids := by
    intro k hk
    obtain ⟨n, hn, rfl⟩ := List.mem_map.1 hk
    rw [List.mem_range] at hn
    refine hbelow _ (UInt32.lt_iff_toNat_lt.2 ?_)
    rwa [UInt32.toNat_ofNat_of_lt' (by omega)]
  have hnodup : ((List.range id.toNat).map UInt32.ofNat).Nodup :=
    nodup_allIds.sublist ((List.range_sublist.2 (Nat.le_of_lt hlt)).map _)
  have hlen := (List.subperm_of_subset hnodup hsub).length_le
  rwa [List.length_map, List.length_range, ids, List.length_map] at hlen

/-! ### One after the other -/

theorem unused_append (r : Registry) (id : Id) :
    unused ⟨r.monitors ++ [{ id := id }]⟩ = r.unused.filter (· ≠ id) := by
  have hids : ids ⟨r.monitors ++ [{ id := id }]⟩ = r.ids ++ [id] := by simp [ids]
  rw [unused, unused, List.filter_filter, hids]
  refine List.filter_congr fun k _ => ?_
  simp [and_comm]

theorem addNew_of_full {r : Registry} (h : r.unused = []) : addNew none r = (none, r) := by
  rw [addNew, newId_none, h]
  rfl

/-- Adding a monitor takes the first of the ids not in use and leaves the others. -/
theorem addNew_of_unused {r : Registry} {id : Id} {us : List Id} (h : r.unused = id :: us) :
    addNew none r = (some id, ⟨r.monitors ++ [{ id := id }]⟩) ∧
      unused ⟨r.monitors ++ [{ id := id }]⟩ = us := by
  constructor
  · rw [addNew, newId_none, h]
    rfl
  · have hlt := (List.pairwise_cons.1 (h ▸ r.pairwise_unused)).1
    rw [unused_append, h, List.filter_cons_of_neg (by simp), List.filter_eq_self.2]
    intro k hk
    simpa using (UInt32.ne_of_lt (hlt k hk)).symm

theorem times_addNew (n : Nat) (r : Registry) : Edit.times (addNew none) n r =
    ((r.unused.take n).map some ++ List.replicate (n - r.unused.length) none,
      ⟨r.monitors ++ (r.unused.take n).map fun id => { id := id }⟩) := by
  induction n generalizing r with
  | zero => simp [Edit.times]
  | succ n ih =>
    cases h : r.unused with
    | nil => simp [Edit.times, addNew_of_full h, ih, h, List.replicate_succ]
    | cons id us =>
      obtain ⟨hadd, hrest⟩ := addNew_of_unused h
      simp [Edit.times, hadd, ih, hrest]

/-- An id that is asked for is given if it is not in use. Without one asked for, the least id not in
use is given, and so on up if monitors are added one after the other. -/
theorem new_ids_are_least (r : Registry) :
    (∀ id, id ∈ r.unused ↔ id ∉ r.ids) ∧ r.unused.Pairwise (· < ·) ∧
    (∀ id, r.newId none = some id ↔ id ∉ r.ids ∧ ∀ k < id, k ∈ r.ids) ∧
    (∀ id, r.newId none = some id → id.toNat ≤ r.monitors.length) ∧
    (r.newId none = none ↔ ∀ id, id ∈ r.ids) ∧
    (∀ p, r.newId (some p) = if p ∈ r.ids then none else some p) ∧
    ∀ n ≤ r.unused.length, Edit.times (addNew none) n r =
      ((r.unused.take n).map some, ⟨r.monitors ++ (r.unused.take n).map fun id => { id := id }⟩) := by
  refine ⟨fun _ => mem_unused, r.pairwise_unused, fun _ => newId_none_eq_some,
    fun _ => newId_none_le, newId_none_eq_none, fun _ => rfl, fun n hn => ?_⟩
  rw [times_addNew, Nat.sub_eq_zero_of_le hn, List.replicate_zero, List.append_nil]

/-- The ids 0, 1 and 3 are in use, one of them twice. -/
theorem new_ids_are_least_of_four :
    let r : Registry := ⟨[{ id := 1 }, { id := 3 }, { id := 0 }, { id := 1 }]⟩
    3 ≤ r.unused.length ∧ r.newId none = some 2 ∧ (2 : Id).toNat ≤ r.monitors.length ∧
      (r.unused.take 3).map some = [some 2, some 4, some 5] := by
  intro r
  have hthree : 3 ≤ r.unused.length := by
    have hsize := r.size_le_unused
    have hlength : r.monitors.length = 4 := rfl
    rw [hlength, UInt32.size] at hsize
    omega
  obtain ⟨-, -, -, hle, -, -, htimes⟩ := new_ids_are_least r
  have hnew : r.newId none = some 2 := by decide +kernel
  have hrun : (Edit.times (addNew none) 3 r).1 = [some 2, some 4, some 5] := by decide +kernel
  rw [htimes 3 hthree] at hrun
  dsimp only at hrun
  exact ⟨hthree, hnew, hle 2 hnew, hrun⟩

end Registry
end VirtualDisplay
