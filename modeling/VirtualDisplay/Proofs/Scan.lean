import Mathlib.Data.List.Count
import VirtualDisplay.Scan

/-! What scans find. The two sets of a scan tell how often it has passed a value: not at all, once, or
more often. So a value is reported where it stands for the second time, and nowhere else. -/

namespace VirtualDisplay

variable {α β γ : Type} [DecidableEq α]

theorem fst_note (x : α) (seen : List α) : (note x seen).1 = decide (x ∉ seen) := by
  by_cases h : x ∈ seen <;> simp [note, h]

theorem mem_note {x y : α} {seen : List α} : y ∈ (note x seen).2 ↔ y = x ∨ y ∈ seen := by
  by_cases h : x ∈ seen
  · rw [note, if_pos h]
    refine ⟨Or.inr, ?_⟩
    rintro (rfl | hy)
    · exact h
    · exact hy
  · rw [note, if_neg h, List.mem_cons]

theorem recurs_eq_false {seen xs : List α} :
    recurs seen xs = false ↔ xs.Nodup ∧ ∀ x ∈ xs, x ∉ seen := by
  induction xs generalizing seen with
  | nil => simp [recurs]
  | cons x xs ih =>
    rw [recurs, Bool.or_eq_false_iff, ih, fst_note, List.nodup_cons, List.forall_mem_cons]
    simp only [mem_note, not_or, Bool.not_eq_false', decide_eq_true_eq]
    constructor
    · rintro ⟨hx, hxs, hrest⟩
      exact ⟨⟨fun hmem => (hrest x hmem).1 rfl, hxs⟩, hx, fun y hy => (hrest y hy).2⟩
    · rintro ⟨⟨hnew, hxs⟩, hx, hrest⟩
      refine ⟨hx, hxs, fun y hy => ⟨?_, hrest y hy⟩⟩
      rintro rfl
      exact hnew hy

namespace Passed

variable {p : Passed α} {x : α}

theorem pass_of_mem (h : x ∈ p.seen) :
    p.pass x = ((note x p.reported).1, ⟨(note x p.seen).2, (note x p.reported).2⟩) := by
  simp [pass, fst_note, h]

theorem pass_of_not_mem (h : x ∉ p.seen) : p.pass x = (false, ⟨(note x p.seen).2, p.reported⟩) := by
  simp [pass, fst_note, h]

/-- The sets tell of the values passed. The count is that of any equality test, since they all agree. -/
structure Tells [BEq α] (p : Passed α) (before : List α) : Prop where
  seen : ∀ x, x ∈ p.seen ↔ 1 ≤ before.count x
  reported : ∀ x, x ∈ p.reported ↔ 2 ≤ before.count x

omit [DecidableEq α] in
theorem tells_nil [BEq α] : Tells ({} : Passed α) [] := by
  constructor <;> simp

/-- A value is reported if it has been passed once, and the sets tell of it from then on. -/
theorem Tells.pass [BEq α] [LawfulBEq α] {before : List α} (h : p.Tells before) (x : α) :
    (p.pass x).1 = decide (before.count x = 1) ∧ (p.pass x).2.Tells (x :: before) := by
  have hcount : ∀ y, (x :: before).count y = before.count y + if y = x then 1 else 0 := by
    intro y
    rw [List.count_cons]
    simp only [beq_iff_eq, eq_comm (a := x)]
  have hseen : ∀ y, y ∈ (note x p.seen).2 ↔ 1 ≤ (x :: before).count y := by
    intro y
    rw [mem_note, h.seen, hcount]
    split <;> simp [*]
  by_cases hx : x ∈ p.seen
  · have hone := (h.seen x).1 hx
    rw [pass_of_mem hx]
    refine ⟨?_, hseen, fun y => ?_⟩
    · rw [fst_note, decide_eq_decide, h.reported]
      omega
    · rw [mem_note, h.reported, hcount]
      by_cases hy : y = x
      · simp [hy, hone]
      · simp [hy]
  · have hnone := mt (h.seen x).2 hx
    rw [pass_of_not_mem hx]
    refine ⟨?_, hseen, fun y => ?_⟩
    · rw [eq_comm, decide_eq_false_iff_not]
      omega
    · rw [h.reported, hcount]
      by_cases hy : y = x
      · rw [hy, if_pos rfl]
        omega
      · simp [hy]

end Passed

/-- A scan looks at each element knowing whether its key stands once among the keys before. -/
theorem scan_eq_flatMap [BEq α] [LawfulBEq α] (key : β → α) (look : Bool → β → List γ)
    {p : Passed α} {before : List α} (h : p.Tells before) (xs : List β) :
    scan key look p xs = xs.zipIdx.flatMap fun q =>
      look ((((xs.take q.2).map key).reverse ++ before).count (key q.1) = 1) q.1 := by
  induction xs generalizing p before with
  | nil => rfl
  | cons x xs ih =>
    obtain ⟨hagain, hnext⟩ := h.pass (key x)
    rw [scan, ih hnext, hagain, List.zipIdx_cons', List.flatMap_cons, List.flatMap_map]
    simp

/-- A scan has yet to report the values that were passed at most once and come to occur twice. -/
theorem count_reported [BEq α] [LawfulBEq α] {p : Passed α} {before : List α} (h : p.Tells before)
    (x : α) (xs : List α) :
    (scan id (fun again y => if again then [y] else []) p xs).count x =
      if before.count x ≤ 1 ∧ 2 ≤ before.count x + xs.count x then 1 else 0 := by
  induction xs generalizing p before with
  | nil =>
    rw [if_neg (by rw [List.count_nil]; omega)]
    rfl
  | cons y ys ih =>
    obtain ⟨hagain, hnext⟩ := h.pass y
    rw [scan, List.count_append, id, hagain, ih hnext]
    by_cases hy : y = x
    · subst hy
      simp only [decide_eq_true_eq, List.count_cons_self]
      split <;> simp <;> split <;> split <;> omega
    · rw [List.count_cons_of_ne hy, List.count_cons_of_ne hy]
      split <;> simp [hy]

theorem count_repeated (x : α) (xs : List α) :
    (repeated xs).count x = if 2 ≤ xs.count x then 1 else 0 := by
  rw [repeated, count_reported Passed.tells_nil]
  simp

theorem repeated_eq_nil {xs : List α} : repeated xs = [] ↔ xs.Nodup := by
  rw [List.eq_nil_iff_forall_not_mem, List.nodup_iff_count]
  refine forall_congr' fun x => ?_
  rw [← List.count_eq_zero, count_repeated]
  split <;> omega

end VirtualDisplay
