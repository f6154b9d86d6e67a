import VirtualDisplay.Channel.Loopback
import VirtualDisplay.Proofs.Scan

/-! What is left of a list when repeated keys are dropped. A driver keeps the monitors that come first
with their ids, as they are and in their order, and all others go. -/

namespace VirtualDisplay

section

variable {β γ κ : Type} [DecidableEq κ]

/-- The elements that share their key with none before them. -/
def firsts (key : β → κ) (xs : List β) : List β :=
  (xs.zipIdx.filter fun p => key p.1 ∉ (xs.take p.2).map key).map (·.1)

theorem firsts_cons (key : β → κ) (x : β) (xs : List β) :
    firsts key (x :: xs) = x :: (firsts key xs).filter (key · ≠ key x) := by
  have hzip : (x :: xs).zipIdx = (x, 0) :: xs.zipIdx.map (fun p => (p.1, p.2 + 1)) := by
    rw [List.zipIdx_cons, List.zipIdx_succ]
  simp [firsts, hzip, List.filter_map, Function.comp_def, List.filter_filter]

theorem firsts_map (f : β → γ) (key : γ → κ) (xs : List β) :
    firsts key (xs.map f) = (firsts (key ∘ f) xs).map f := by
  induction xs with
  | nil => rfl
  | cons x xs ih => simp [firsts_cons, ih, List.filter_map, Function.comp_def]

/-- Of the elements with one key the first is kept, and no other. -/
theorem filter_firsts (key : β → κ) (k : κ) (xs : List β) :
    (firsts key xs).filter (key · = k) = (xs.filter (key · = k)).take 1 := by
  induction xs with
  | nil => rfl
  | cons x xs ih =>
    rw [firsts_cons]
    by_cases hx : key x = k
    · simp [hx]
    · have hother : ∀ y, (decide (key y = k) && decide (key y ≠ key x)) = decide (key y = k) := by
        intro y
        by_cases hy : key y = k <;> simp [hy, Ne.symm hx]
      rw [List.filter_cons_of_neg (by simpa using hx), List.filter_cons_of_neg (by simpa using hx),
        List.filter_filter, ← ih]
      simp only [hother]

/-- What is left out by its key is left out before repeated keys are dropped or after. -/
theorem firsts_filter (key : β → κ) (p : κ → Bool) (xs : List β) :
    firsts key (xs.filter fun x => p (key x)) = (firsts key xs).filter fun x => p (key x) := by
  induction xs with
  | nil => rfl
  | cons x xs ih =>
    rw [firsts_cons]
    by_cases hx : p (key x) = true
    · rw [List.filter_cons_of_pos (p := fun y => p (key y)) hx, firsts_cons, ih,
        List.filter_cons_of_pos (p := fun y => p (key y)) hx, List.filter_filter, List.filter_filter]
      simp only [Bool.and_comm]
    · -- none of those that stay has the key of the one that goes
      have hother : ∀ y, (p (key y) && decide (key y ≠ key x)) = p (key y) := by
        intro y
        by_cases hy : key y = key x <;> simp [hy, hx]
      rw [List.filter_cons_of_neg (p := fun y => p (key y)) hx, ih,
        List.filter_cons_of_neg (p := fun y => p (key y)) hx, List.filter_filter]
      simp only [hother]

theorem count_map_key (key : β → κ) (k : κ) (xs : List β) :
    (xs.map key).count k = (xs.filter (key · = k)).length := by
  rw [List.count_eq_countP, List.countP_map, List.countP_eq_length_filter]
  rfl

theorem count_firsts (key : β → κ) (k : κ) (xs : List β) :
    ((firsts key xs).map key).count k = min 1 ((xs.map key).count k) := by
  rw [count_map_key, count_map_key, filter_firsts, List.length_take]

theorem nodup_firsts (key : β → κ) (xs : List β) : ((firsts key xs).map key).Nodup := by
  rw [List.nodup_iff_count]
  intro k
  rw [count_firsts]
  exact Nat.min_le_left _ _

theorem firsts_eq_self {key : β → κ} {xs : List β} : firsts key xs = xs ↔ (xs.map key).Nodup := by
  constructor
  · intro h
    rw [← h]
    exact nodup_firsts key xs
  · intro h
    induction xs with
    | nil => rfl
    | cons x xs ih =>
      obtain ⟨hx, hxs⟩ := List.nodup_cons.1 h
      rw [firsts_cons, ih hxs, List.filter_eq_self.2]
      intro y hy
      have hne : key y ≠ key x := fun he => hx (List.mem_map.2 ⟨y, hy, he⟩)
      simpa using hne

/-- A scan for first elements keeps those whose key has not been seen when it starts. -/
theorem firstOfEach_eq (key : β → κ) (seen : List κ) (xs : List β) :
    firstOfEach key seen xs = (firsts key xs).filter (key · ∉ seen) := by
  induction xs generalizing seen with
  | nil => rfl
  | cons x xs ih =>
    have hrest : (firsts key xs).filter (key · ∉ (note (key x) seen).2) =
        ((firsts key xs).filter (key · ≠ key x)).filter (key · ∉ seen) := by
      rw [List.filter_filter]
      refine List.filter_congr fun y _ => ?_
      simp only [mem_note, not_or, Bool.decide_and, Bool.and_comm]
    rw [firstOfEach, ih, hrest, fst_note, firsts_cons, List.filter_cons]

end

theorem firstOfEachId_eq (ms : DriverState) : firstOfEachId ms = firsts (·.id) ms := by
  rw [firstOfEachId, firstOfEach_eq]
  simp

theorem firstOfEachId_eq_self {ms : DriverState} :
    firstOfEachId ms = ms ↔ (ms.map (·.id)).Nodup := by
  rw [firstOfEachId_eq, firsts_eq_self]

end VirtualDisplay
