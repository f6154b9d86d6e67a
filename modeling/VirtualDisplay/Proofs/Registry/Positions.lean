import VirtualDisplay.Registry.Edit

/-! Edits at a position. To edit the first monitor with an id or the monitor that a query names is to
find a position and to edit there, and nothing happens without one. -/

namespace VirtualDisplay

variable {α : Type}

namespace Edit

variable {σ : Type} {e : Edit σ α} {i : Nat} {xs : List σ}

theorem atIndex_of_some {x : σ} (h : xs[i]? = some x) :
    atIndex e i xs = (some (e x).1, xs.set i (e x).2) := by
  induction xs generalizing i with
  | nil => simp at h
  | cons y ys ih =>
    cases i with
    | zero =>
      cases h
      rfl
    | succ i =>
      rw [atIndex, ih h]
      rfl

theorem atIndex_of_none (h : xs[i]? = none) : atIndex e i xs = (none, xs) := by
  induction xs generalizing i with
  | nil => cases i <;> rfl
  | cons y ys ih =>
    cases i with
    | zero => simp at h
    | succ i => rw [atIndex, ih h]

theorem atFirst_eq (test : σ → Bool) (e : Edit σ α) (xs : List σ) :
    atFirst test e xs = (xs.findIdx? test).elim (none, xs) fun i => atIndex e i xs := by
  induction xs with
  | nil => rfl
  | cons x xs ih =>
    rw [atFirst, List.findIdx?_cons]
    cases hx : test x with
    | true => rfl
    | false =>
      rw [ih]
      cases xs.findIdx? test <;> rfl

end Edit

/-- The index is the first one that holds such a value. -/
def FirstAt {β : Type} (P : β → Prop) (xs : List β) (i : Nat) : Prop :=
  (∃ x, xs[i]? = some x ∧ P x) ∧ ∀ j < i, ∀ y, xs[j]? = some y → ¬ P y

theorem findIdx?_eq_some {β : Type} {test : β → Bool} {xs : List β} {i : Nat} :
    xs.findIdx? test = some i ↔ FirstAt (test · = true) xs i := by
  rw [List.findIdx?_eq_some_iff_getElem]
  constructor
  · rintro ⟨hi, htest, hbefore⟩
    refine ⟨⟨xs[i], List.getElem?_eq_getElem hi, htest⟩, fun j hj y hy => ?_⟩
    obtain ⟨_, rfl⟩ := List.getElem?_eq_some_iff.1 hy
    exact hbefore j hj
  · rintro ⟨⟨x, hx, htest⟩, hbefore⟩
    obtain ⟨hi, rfl⟩ := List.getElem?_eq_some_iff.1 hx
    exact ⟨hi, htest, fun j hj => hbefore j hj _ (List.getElem?_eq_getElem (Nat.lt_trans hj hi))⟩

namespace Registry

/-- Edits the monitor at a position, if there is one. -/
def editAt (position : Option Nat) (e : Edit Monitor α) : Edit Registry (Option α) := fun r =>
  position.elim (none, r) fun i => edit (Edit.atIndex e i) r

variable {r : Registry} {e : Edit Monitor α} {i : Nat} {m : Monitor}

theorem editId_eq (id : Id) (e : Edit Monitor α) (r : Registry) :
    editId id e r = editAt (r.monitors.findIdx? (hasId id)) e r := by
  rw [editId, edit, Edit.atFirst_eq, editAt]
  cases r.monitors.findIdx? (hasId id) <;> rfl

theorem editQuery_eq (query : String) (e : Edit Monitor α) (r : Registry) :
    editQuery query e r = editAt (r.position? query) e r := by
  rw [editQuery, editAt]
  cases r.position? query <;> rfl

theorem editAt_of_some (h : r.monitors[i]? = some m) :
    editAt (some i) e r = (some (e m).1, ⟨r.monitors.set i (e m).2⟩) := by
  rw [editAt, Option.elim_some, edit, Edit.atIndex_of_some h]

theorem findIdx?_hasId {id : Id} :
    r.monitors.findIdx? (hasId id) = some i ↔ FirstAt (·.id = id) r.monitors i := by
  simp only [findIdx?_eq_some, hasId, beq_iff_eq]

theorem id_of_findIdx? {id : Id} (hi : r.monitors.findIdx? (hasId id) = some i)
    (hm : r.monitors[i]? = some m) : m.id = id := by
  obtain ⟨⟨m', hm', hid⟩, -⟩ := findIdx?_hasId.1 hi
  cases hm.symm.trans hm'
  exact hid

theorem findIdx?_hasName {name : String} :
    r.monitors.findIdx? (hasName name) = some i ↔ FirstAt (·.name = some name) r.monitors i := by
  simp only [findIdx?_eq_some, hasName, beq_iff_eq]

theorem find?_eq_some {id : Id} :
    r.find? id = some m ↔ ∃ i, FirstAt (·.id = id) r.monitors i ∧ r.monitors[i]? = some m := by
  simp only [← findIdx?_hasId, find?, List.find?_eq_some_iff_getElem,
    List.findIdx?_eq_some_iff_getElem, List.getElem?_eq_some_iff]
  constructor
  · rintro ⟨htest, i, hi, rfl, hbefore⟩
    exact ⟨i, ⟨hi, htest, fun j hj => by simpa using hbefore j hj⟩, hi, rfl⟩
  · rintro ⟨i, ⟨hi, htest, hbefore⟩, -, rfl⟩
    exact ⟨htest, i, hi, rfl, fun j hj => by simpa using hbefore j hj⟩

theorem getElem?_ids {id : Id} : r.ids[i]? = some id ↔ ∃ m, r.monitors[i]? = some m ∧ m.id = id := by
  rw [ids, List.getElem?_map, Option.map_eq_some_iff]

/-- Where an edit leaves the monitor its id, the ids of the registry stay. -/
theorem ids_editAt {position : Option Nat}
    (h : ∀ i m, position = some i → r.monitors[i]? = some m → (e m).2.id = m.id) :
    (editAt position e r).2.ids = r.ids := by
  cases position with
  | none => rfl
  | some i =>
    cases hm : r.monitors[i]? with
    | none => rw [editAt, Option.elim_some, edit, Edit.atIndex_of_none hm]
    | some m =>
      obtain ⟨hi, hget⟩ := List.getElem?_eq_some_iff.1 (getElem?_ids.2 ⟨m, hm, rfl⟩)
      rw [editAt_of_some hm, ids, List.map_set, h i m rfl hm, ← hget]
      exact List.set_getElem_self hi

/-- Whoever has an id in use stands behind the first one that has it. -/
theorem exists_firstAt_of_mem_ids {id : Id} (h : id ∈ r.ids) :
    ∃ i, FirstAt (·.id = id) r.monitors i := by
  obtain ⟨m, hm, rfl⟩ := List.mem_map.1 h
  cases hfirst : r.monitors.findIdx? (hasId m.id) with
  | some i => exact ⟨i, findIdx?_hasId.1 hfirst⟩
  | none =>
    have hnot := List.findIdx?_eq_none_iff.1 hfirst m hm
    simp [hasId] at hnot

end Registry
end VirtualDisplay
