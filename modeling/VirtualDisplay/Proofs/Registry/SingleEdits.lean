import VirtualDisplay.Proofs.Registry.Queries

/-! Edits of one monitor. It may be looked for by an index, by an id or by a query: the edit changes the
monitor that is found and no other, and if nothing is found it says so and changes nothing. -/

namespace VirtualDisplay

variable {α : Type}

/-! ### What becomes of the monitor -/

namespace Monitor

/-- Another monitor was put in its place, and it was handed out. -/
def Replaced (new m old n : Monitor) : Prop := old = m ∧ n = new

/-- A mode was put behind its modes, and nothing else was done. -/
structure Extended (mode : Mode) (m : Monitor) (answer : Unit) (n : Monitor) : Prop where
  id : n.id = m.id
  name : n.name = m.name
  enabled : n.enabled = m.enabled
  modes : n.modes = m.modes ++ [mode]

/-- All its modes with a resolution were taken out and counted, and nothing else was done. -/
structure Thinned (resolution : Resolution) (m : Monitor) (answer : Nat) (n : Monitor) : Prop where
  id : n.id = m.id
  name : n.name = m.name
  enabled : n.enabled = m.enabled
  modes : n.modes = m.modes.filter (·.resolution ≠ resolution)
  counted : answer = m.modes.countP (·.resolution = resolution)
  gone : n.findMode? resolution = none

theorem replaced_replace (new m : Monitor) :
    Replaced new m (Edit.replace new m).1 (Edit.replace new m).2 := ⟨rfl, rfl⟩

theorem extended_addMode (mode : Mode) (m : Monitor) :
    Extended mode m (addMode mode m).1 (addMode mode m).2 := ⟨rfl, rfl, rfl, rfl⟩

theorem thinned_removeResolution (resolution : Resolution) (m : Monitor) :
    Thinned resolution m (removeResolution resolution m).1 (removeResolution resolution m).2 := by
  rw [removeResolution_eq]
  refine ⟨rfl, rfl, rfl, rfl, rfl, findMode?_eq_none.2 fun hmem => ?_⟩
  obtain ⟨mode, hmode, hresolution⟩ := List.mem_map.1 hmem
  exact of_decide_eq_true (List.mem_filter.1 hmode).2 hresolution

end Monitor

/-! ### What becomes of the registry -/

namespace Registry

variable {r : Registry} {Found : Nat → Prop} {Change : Monitor → α → Monitor → Prop}

/-- The look-up finds one index. The monitor there is changed and an answer given, and all others stay
as they are and where they are. -/
structure Hits (r : Registry) (Found : Nat → Prop) (Change : Monitor → α → Monitor → Prop)
    (edited : Option α × Registry) (i : Nat) : Prop where
  found : ∀ j, Found j ↔ j = i
  changed : ∃ m a n, r.monitors[i]? = some m ∧ edited.1 = some a ∧
    edited.2.monitors[i]? = some n ∧ Change m a n
  others : ∀ j, j ≠ i → edited.2.monitors[j]? = r.monitors[j]?
  length : edited.2.monitors.length = r.monitors.length

/-- The look-up finds no index. That is the answer, and nothing changes. -/
structure Misses (r : Registry) (Found : Nat → Prop) (edited : Option α × Registry) : Prop where
  found : ∀ j, ¬ Found j
  answer : edited.1 = none
  same : edited.2 = r

/-- What an edit makes of a registry and answers: a change of the monitor that is found, if there is
one. -/
def EditsOne (r : Registry) (Found : Nat → Prop) (Change : Monitor → α → Monitor → Prop)
    (edited : Option α × Registry) : Prop :=
  (∃ i, r.Hits Found Change edited i) ∨ r.Misses Found edited

theorem editsOne_editAt {position : Option Nat} {e : Edit Monitor α}
    (hfound : ∀ j, Found j ↔ position = some j ∧ j < r.monitors.length)
    (hchange : ∀ m, Change m (e m).1 (e m).2) : r.EditsOne Found Change (editAt position e r) := by
  cases position with
  | none =>
    refine Or.inr ⟨fun j hj => ?_, rfl, rfl⟩
    cases ((hfound j).1 hj).1
  | some i =>
    by_cases hi : i < r.monitors.length
    · have hm : r.monitors[i]? = some r.monitors[i] := List.getElem?_eq_getElem hi
      rw [editAt_of_some hm]
      refine Or.inl ⟨i, fun j => ?_, ⟨_, _, _, hm, rfl, List.getElem?_set_self hi, hchange _⟩,
        fun j hj => List.getElem?_set_ne hj.symm, List.length_set⟩
      rw [hfound, Option.some.injEq]
      exact ⟨fun h => h.1.symm, fun h => ⟨h.symm, h ▸ hi⟩⟩
    · have hm : r.monitors[i]? = none := List.getElem?_eq_none (Nat.le_of_not_lt hi)
      rw [editAt, Option.elim_some, edit, Edit.atIndex_of_none hm]
      refine Or.inr ⟨fun j hj => ?_, rfl, rfl⟩
      obtain ⟨hij, hj⟩ := (hfound j).1 hj
      exact hi (Option.some.inj hij ▸ hj)

theorem editsOne_atIndex {e : Edit Monitor α} (hchange : ∀ m, Change m (e m).1 (e m).2) (i : Nat) :
    r.EditsOne (fun j => j = i ∧ j < r.monitors.length) Change (edit (Edit.atIndex e i) r) := by
  have hfound (j : Nat) : (j = i ∧ j < r.monitors.length) ↔ some i = some j ∧ j < r.monitors.length := by
    rw [Option.some.injEq, eq_comm]
  exact editsOne_editAt hfound hchange

theorem editsOne_editId {e : Edit Monitor α} (hchange : ∀ m, Change m (e m).1 (e m).2) (id : Id) :
    r.EditsOne (FirstAt (·.id = id) r.monitors) Change (editId id e r) := by
  rw [editId_eq]
  refine editsOne_editAt (fun j => ?_) hchange
  rw [findIdx?_hasId, iff_self_and]
  rintro ⟨⟨m, hm, -⟩, -⟩
  exact (List.getElem?_eq_some_iff.1 hm).1

theorem editsOne_editQuery {e : Edit Monitor α} (hchange : ∀ m, Change m (e m).1 (e m).2)
    (query : String) : r.EditsOne (r.Answers query) Change (editQuery query e r) := by
  rw [editQuery_eq]
  refine editsOne_editAt (fun j => ?_) hchange
  rw [← position?_eq_some, iff_self_and]
  intro hj
  obtain ⟨m, hm⟩ := exists_monitor_of_position? hj
  exact (List.getElem?_eq_some_iff.1 hm).1

/-! ### Replacement by id -/

theorem ids_replaceMonitor (new : Monitor) (r : Registry) : (replaceMonitor new r).2.ids = r.ids := by
  rw [replaceMonitor, editId_eq]
  -- the monitor that goes was found by the id of the one that comes
  exact ids_editAt fun i m hi hm => (id_of_findIdx? hi hm).symm

theorem firstAt_id_iff {id : Id} {i : Nat} :
    FirstAt (·.id = id) r.monitors i ↔ FirstAt (· = id) r.ids i := by
  simp only [FirstAt, ids, List.getElem?_map, Option.map_eq_some_iff]
  constructor
  · rintro ⟨⟨m, hm, hid⟩, hbefore⟩
    refine ⟨⟨id, ⟨m, hm, hid⟩, rfl⟩, ?_⟩
    rintro j hj _ ⟨n, hn, rfl⟩
    exact hbefore j hj n hn
  · rintro ⟨⟨_, ⟨m, hm, rfl⟩, rfl⟩, hbefore⟩
    exact ⟨⟨m, hm, rfl⟩, fun j hj n hn => hbefore j hj _ ⟨n, hn, rfl⟩⟩

/-- The new monitor is found by its id where the old one was. -/
theorem find?_replaceMonitor (new : Monitor) (r : Registry) :
    (replaceMonitor new r).2.find? new.id = (r.find? new.id).map fun _ => new := by
  cases hpos : r.monitors.findIdx? (hasId new.id) with
  | none =>
    have hfind : r.find? new.id = none := by
      rw [find?, List.find?_eq_none]
      exact fun m hm => by simpa using List.findIdx?_eq_none_iff.1 hpos m hm
    rw [replaceMonitor, editId_eq, hpos, hfind]
    exact hfind
  | some i =>
    have hi := findIdx?_hasId.1 hpos
    obtain ⟨m, hm, -⟩ := hi.1
    have hfirst : FirstAt (·.id = new.id) (replaceMonitor new r).2.monitors i := by
      rw [firstAt_id_iff, ids_replaceMonitor, ← firstAt_id_iff]
      exact hi
    have hnew : (replaceMonitor new r).2.monitors[i]? = some new := by
      rw [replaceMonitor, editId_eq, hpos, editAt_of_some hm]
      exact List.getElem?_set_self (List.getElem?_eq_some_iff.1 hm).1
    rw [find?_eq_some.2 ⟨i, hi, hm⟩, find?_eq_some.2 ⟨i, hfirst, hnew⟩]
    rfl

/-- A monitor is replaced, or a mode added or modes taken out, where the look-up finds a monitor and
nowhere else. A replacement by id leaves the ids as they are and is found by its id. -/
theorem edits_one_monitor (r : Registry) :
    (∀ i new, r.EditsOne (fun j => j = i ∧ j < r.monitors.length) (Monitor.Replaced new)
      (set i new r)) ∧
    (∀ new, r.EditsOne (FirstAt (·.id = new.id) r.monitors) (Monitor.Replaced new)
        (replaceMonitor new r) ∧
      (replaceMonitor new r).2.ids = r.ids ∧
      (replaceMonitor new r).2.find? new.id = (r.find? new.id).map fun _ => new) ∧
    (∀ id mode, r.EditsOne (FirstAt (·.id = id) r.monitors) (Monitor.Extended mode)
      (addMode id mode r)) ∧
    (∀ query mode, r.EditsOne (r.Answers query) (Monitor.Extended mode) (addModeQuery query mode r)) ∧
    (∀ id resolution, r.EditsOne (FirstAt (·.id = id) r.monitors) (Monitor.Thinned resolution)
      (removeMode id resolution r)) ∧
    ∀ query resolution, r.EditsOne (r.Answers query) (Monitor.Thinned resolution)
      (removeModeQuery query resolution r) := by
  refine ⟨fun i new => ?_, fun new => ⟨?_, ids_replaceMonitor new r, find?_replaceMonitor new r⟩,
    fun id mode => ?_, fun query mode => ?_, fun id res => ?_, fun query res => ?_⟩
  · exact editsOne_atIndex (Monitor.replaced_replace new) i
  · exact editsOne_editId (Monitor.replaced_replace new) new.id
  · exact editsOne_editId (Monitor.extended_addMode mode) id
  · exact editsOne_editQuery (Monitor.extended_addMode mode) query
  · exact editsOne_editId (Monitor.thinned_removeResolution res) id
  · exact editsOne_editQuery (Monitor.thinned_removeResolution res) query

end Registry
end VirtualDisplay
