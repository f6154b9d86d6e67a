import VirtualDisplay.Proofs.Registry.Positions
import VirtualDisplay.Proofs.Text.Decimal

/-! Queries. A query has one answer at most, the same for all that look it up and for all that edit what
it names. The decimal text of an id in use names that id before it names anything else, and if no two
monitors share an id, a query is as good as the id that it names. -/

namespace VirtualDisplay

open Text

variable {α : Type}

theorem Monitor.findMode?_eq_none {m : Monitor} {resolution : Resolution} :
    m.findMode? resolution = none ↔ resolution ∉ m.modes.map Mode.resolution := by
  simp [findMode?, hasResolution]

theorem Monitor.removeResolution_eq (resolution : Resolution) (m : Monitor) :
    removeResolution resolution m = (m.modes.countP (·.resolution = resolution),
      { m with modes := m.modes.filter (·.resolution ≠ resolution) }) := by
  have htest : hasResolution resolution = fun mode => decide (mode.resolution = resolution) := by
    funext mode
    rw [hasResolution, Bool.eq_iff_iff, beq_iff_eq, decide_eq_true_eq]
  simp [removeResolution, removeModesWhere, editModes, Edit.removeWhere, htest]

namespace Registry

/-- The query names the monitor at an index: the first one with the id as which the query reads, or, if
it reads as no id in use, the first one with the query as its name. -/
inductive Answers (r : Registry) (query : String) (i : Nat) : Prop
  | id {id : Id} (hquery : Reads query.toList id) (h : FirstAt (·.id = id) r.monitors i)
  | name (hquery : ∀ id, Reads query.toList id → id ∉ r.ids)
    (h : FirstAt (·.name = some query) r.monitors i)

variable {r : Registry} {query : String} {i : Nat} {m : Monitor}

theorem mem_ids_of_firstAt {id : Id} (h : FirstAt (·.id = id) r.monitors i) : id ∈ r.ids := by
  obtain ⟨⟨m, hm, rfl⟩, -⟩ := h
  exact List.mem_map.2 ⟨m, List.mem_of_getElem? hm, rfl⟩

/-- Without an id in use that the query reads as, names are looked at. -/
theorem position?_of_unread (h : ∀ id, Reads query.toList id → id ∉ r.ids) :
    r.position? query = r.monitors.findIdx? (hasName query) := by
  have hid : ((word? query.toList).bind fun id => r.monitors.findIdx? (hasId id)) = none := by
    rw [Option.bind_eq_none_iff]
    intro id hread
    rw [Option.eq_none_iff_forall_ne_some]
    intro i hi
    exact h id (word?_eq_some.1 hread) (mem_ids_of_firstAt (findIdx?_hasId.1 hi))
  rw [position?, hid, Option.none_or]

theorem position?_of_read {id : Id} (hread : Reads query.toList id)
    (h : FirstAt (·.id = id) r.monitors i) : r.position? query = some i := by
  rw [position?, word?_eq_some.2 hread, Option.bind_some, findIdx?_hasId.2 h, Option.some_or]

theorem position?_eq_some : r.position? query = some i ↔ r.Answers query i := by
  constructor
  · intro h
    by_cases hquery : ∃ id, Reads query.toList id ∧ id ∈ r.ids
    · obtain ⟨id, hread, hid⟩ := hquery
      obtain ⟨j, hj⟩ := exists_firstAt_of_mem_ids hid
      cases h.symm.trans (position?_of_read hread hj)
      exact .id hread hj
    · have hunread : ∀ id, Reads query.toList id → id ∉ r.ids :=
        fun id hread hid => hquery ⟨id, hread, hid⟩
      rw [position?_of_unread hunread] at h
      exact .name hunread (findIdx?_hasName.1 h)
  · rintro (⟨hread, h⟩ | ⟨hquery, h⟩)
    · exact position?_of_read hread h
    · rw [position?_of_unread hquery]
      exact findIdx?_hasName.2 h

theorem position?_eq_none : r.position? query = none ↔ ∀ i, ¬ r.Answers query i := by
  simp only [Option.eq_none_iff_forall_ne_some, ne_eq, position?_eq_some]

theorem exists_monitor_of_position? (h : r.position? query = some i) :
    ∃ m, r.monitors[i]? = some m := by
  obtain ⟨-, ⟨m, hm, -⟩, -⟩ | ⟨-, ⟨m, hm, -⟩, -⟩ := position?_eq_some.1 h
  all_goals exact ⟨m, hm⟩

/-- All look-ups of a query and all edits by it are at one index. -/
structure ActsAt (r : Registry) (query : String) (i : Nat) (m : Monitor) : Prop where
  answers : ∀ j, r.Answers query j ↔ j = i
  monitor : r.monitors[i]? = some m
  findId : r.findId? query = some m.id
  findQuery : r.findQuery? query = some m
  edit : ∀ {α : Type} (e : Edit Monitor α),
    editQuery query e r = (some (e m).1, ⟨r.monitors.set i (e m).2⟩)
  addMode : ∀ mode, addModeQuery query mode r =
    (some (), ⟨r.monitors.set i { m with modes := m.modes ++ [mode] }⟩)
  removeMode : ∀ resolution, removeModeQuery query resolution r =
    (some (m.modes.countP (·.resolution = resolution)),
      ⟨r.monitors.set i { m with modes := m.modes.filter (·.resolution ≠ resolution) }⟩)

/-- Nothing is found for a query, and edits by it change nothing. -/
structure ActsNowhere (r : Registry) (query : String) : Prop where
  answers : ∀ j, ¬ r.Answers query j
  findId : r.findId? query = none
  findQuery : r.findQuery? query = none
  edit : ∀ {α : Type} (e : Edit Monitor α), editQuery query e r = (none, r)
  addMode : ∀ mode, addModeQuery query mode r = (none, r)
  removeMode : ∀ resolution, removeModeQuery query resolution r = (none, r)

theorem editQuery_of_position? (h : r.position? query = some i) (hm : r.monitors[i]? = some m)
    (e : Edit Monitor α) : editQuery query e r = (some (e m).1, ⟨r.monitors.set i (e m).2⟩) := by
  rw [editQuery_eq, h, editAt_of_some hm]

theorem actsAt (h : r.position? query = some i) (hm : r.monitors[i]? = some m) :
    r.ActsAt query i m := by
  have hfind : r.findQuery? query = some m := by rw [findQuery?, h, Option.bind_some, hm]
  refine ⟨fun j => ?_, hm, ?_, hfind, editQuery_of_position? h hm, fun mode => ?_, fun res => ?_⟩
  · rw [← position?_eq_some, h, Option.some.injEq, eq_comm]
  · rw [findId?, hfind, Option.map_some]
  · exact editQuery_of_position? h hm _
  · rw [removeModeQuery, editQuery_of_position? h hm, Monitor.removeResolution_eq]

theorem actsNowhere (h : r.position? query = none) : r.ActsNowhere query := by
  have hfind : r.findQuery? query = none := by rw [findQuery?, h, Option.bind_none]
  have hedit : ∀ {α : Type} (e : Edit Monitor α), editQuery query e r = (none, r) := by
    intro α e
    rw [editQuery_eq, h]
    rfl
  refine ⟨position?_eq_none.1 h, ?_, hfind, hedit, fun _ => hedit _, fun _ => hedit _⟩
  rw [findId?, hfind, Option.map_none]

theorem actsAt_or_nowhere (r : Registry) (query : String) :
    (∃ i m, r.ActsAt query i m) ∨ r.ActsNowhere query := by
  cases h : r.position? query with
  | none => exact Or.inr (actsNowhere h)
  | some i =>
    obtain ⟨m, hm⟩ := exists_monitor_of_position? h
    exact Or.inl ⟨i, m, actsAt h hm⟩

/-- The text of an id in use names that id, whatever the monitors are called. -/
theorem findId?_decimal {id : Id} (h : id ∈ r.ids) : r.findId? (decimal id) = some id := by
  obtain ⟨i, hi⟩ := exists_firstAt_of_mem_ids h
  have hread : Reads (decimal id).toList id := by
    rw [decimal, String.toList_ofList, ← word?_eq_some, word?_digits]
  obtain ⟨m, hm, hid⟩ := hi.1
  rw [(actsAt (position?_of_read hread hi) hm).findId, hid]

/-! ### Distinct ids -/

/-- With distinct ids every monitor is the first one with its id. -/
theorem firstAt_of_nodup (hids : r.ids.Nodup) (hm : r.monitors[i]? = some m) :
    FirstAt (·.id = m.id) r.monitors i := by
  refine ⟨⟨m, hm, rfl⟩, fun j hj n hn he => ?_⟩
  have hi : r.ids[i]? = some m.id := getElem?_ids.2 ⟨m, hm, rfl⟩
  have hj' : r.ids[j]? = some m.id := getElem?_ids.2 ⟨n, hn, he⟩
  obtain ⟨hlt, -⟩ := List.getElem?_eq_some_iff.1 hi
  exact Nat.ne_of_gt hj ((List.getElem?_inj hlt hids).1 (hi.trans hj'.symm))

theorem editQuery_eq_editId (hids : r.ids.Nodup) (query : String) (e : Edit Monitor α) :
    editQuery query e r = (r.findId? query).elim (none, r) fun id => editId id e r := by
  obtain ⟨i, m, h⟩ | h := r.actsAt_or_nowhere query
  · rw [h.edit, h.findId, Option.elim_some, editId_eq,
      findIdx?_hasId.2 (firstAt_of_nodup hids h.monitor), editAt_of_some h.monitor]
  · rw [h.edit, h.findId, Option.elim_none]

theorem find?_findId? (hids : r.ids.Nodup) (query : String) :
    (r.findId? query).bind r.find? = r.findQuery? query := by
  obtain ⟨i, m, h⟩ | h := r.actsAt_or_nowhere query
  · rw [h.findId, h.findQuery, Option.bind_some]
    exact find?_eq_some.2 ⟨i, firstAt_of_nodup hids h.monitor, h.monitor⟩
  · rw [h.findId, h.findQuery, Option.bind_none]

/-- A query is resolved to one monitor by all that look it up or edit by it, or to none by all of them.
The text of an id in use names the id. If no two monitors share an id, the id that a query names may
stand for the query. -/
theorem queries_resolve (r : Registry) :
    (∀ query, (∃ i m, r.ActsAt query i m) ∨ r.ActsNowhere query) ∧
    (∀ id ∈ r.ids, r.findId? (decimal id) = some id) ∧
    (r.ids.Nodup → ∀ query,
      (r.findId? query).bind r.find? = r.findQuery? query ∧
      (∀ mode, addModeQuery query mode r =
        (r.findId? query).elim (none, r) fun id => addMode id mode r) ∧
      ∀ resolution, removeModeQuery query resolution r =
        (r.findId? query).elim (none, r) fun id => removeMode id resolution r) :=
  ⟨r.actsAt_or_nowhere, fun _ h => findId?_decimal h, fun hids query =>
    ⟨find?_findId? hids query, fun _ => editQuery_eq_editId hids query _,
      fun _ => editQuery_eq_editId hids query _⟩⟩

/-- One monitor has the text of the other's id as its name. -/
theorem queries_resolve_of_two :
    let r : Registry := ⟨[{ id := 2, name := some "1" }, { id := 1, name := some "desk" }]⟩
    (1 ∈ r.ids ∧ r.findId? (decimal 1) = some 1 ∧ decimal 1 = "1") ∧ r.ids.Nodup ∧
      (r.findId? "desk").bind r.find? = r.findQuery? "desk" ∧
      addModeQuery "desk" {} r = addMode 1 {} r ∧
      removeModeQuery "lamp" (0, 0) r = (none, r) := by
  intro r
  have hmem : 1 ∈ r.ids := by decide
  have hids : r.ids.Nodup := by decide
  have hdesk : r.findId? "desk" = some 1 := by decide +kernel
  have hlamp : r.findId? "lamp" = none := by decide +kernel
  obtain ⟨-, htext, hdistinct⟩ := queries_resolve r
  have hadd := (hdistinct hids "desk").2.1 {}
  have hremove := (hdistinct hids "lamp").2.2 (0, 0)
  rw [hdesk] at hadd
  rw [hlamp] at hremove
  exact ⟨⟨hmem, htext 1 hmem, by decide +kernel⟩, hids, (hdistinct hids "desk").1, hadd, hremove⟩

end Registry
end VirtualDisplay
