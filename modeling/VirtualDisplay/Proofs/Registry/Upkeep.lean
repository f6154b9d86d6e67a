import Mathlib.Logic.Relation
import VirtualDisplay.Proofs.Registry.NewIds
import VirtualDisplay.Proofs.Registry.Queries
import VirtualDisplay.Proofs.Registry.Validity

/-! Edits that keep a registry valid: those that take monitors or modes out, those that change neither
ids nor modes, and those that put in what is valid and new. -/

namespace VirtualDisplay

variable {α : Type}

theorem nodup_map_snoc {β γ : Type} {key : β → γ} {xs : List β} {x : β} (hxs : (xs.map key).Nodup)
    (hx : key x ∉ xs.map key) : ((xs ++ [x]).map key).Nodup := by
  rw [List.map_append, List.map_singleton, (List.perm_append_singleton ..).nodup_iff, List.nodup_cons]
  exact ⟨hx, hxs⟩

namespace Monitor

/-- Gives a monitor another name, or none. -/
def rename (name : Option String) : Edit Monitor Unit := fun m => ((), { m with name })

theorem Proper.of_modes {m n : Monitor} (hm : m.Proper) (h : n.modes = m.modes) : n.Proper := by
  rw [proper_iff, h]
  exact ⟨hm.modes, hm.distinct⟩

theorem Proper.removeResolution {m : Monitor} (hm : m.Proper) (resolution : Resolution) :
    (removeResolution resolution m).2.Proper := by
  rw [removeResolution_eq]
  exact ⟨fun mode hmode => hm.modes mode (List.mem_of_mem_filter hmode),
    hm.distinct.sublist (List.filter_sublist.map _)⟩

theorem Proper.addMode {m : Monitor} {mode : Mode} (hm : m.Proper) (hmode : mode.valid = true)
    (hnew : m.findMode? mode.resolution = none) : (addMode mode m).2.Proper where
  modes := List.forall_mem_append.2 ⟨hm.modes, List.forall_mem_singleton.2 (Mode.valid_iff.1 hmode)⟩
  distinct := nodup_map_snoc hm.distinct (findMode?_eq_none.1 hnew)

end Monitor

namespace Registry

variable {r r' : Registry}

/-! ### Kinds of edits -/

theorem valid_of_sublist (hr : r.valid = true) {ms : List Monitor} (h : ms.Sublist r.monitors) :
    valid ⟨ms⟩ = true := by
  obtain ⟨hids, hproper⟩ := valid_iff.1 hr
  exact valid_iff.2 ⟨hids.sublist (h.map _), fun m hm => hproper m (h.subset hm)⟩

theorem valid_of_perm (hr : r.valid = true) {ms : List Monitor} (h : ms.Perm r.monitors) :
    valid ⟨ms⟩ = true := by
  obtain ⟨hids, hproper⟩ := valid_iff.1 hr
  exact valid_iff.2 ⟨(h.map _).nodup_iff.2 hids, fun m hm => hproper m (h.subset hm)⟩

theorem valid_map (hr : r.valid = true) {f : Monitor → Monitor} (hid : ∀ m, (f m).id = m.id)
    (hmodes : ∀ m, (f m).modes = m.modes) : valid ⟨r.monitors.map f⟩ = true := by
  obtain ⟨hids, hproper⟩ := valid_iff.1 hr
  refine valid_iff.2 ⟨?_, List.forall_mem_map.2 fun m hm => (hproper m hm).of_modes (hmodes m)⟩
  rw [ids, List.map_map]
  exact (List.map_congr_left fun m _ => hid m) ▸ hids

theorem valid_setEnabled (hr : r.valid = true) (ids : List Id) (enabled : Bool) :
    (setEnabled ids enabled r).2.valid = true := by
  refine valid_map hr (fun m => ?_) (fun m => ?_)
  all_goals split <;> rfl

theorem valid_push (hr : r.valid = true) {m : Monitor} (hid : m.id ∉ r.ids) (hm : m.Proper) :
    (push m r).2.valid = true := by
  obtain ⟨hids, hproper⟩ := valid_iff.1 hr
  exact valid_iff.2 ⟨nodup_map_snoc hids hid,
    List.forall_mem_append.2 ⟨hproper, List.forall_mem_singleton.2 hm⟩⟩

/-- An edit at a position may do to the monitor there what leaves it its id and makes it no worse. -/
theorem valid_editAt (hr : r.valid = true) {position : Option Nat} {e : Edit Monitor α}
    (h : ∀ i m, position = some i → r.monitors[i]? = some m → m.Proper →
      (e m).2.id = m.id ∧ (e m).2.Proper) : (editAt position e r).2.valid = true := by
  obtain ⟨hids, hproper⟩ := valid_iff.1 hr
  have hkept : (editAt position e r).2.ids = r.ids :=
    ids_editAt fun i m hi hm => (h i m hi hm (hproper m (List.mem_of_getElem? hm))).1
  refine valid_iff.2 ⟨hkept ▸ hids, fun n hn => ?_⟩
  cases position with
  | none => exact hproper n hn
  | some i =>
    cases hm : r.monitors[i]? with
    | none =>
      rw [editAt, Option.elim_some, edit, Edit.atIndex_of_none hm] at hn
      exact hproper n hn
    | some m =>
      rw [editAt_of_some hm] at hn
      obtain hn | rfl := List.mem_or_eq_of_mem_set hn
      · exact hproper n hn
      · exact (h i m rfl hm (hproper m (List.mem_of_getElem? hm))).2

theorem valid_rename (hr : r.valid = true) (position : Option Nat) (name : Option String) :
    (editAt position (Monitor.rename name) r).2.valid = true :=
  valid_editAt hr fun _ _ _ _ hm => ⟨rfl, hm.of_modes rfl⟩

theorem valid_removeResolution (hr : r.valid = true) (position : Option Nat) (resolution : Resolution) :
    (editAt position (Monitor.removeResolution resolution) r).2.valid = true :=
  valid_editAt hr fun _ _ _ _ hm => ⟨rfl, hm.removeResolution resolution⟩

theorem valid_addMode (hr : r.valid = true) {position : Option Nat} {mode : Mode}
    (hmode : mode.valid = true) (hnew : ∀ i m, position = some i → r.monitors[i]? = some m →
      m.findMode? mode.resolution = none) : (editAt position (Monitor.addMode mode) r).2.valid = true :=
  valid_editAt hr fun i m hi hm hproper => ⟨rfl, hproper.addMode hmode (hnew i m hi hm)⟩

/-! ### Steps and runs -/

/-- An edit to keep a valid registry valid. What is put in is valid, a new monitor has an id that
`newId` gave, and a new mode has a resolution that its monitor does not have. -/
inductive Upkeep (r : Registry) : Registry → Prop
  | remove (ids : List Id) : Upkeep r (remove ids r).2
  | removeQuery (queries : List String) : Upkeep r (removeQuery queries r).2
  | removeWhere (test : Monitor → Bool) : Upkeep r (removeWhere test r).2
  | removeAt (i : Nat) : Upkeep r (removeAt i r).2
  | removeAll : Upkeep r (removeAll r).2
  | setEnabled (ids : List Id) (enabled : Bool) : Upkeep r (setEnabled ids enabled r).2
  | setEnabledQuery (queries : List String) (enabled : Bool) :
    Upkeep r (setEnabledQuery queries enabled r).2
  | removeMode (id : Id) (resolution : Resolution) : Upkeep r (removeMode id resolution r).2
  | removeModeQuery (query : String) (resolution : Resolution) :
    Upkeep r (removeModeQuery query resolution r).2
  | rename (i : Nat) (name : Option String) :
    Upkeep r (edit (Edit.atIndex (Monitor.rename name) i) r).2
  | renameId (id : Id) (name : Option String) : Upkeep r (editId id (Monitor.rename name) r).2
  | renameQuery (query : String) (name : Option String) :
    Upkeep r (editQuery query (Monitor.rename name) r).2
  | renameEach (name : Monitor → Option String) :
    Upkeep r (edit (Edit.atEach fun m => Monitor.rename (name m) m) r).2
  | reorder {ms : List Monitor} (h : ms.Perm r.monitors) : Upkeep r (replaceAll ms r).2
  | addNew {preferred : Option Id} {m : Monitor} (hid : r.newId preferred = some m.id)
    (hm : m.valid = true) : Upkeep r (push m r).2
  | replaceMonitor {m : Monitor} (hm : m.valid = true) : Upkeep r (replaceMonitor m r).2
  | addMode {id : Id} {mode : Mode} (hmode : mode.valid = true)
    (hnew : ∀ m, r.find? id = some m → m.findMode? mode.resolution = none) :
    Upkeep r (addMode id mode r).2
  | addModeQuery {query : String} {mode : Mode} (hmode : mode.valid = true)
    (hnew : ∀ m, r.findQuery? query = some m → m.findMode? mode.resolution = none) :
    Upkeep r (addModeQuery query mode r).2

theorem newId_not_mem {preferred : Option Id} {id : Id} (h : r.newId preferred = some id) :
    id ∉ r.ids := by
  cases preferred with
  | none => exact (newId_none_eq_some.1 h).1
  | some p =>
    rw [newId] at h
    split at h
    · cases h
    · next hp => exact Option.some.inj h ▸ hp

theorem Upkeep.valid (h : r.Upkeep r') (hr : r.valid = true) : r'.valid = true := by
  cases h with
  | remove ids => exact valid_of_sublist hr List.filter_sublist
  | removeQuery queries => exact valid_of_sublist hr List.filter_sublist
  | removeWhere test => exact valid_of_sublist hr List.filter_sublist
  | removeAt i => exact valid_of_sublist hr (List.eraseIdx_sublist ..)
  | removeAll => exact valid_of_sublist hr (List.nil_sublist _)
  | setEnabled ids enabled => exact valid_setEnabled hr ids enabled
  | setEnabledQuery queries enabled => exact valid_setEnabled hr _ enabled
  | removeMode id resolution =>
    rw [Registry.removeMode, editId_eq]
    exact valid_removeResolution hr _ resolution
  | removeModeQuery query resolution =>
    rw [Registry.removeModeQuery, editQuery_eq]
    exact valid_removeResolution hr _ resolution
  | rename i name => exact valid_rename hr (some i) name
  | renameId id name =>
    rw [editId_eq]
    exact valid_rename hr _ name
  | renameQuery query name =>
    rw [editQuery_eq]
    exact valid_rename hr _ name
  | renameEach name =>
    have heach : (edit (Edit.atEach fun m => Monitor.rename (name m) m) r).2 =
        ⟨r.monitors.map fun m => { m with name := name m }⟩ := congrArg mk (List.map_map ..)
    rw [heach]
    refine valid_map hr (fun m => ?_) (fun m => ?_)
    all_goals rfl
  | reorder h => exact valid_of_perm hr h
  | addNew hid hm => exact valid_push hr (newId_not_mem hid) (Monitor.valid_iff.1 hm)
  | @replaceMonitor n hn =>
    rw [Registry.replaceMonitor, editId_eq]
    refine valid_editAt hr fun i m hi hm _ => ⟨?_, Monitor.valid_iff.1 hn⟩
    -- the monitor that goes was found by the id of the one that comes
    exact (id_of_findIdx? hi hm).symm
  | addMode hmode hnew =>
    rw [Registry.addMode, editId_eq]
    refine valid_addMode hr hmode fun i m hi hm => hnew m ?_
    exact find?_eq_some.2 ⟨i, findIdx?_hasId.1 hi, hm⟩
  | addModeQuery hmode hnew =>
    rw [Registry.addModeQuery, editQuery_eq]
    exact valid_addMode hr hmode fun i m hi hm => hnew m (actsAt hi hm).findQuery

/-- A valid registry is valid after any number of such edits. -/
theorem valid_after_upkeep (hr : r.valid = true) (h : Relation.ReflTransGen Upkeep r r') :
    r'.valid = true := by
  induction h with
  | refl => exact hr
  | tail _ hstep ih => exact hstep.valid ih

/-- A monitor is added under the least free id, and a mode to the monitor that has the id `1`, not to
the one that has the name. -/
theorem valid_after_upkeep_of_two :
    let mode : Mode := .ofRates 800 600 [60]
    let r : Registry := ⟨[{ id := 0, modes := [mode] }, { id := 2, name := some "1" }]⟩
    let r' : Registry := ⟨[{ id := 0, modes := [mode] }, { id := 2, name := some "1" },
      { id := 1, modes := [mode] }]⟩
    r.valid = true ∧ Relation.ReflTransGen Upkeep r r' ∧ r'.valid = true := by
  intro mode r r'
  have hr : r.valid = true := by decide +kernel
  have hadd : r.Upkeep (push { id := 1 } r).2 :=
    @Upkeep.addNew r none { id := 1 } (by decide +kernel) (by decide +kernel)
  have hquery : (push { id := 1 } r).2.findQuery? "1" = some { id := 1 } := by decide +kernel
  have hmode : (push { id := 1 } r).2.Upkeep (addModeQuery "1" mode (push { id := 1 } r).2).2 := by
    refine .addModeQuery (by decide +kernel) fun m hm => ?_
    cases hquery.symm.trans hm
    rfl
  have hlast : (addModeQuery "1" mode (push { id := 1 } r).2).2 = r' := by decide +kernel
  rw [hlast] at hmode
  have hsteps : Relation.ReflTransGen Upkeep r r' := .tail (.single hadd) hmode
  exact ⟨hr, hsteps, valid_after_upkeep hr hsteps⟩

end Registry
end VirtualDisplay
