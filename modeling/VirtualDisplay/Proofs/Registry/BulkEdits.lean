import Mathlib.Data.List.Perm.Subperm
import Mathlib.Data.List.Dedup
import VirtualDisplay.Proofs.Registry.Queries

/-! Edits of all monitors that queries name. The queries are resolved to ids before anything changes, so
neither their order nor their repetitions matter, nor those among them that name nothing. -/

namespace VirtualDisplay
namespace Registry

variable {r : Registry} {queries others : List String} {id : Id}

/-- Some query names the id. -/
def Named (r : Registry) (queries : List String) (id : Id) : Prop :=
  ∃ query ∈ queries, r.findId? query = some id

instance : Decidable (r.Named queries id) :=
  inferInstanceAs (Decidable (∃ query ∈ queries, r.findId? query = some id))

theorem mem_resolve : id ∈ r.resolve queries ↔ r.Named queries id := List.mem_filterMap

theorem removeQuery_eq (queries : List String) (r : Registry) :
    removeQuery queries r = (r.monitors.countP fun m => r.Named queries m.id,
      ⟨r.monitors.filter fun m => ¬ r.Named queries m.id⟩) := by
  simp [removeQuery, remove, removeWhere, edit, Edit.removeWhere, mem_resolve]

theorem setEnabledQuery_eq (queries : List String) (enabled : Bool) (r : Registry) :
    setEnabledQuery queries enabled r = (r.monitors.countP fun m => r.Named queries m.id,
      ⟨r.monitors.map fun m => if r.Named queries m.id then { m with enabled } else m⟩) := by
  simp [setEnabledQuery, setEnabled, mem_resolve]

/-! ### Which queries matter -/

/-- Only those queries count that name something, and they count as a set. -/
theorem named_congr (h : ∀ query, r.findId? query ≠ none → (query ∈ queries ↔ query ∈ others)) :
    r.Named queries = r.Named others := by
  funext id
  refine propext (exists_congr fun query => and_congr_left fun hid => h query ?_)
  rw [hid]
  exact Option.some_ne_none id

theorem named_append (r : Registry) (queries others : List String) (id : Id) :
    r.Named (queries ++ others) id ↔ r.Named queries id ∨ r.Named others id := by
  simp only [Named, List.mem_append, or_and_right, exists_or]

/-- With distinct ids, to name an id is to name the monitor that has it. -/
theorem named_iff_of_nodup (hids : r.ids.Nodup) {m : Monitor} (hm : m ∈ r.monitors) :
    r.Named queries m.id ↔ ∃ query ∈ queries, r.findQuery? query = some m := by
  have hfind : r.find? m.id = some m := by
    obtain ⟨i, hi⟩ := List.getElem?_of_mem hm
    exact find?_eq_some.2 ⟨i, firstAt_of_nodup hids hi, hi⟩
  refine exists_congr fun query => and_congr_right fun _ => ⟨fun hid => ?_, fun hquery => ?_⟩
  · rw [← find?_findId? hids, hid, Option.bind_some, hfind]
  · rw [findId?, hquery, Option.map_some]

/-- Each query names one id at most, and with distinct ids that is one monitor at most. -/
theorem countP_named_le (hids : r.ids.Nodup) (queries : List String) :
    (r.monitors.countP fun m => r.Named queries m.id) ≤ queries.dedup.length := by
  have hsub : ((r.monitors.filter fun m => r.Named queries m.id).map (·.id)) ⊆
      queries.dedup.filterMap r.findId? := by
    intro id hid
    obtain ⟨m, hm, rfl⟩ := List.mem_map.1 hid
    obtain ⟨query, hquery, hnames⟩ := of_decide_eq_true (List.mem_filter.1 hm).2
    exact List.mem_filterMap.2 ⟨query, List.mem_dedup.2 hquery, hnames⟩
  have hnodup : ((r.monitors.filter fun m => r.Named queries m.id).map (·.id)).Nodup :=
    hids.sublist (List.filter_sublist.map _)
  calc (r.monitors.countP fun m => r.Named queries m.id)
      = ((r.monitors.filter fun m => r.Named queries m.id).map (·.id)).length := by
        rw [List.length_map, List.countP_eq_length_filter]
    _ ≤ (queries.dedup.filterMap r.findId?).length := (List.subperm_of_subset hnodup hsub).length_le
    _ ≤ queries.dedup.length := List.length_filterMap_le _ _

/-! ### One after the other -/

/-- Queries look at ids and names alone. -/
theorem findId?_map {f : Monitor → Monitor} (hid : ∀ m, (f m).id = m.id)
    (hname : ∀ m, (f m).name = m.name) (query : String) :
    findId? ⟨r.monitors.map f⟩ query = r.findId? query := by
  have hposition : position? ⟨r.monitors.map f⟩ query = r.position? query := by
    simp only [position?, List.findIdx?_map, Function.comp_def, hasId, hasName, hid, hname]
    rfl
  simp only [findId?, findQuery?, hposition, Option.map_bind, Function.comp_def, List.getElem?_map,
    Option.map_map, hid]

theorem named_setEnabledQuery (queries others : List String) (enabled : Bool) (r : Registry) :
    (setEnabledQuery queries enabled r).2.Named others = r.Named others := by
  have hfind : (setEnabledQuery queries enabled r).2.findId? = r.findId? := by
    funext query
    rw [setEnabledQuery_eq]
    refine findId?_map (fun m => ?_) (fun m => ?_) query
    all_goals split <;> rfl
  funext id
  rw [Named, hfind]
  rfl

theorem setEnabledQuery_append (queries others : List String) (enabled : Bool) (r : Registry) :
    (setEnabledQuery others enabled (setEnabledQuery queries enabled r).2).2 =
      (setEnabledQuery (queries ++ others) enabled r).2 := by
  rw [setEnabledQuery_eq others]
  simp only [named_setEnabledQuery]
  rw [setEnabledQuery_eq, setEnabledQuery_eq, List.map_map]
  refine congrArg mk (List.map_congr_left fun m _ => ?_)
  by_cases hfirst : r.Named queries m.id <;> by_cases hsecond : r.Named others m.id <;>
    simp [named_append, hfirst, hsecond]

/-- Whoever has an id that queries name in the registry as it stands is taken out, or has the flag set,
and is counted; the others stay as they are and where they are. Of the queries, only the set of those
counts that name something. With distinct ids they name monitors, no more than there are queries. To set
the flag by some queries and then by others is to set it by all at once. -/
theorem bulk_edits_by_query (r : Registry) (queries : List String) :
    removeQuery queries r = (r.monitors.countP fun m => r.Named queries m.id,
      ⟨r.monitors.filter fun m => ¬ r.Named queries m.id⟩) ∧
    (∀ enabled, setEnabledQuery queries enabled r = (r.monitors.countP fun m => r.Named queries m.id,
      ⟨r.monitors.map fun m => if r.Named queries m.id then { m with enabled } else m⟩)) ∧
    (∀ others, (∀ query, r.findId? query ≠ none → (query ∈ queries ↔ query ∈ others)) →
      removeQuery queries r = removeQuery others r ∧
      ∀ enabled, setEnabledQuery queries enabled r = setEnabledQuery others enabled r) ∧
    (r.ids.Nodup →
      (∀ m ∈ r.monitors, r.Named queries m.id ↔ ∃ query ∈ queries, r.findQuery? query = some m) ∧
      (removeQuery queries r).1 ≤ queries.dedup.length ∧
      ∀ enabled, (setEnabledQuery queries enabled r).1 ≤ queries.dedup.length) ∧
    ∀ others enabled, (setEnabledQuery others enabled (setEnabledQuery queries enabled r).2).2 =
      (setEnabledQuery (queries ++ others) enabled r).2 := by
  refine ⟨removeQuery_eq queries r, fun enabled => setEnabledQuery_eq queries enabled r,
    fun others h => ?_, fun hids => ?_, fun others enabled => setEnabledQuery_append ..⟩
  · have hnamed := named_congr h
    exact ⟨by simp only [removeQuery_eq, hnamed],
      fun enabled => by simp only [setEnabledQuery_eq, hnamed]⟩
  · have hle := countP_named_le hids queries
    refine ⟨fun m hm => named_iff_of_nodup hids hm, ?_, fun enabled => ?_⟩
    · rw [removeQuery_eq]
      exact hle
    · rw [setEnabledQuery_eq]
      exact hle

/-- Both "1" and "desk" name the monitor with the id `1`. Were it taken out for the one, the other would
name the last monitor. -/
theorem bulk_edits_by_query_of_three :
    let r : Registry := ⟨[{ id := 2, name := some "1" }, { id := 1, name := some "desk" },
      { id := 3, name := some "desk" }]⟩
    let queries := ["1", "lamp", "desk", "1"]
    (∀ query, r.findId? query ≠ none → (query ∈ queries ↔ query ∈ ["desk", "1"])) ∧
      removeQuery queries r = removeQuery ["desk", "1"] r ∧ r.ids.Nodup ∧
      (∃ query ∈ queries, r.findQuery? query = some { id := 1, name := some "desk" }) ∧
      (removeQuery queries r).1 ≤ 3 ∧
      (removeQuery queries r).2 =
        ⟨[{ id := 2, name := some "1" }, { id := 3, name := some "desk" }]⟩ := by
  intro r queries
  have hlamp : r.findId? "lamp" = none := by decide +kernel
  have hsame : ∀ query, r.findId? query ≠ none → (query ∈ queries ↔ query ∈ ["desk", "1"]) := by
    intro query hquery
    have hne : query ≠ "lamp" := fun h => hquery (h ▸ hlamp)
    simp only [queries, List.mem_cons, List.not_mem_nil, hne, or_false, false_or]
    tauto
  have hids : r.ids.Nodup := by decide
  have hnamed : r.Named queries 1 := by decide +kernel
  obtain ⟨-, -, hothers, hdistinct, -⟩ := bulk_edits_by_query r queries
  obtain ⟨hmonitors, hle, -⟩ := hdistinct hids
  exact ⟨hsame, (hothers _ hsame).1, hids, (hmonitors _ (by decide)).1 hnamed, hle, by decide +kernel⟩

end Registry
end VirtualDisplay
