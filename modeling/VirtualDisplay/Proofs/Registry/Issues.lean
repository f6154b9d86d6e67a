import VirtualDisplay.Proofs.Scan
import VirtualDisplay.Record.Basic

/-! Issues of a registry. An id is reported as repeated if and only if two monitors have it. -/

namespace VirtualDisplay

/-- The issues of a monitor are about its modes. -/
theorem Monitor.duplicateMonitor_not_mem_issues (id : Id) (m : Monitor) :
    .duplicateMonitor id ∉ m.issues := by
  have h : ∀ (p : Passed Resolution) (modes : List Mode),
      .duplicateMonitor id ∉ scan Mode.resolution (Mode.issues m.id) p modes := by
    intro p modes
    induction modes generalizing p with
    | nil => exact List.not_mem_nil
    | cons mode modes ih =>
      rw [scan, List.mem_append, not_or]
      refine ⟨?_, ih _⟩
      unfold Mode.issues
      split <;> split <;> split <;> simp
  exact h {} m.modes

namespace Registry

/-- An id is reported once if it is in use more than once, and else it is not reported. -/
theorem count_duplicateMonitor_issues (r : Registry) (id : Id) :
    r.issues.count (.duplicateMonitor id) = if 2 ≤ r.ids.count id then 1 else 0 := by
  have hmodes : .duplicateMonitor id ∉ r.monitors.flatMap Monitor.issues := by
    rw [List.mem_flatMap]
    rintro ⟨m, -, h⟩
    exact m.duplicateMonitor_not_mem_issues id h
  have hinj : Function.Injective Issue.duplicateMonitor := by
    intro a b h
    cases h
    rfl
  rw [issues, List.count_append, List.count_eq_zero.2 hmodes, List.count_map_of_injective _ _ hinj,
    duplicateIds, count_repeated, Nat.add_zero]

theorem duplicateMonitor_mem_issues {r : Registry} {id : Id} :
    .duplicateMonitor id ∈ r.issues ↔ 2 ≤ r.ids.count id := by
  rw [← List.count_pos_iff, count_duplicateMonitor_issues]
  split <;> simp [*]

theorem nodup_ids_iff {r : Registry} : r.ids.Nodup ↔ ∀ id, .duplicateMonitor id ∉ r.issues := by
  rw [List.nodup_iff_count]
  refine forall_congr' fun id => ?_
  rw [duplicateMonitor_mem_issues]
  omega

theorem duplicateMonitor_not_mem_issues {r : Registry} (h : r.ids.Nodup) (id : Id) :
    .duplicateMonitor id ∉ r.issues :=
  nodup_ids_iff.1 h id

theorem ids_ofRecords (rs : DriverState) : (ofRecords rs).ids = rs.map (·.id) := by
  simp [ofRecords, ids, MonitorRecord.toMonitor, Function.comp_def]

end Registry
end VirtualDisplay
