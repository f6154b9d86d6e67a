import VirtualDisplay.Proofs.Registry.Issues

/-! Validity. A registry is valid if and only if it has no issue, and both say that every mode can be
shown, that no monitor has two modes of one resolution, and that no two monitors share an id. -/

namespace VirtualDisplay

/-! ### Modes and monitors -/

/-- A mode that can be shown. -/
structure Mode.Proper (m : Mode) : Prop where
  width : 0 < m.width
  height : 0 < m.height
  rates : m.rates.rates ≠ []

/-- A monitor that can show all its modes and tell them apart. -/
structure Monitor.Proper (m : Monitor) : Prop where
  modes : ∀ mode ∈ m.modes, mode.Proper
  distinct : (m.modes.map Mode.resolution).Nodup

namespace Mode

theorem proper_iff {m : Mode} : m.Proper ↔ 0 < m.width ∧ 0 < m.height ∧ m.rates.rates ≠ [] :=
  ⟨fun h => ⟨h.width, h.height, h.rates⟩, fun h => ⟨h.1, h.2.1, h.2.2⟩⟩

theorem valid_iff {m : Mode} : m.valid = true ↔ m.Proper := by
  simp only [valid, RateSet.valid, Bool.and_eq_true, bne_iff_ne, ← UInt32.pos_iff_ne_zero,
    Bool.not_eq_true', List.isEmpty_eq_false_iff, proper_iff, and_assoc]

/-- Of the three checks of a mode, the first two are those of `valid`. -/
theorem issues_eq_nil {id : Id} {again : Bool} {m : Mode} :
    m.issues id again = [] ↔ m.Proper ∧ again = false := by
  have hzero : ¬ (m.width = 0 ∨ m.height = 0) ↔ 0 < m.width ∧ 0 < m.height := by
    rw [not_or, UInt32.pos_iff_ne_zero, UInt32.pos_iff_ne_zero]
  have hrates : m.rates.valid = true ↔ m.rates.rates ≠ [] := by
    simp [RateSet.valid]
  simp only [issues, List.append_eq_nil_iff, ite_eq_right_iff, ite_eq_left_iff, List.cons_ne_nil,
    imp_false, hzero, Decidable.not_not, hrates, proper_iff, Bool.not_eq_true, and_assoc]

/-- What the scan for issues lists beyond modes that cannot be shown is what a scan for repeated
resolutions would list. -/
theorem scan_issues_eq_nil {monitor : Id} {p : Passed Resolution} {modes : List Mode} :
    scan resolution (issues monitor) p modes = [] ↔ (∀ mode ∈ modes, mode.Proper) ∧
      scan id (fun again r => if again then [r] else []) p (modes.map resolution) = [] := by
  induction modes generalizing p with
  | nil => simp [scan]
  | cons mode modes ih =>
    rw [scan, List.append_eq_nil_iff, issues_eq_nil, ih, List.map_cons, scan,
      List.append_eq_nil_iff, List.forall_mem_cons]
    simp [and_and_and_comm]

end Mode

namespace Monitor

theorem proper_iff {m : Monitor} :
    m.Proper ↔ (∀ mode ∈ m.modes, mode.Proper) ∧ (m.modes.map Mode.resolution).Nodup :=
  ⟨fun h => ⟨h.modes, h.distinct⟩, fun h => ⟨h.1, h.2⟩⟩

theorem issues_eq_nil {m : Monitor} : m.issues = [] ↔ m.Proper := by
  rw [issues, Mode.scan_issues_eq_nil, ← repeated, repeated_eq_nil, proper_iff]

theorem valid_iff {m : Monitor} : m.valid = true ↔ m.Proper := by
  simp only [valid, Bool.and_eq_true, List.all_eq_true, Bool.not_eq_true', recurs_eq_false,
    List.not_mem_nil, not_false_eq_true, implies_true, and_true, Mode.valid_iff, proper_iff]

end Monitor

/-! ### Registries -/

namespace Registry

theorem duplicateIds_eq_nil {r : Registry} : r.duplicateIds = [] ↔ r.ids.Nodup := repeated_eq_nil

theorem valid_iff {r : Registry} : r.valid = true ↔ r.ids.Nodup ∧ ∀ m ∈ r.monitors, m.Proper := by
  rw [valid, Bool.and_eq_true, List.all_eq_true, List.isEmpty_iff, duplicateIds_eq_nil, and_comm]
  simp only [Monitor.valid_iff]

theorem issues_eq_nil {r : Registry} : r.issues = [] ↔ r.ids.Nodup ∧ ∀ m ∈ r.monitors, m.Proper := by
  rw [issues, List.append_eq_nil_iff, List.map_eq_nil_iff, duplicateIds_eq_nil, List.flatMap_eq_nil_iff]
  simp only [Monitor.issues_eq_nil]

/-- The check of a registry, the list of its issues and what the two are about agree, and so do the
check and the list of a monitor. -/
theorem validities_agree (r : Registry) :
    (r.valid = true ↔ r.issues = []) ∧
    (r.issues = [] ↔ (r.monitors.map (·.id)).Nodup ∧ ∀ m ∈ r.monitors,
      (∀ mode ∈ m.modes, 0 < mode.width ∧ 0 < mode.height ∧ mode.rates.rates ≠ []) ∧
        (m.modes.map fun mode => (mode.width, mode.height)).Nodup) ∧
    ∀ m : Monitor, m.valid = true ↔ m.issues = [] := by
  refine ⟨valid_iff.trans issues_eq_nil.symm, issues_eq_nil.trans ?_,
    fun m => Monitor.valid_iff.trans Monitor.issues_eq_nil.symm⟩
  simp only [Monitor.proper_iff, Mode.proper_iff]
  rfl

end Registry
end VirtualDisplay
