import VirtualDisplay.Proofs.Registry.Records

/-! Records on the way into a registry and out again. Refresh rates that a mode repeats fall together,
the first of each stays where it is, and nothing else changes. -/

namespace VirtualDisplay

/-! ### What is coalesced -/

def ModeRecord.coalesced (m : ModeRecord) : ModeRecord := { m with rates := m.rates.eraseDups }

def MonitorRecord.coalesced (m : MonitorRecord) : MonitorRecord :=
  { m with modes := m.modes.map ModeRecord.coalesced }

namespace DriverState

def coalesced (s : DriverState) : DriverState := s.map MonitorRecord.coalesced

/-- Some mode holds a refresh rate more than once. -/
def RepeatsRate (s : DriverState) : Prop := ∃ m ∈ s, ∃ mode ∈ m.modes, ¬ mode.rates.Nodup

instance (s : DriverState) : Decidable s.RepeatsRate :=
  inferInstanceAs (Decidable (∃ m ∈ s, ∃ mode ∈ m.modes, ¬ mode.rates.Nodup))

end DriverState

theorem ModeRecord.coalesced_eq_self {m : ModeRecord} : m.coalesced = m ↔ m.rates.Nodup := by
  constructor
  · intro h
    have hrates : m.rates.eraseDups = m.rates := congrArg ModeRecord.rates h
    rw [← hrates, ← RateSet.rates_ofList]
    exact (RateSet.ofList m.rates).nodup
  · intro h
    rw [coalesced, eraseDups_of_nodup h]

theorem map_eq_self {β : Type} {f : β → β} {xs : List β} : xs.map f = xs ↔ ∀ x ∈ xs, f x = x := by
  have h : xs.map f = xs ↔ xs.map f = xs.map fun x => x := by rw [List.map_id']
  rw [h, List.map_inj_left]

theorem MonitorRecord.coalesced_eq_self {m : MonitorRecord} :
    m.coalesced = m ↔ ∀ mode ∈ m.modes, mode.rates.Nodup := by
  have hmodes : m.coalesced = m ↔ m.modes.map ModeRecord.coalesced = m.modes :=
    ⟨congrArg MonitorRecord.modes, fun h => by rw [coalesced, h]⟩
  rw [hmodes, map_eq_self]
  exact forall₂_congr fun _ _ => ModeRecord.coalesced_eq_self

namespace DriverState

theorem coalesced_eq_self {s : DriverState} : s.coalesced = s ↔ ¬ s.RepeatsRate := by
  rw [coalesced, map_eq_self, RepeatsRate]
  simp only [MonitorRecord.coalesced_eq_self, not_exists, not_and, Classical.not_not]

end DriverState

/-! ### There and back -/

theorem ModeRecord.ofMode_toMode (m : ModeRecord) : ofMode m.toMode = m.coalesced := by
  rw [ofMode, toMode, Mode.ofRates, RateSet.rates_ofList, coalesced]

theorem MonitorRecord.ofMonitor_toMonitor (m : MonitorRecord) :
    ofMonitor m.toMonitor = m.coalesced := by
  simp [ofMonitor, toMonitor, coalesced, ModeRecord.ofMode_toMode, Function.comp_def]

theorem Registry.toRecords_ofRecords (rs : DriverState) : (ofRecords rs).toRecords = rs.coalesced := by
  simp [toRecords, ofRecords, DriverState.coalesced, MonitorRecord.ofMonitor_toMonitor,
    Function.comp_def]

/-- A registry is made again of its records. Records come out of a registry without the rates that their
mode has before, and otherwise as they went in. A second time changes nothing, and the first time changes
nothing if no mode repeats a rate, and only then. -/
theorem Registry.records_there_and_back :
    (∀ r : Registry, ofRecords r.toRecords = r) ∧
    ∀ rs : DriverState, (ofRecords rs).toRecords = rs.coalesced ∧
      (ofRecords (ofRecords rs).toRecords).toRecords = (ofRecords rs).toRecords ∧
      ((ofRecords rs).toRecords = rs ↔ ¬ rs.RepeatsRate) := by
  refine ⟨ofRecords_toRecords, fun rs => ⟨toRecords_ofRecords rs, ?_, ?_⟩⟩
  · rw [ofRecords_toRecords]
  · rw [toRecords_ofRecords]
    exact DriverState.coalesced_eq_self

end VirtualDisplay
