import VirtualDisplay.Record.Basic
import VirtualDisplay.Proofs.RateSet.Additions

/-! Registries as records. A registry survives the way to records and back, since the rates of a mode
hold none twice. -/

namespace VirtualDisplay

@[simp] theorem ModeRecord.toMode_ofMode (m : Mode) : (ofMode m).toMode = m := by
  simp [ofMode, toMode, Mode.ofRates]

@[simp] theorem MonitorRecord.toMonitor_ofMonitor (m : Monitor) : (ofMonitor m).toMonitor = m := by
  simp [ofMonitor, toMonitor, Function.comp_def]

theorem Registry.ids_toRecords (r : Registry) : r.toRecords.map (·.id) = r.ids := by
  simp [toRecords, ids, MonitorRecord.ofMonitor, Function.comp_def]

@[simp] theorem Registry.ofRecords_toRecords (r : Registry) : ofRecords r.toRecords = r := by
  simp [ofRecords, toRecords, Function.comp_def]

end VirtualDisplay
