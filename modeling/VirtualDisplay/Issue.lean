import VirtualDisplay.Monitor
import VirtualDisplay.Text.Decimal

/-! What makes a list of monitors unfit for the driver. The checks are advice: they are computed on
demand and stop nothing. -/

namespace VirtualDisplay

open Text

inductive Issue
  | duplicateMonitor (id : Id)
  | duplicateMode (monitor : Id) (width height : Dimension)
  | zeroDimension (monitor : Id) (width height : Dimension)
  | noRates (monitor : Id) (width height : Dimension)
  deriving DecidableEq

namespace Issue

def modeText (monitor : Id) (width height : Dimension) : String :=
  "mode " ++ decimal width ++ "x" ++ decimal height ++ " on monitor " ++ decimal monitor

def message : Issue → String
  | duplicateMonitor id => "duplicate monitor with ID " ++ decimal id
  | duplicateMode monitor width height => "duplicate " ++ modeText monitor width height
  | zeroDimension monitor width height =>
    modeText monitor width height ++ " has a zero dimension"
  | noRates monitor width height => modeText monitor width height ++ " has no refresh rates"

end Issue

/-- The issues of one mode, given whether its resolution is to be reported as repeated. -/
def Mode.issues (monitor : Id) (again : Bool) (m : Mode) : List Issue :=
  (if m.width = 0 ∨ m.height = 0 then [.zeroDimension monitor m.width m.height] else []) ++
  (if m.rates.valid then [] else [.noRates monitor m.width m.height]) ++
  (if again then [.duplicateMode monitor m.width m.height] else [])

def Monitor.issues (m : Monitor) : List Issue := scan Mode.resolution (Mode.issues m.id) {} m.modes

end VirtualDisplay
