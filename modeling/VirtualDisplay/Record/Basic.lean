import VirtualDisplay.Json.Value
import VirtualDisplay.Registry.Basic

/-! Records: monitors as they cross the boundary to the driver. A record keeps repeated refresh rates;
they fall together when a mode is made of it. -/

namespace VirtualDisplay

open Json

structure ModeRecord where
  width : Dimension
  height : Dimension
  rates : List Rate := []
  deriving DecidableEq

structure MonitorRecord where
  id : Id
  name : Option String := none
  enabled : Bool := true
  modes : List ModeRecord := []
  deriving DecidableEq

/-- The full state of a driver. -/
abbrev DriverState := List MonitorRecord

namespace ModeRecord

def toMode (r : ModeRecord) : Mode := .ofRates r.width r.height r.rates

def ofMode (m : Mode) : ModeRecord := { width := m.width, height := m.height, rates := m.rates.rates }

end ModeRecord

namespace MonitorRecord

def toMonitor (r : MonitorRecord) : Monitor :=
  { id := r.id, name := r.name, enabled := r.enabled, modes := r.modes.map ModeRecord.toMode }

def ofMonitor (m : Monitor) : MonitorRecord :=
  { id := m.id, name := m.name, enabled := m.enabled, modes := m.modes.map ModeRecord.ofMode }

end MonitorRecord

namespace Registry

def ofRecords (rs : DriverState) : Registry := ⟨rs.map MonitorRecord.toMonitor⟩

def toRecords (r : Registry) : DriverState := r.monitors.map MonitorRecord.ofMonitor

end Registry

/-! ### Records as JSON values, all members written, in the order of the fields. -/

namespace Json

def Value.ofWord (n : UInt32) : Value := .number (.ofNat n.toNat)

def Value.ofText (s : String) : Value := .string (points s)

def fieldMembers (fields : List (String × Value)) : List (List Point × Value) :=
  fields.map fun f => (points f.1, f.2)

def Value.ofFields (fields : List (String × Value)) : Value := .object (fieldMembers fields)

end Json

namespace ModeRecord

def fields (r : ModeRecord) : List (String × Value) :=
  [("width", .ofWord r.width), ("height", .ofWord r.height),
    ("refresh_rates", .array (r.rates.map .ofWord))]

def toValue (r : ModeRecord) : Value := .ofFields r.fields

end ModeRecord

namespace MonitorRecord

def fields (r : MonitorRecord) : List (String × Value) :=
  [("id", .ofWord r.id), ("name", (r.name.map Value.ofText).getD .null),
    ("enabled", .bool r.enabled), ("modes", .array (r.modes.map ModeRecord.toValue))]

def toValue (r : MonitorRecord) : Value := .ofFields r.fields

end MonitorRecord

namespace DriverState

def toValue (rs : DriverState) : Value := .array (rs.map MonitorRecord.toValue)

end DriverState
end VirtualDisplay
