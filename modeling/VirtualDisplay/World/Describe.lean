import VirtualDisplay.Text.Quoted
import VirtualDisplay.World.Basic

/-! A session in one line, for people who look for a fault. -/

namespace VirtualDisplay

open Text

def fieldsText (name : String) (fields : List (String × String)) (openEnded : Bool) : String :=
  let shown := fields.map (fun f => f.1 ++ ": " ++ f.2) ++ (if openEnded then [".."] else [])
  name ++ " \x7b " ++ ", ".intercalate shown ++ " \x7d"

def listText (items : List String) : String := "[" ++ ", ".intercalate items ++ "]"

def boolText (b : Bool) : String := if b then "true" else "false"

def RateSet.describe (s : RateSet) : String :=
  fieldsText "RefreshRateSet" [("rates", listText (s.rates.map decimal))] false

def Mode.describe (m : Mode) : String :=
  fieldsText "Mode" [("width", decimal m.width), ("height", decimal m.height),
    ("refresh_rates", m.rates.describe)] false

def Monitor.describe (m : Monitor) : String :=
  let name := match m.name with
    | none => "None"
    | some s => "Some(" ++ quoted s ++ ")"
  fieldsText "Monitor" [("id", decimal m.id), ("name", name), ("enabled", boolText m.enabled),
    ("modes", listText (m.modes.map Mode.describe))] false

def Registry.describe (r : Registry) : String :=
  fieldsText "MonitorRegistry" [("monitors", listText (r.monitors.map Monitor.describe))] false

def Session.describe (s : Session) : String :=
  fieldsText "DriverSession" [("registry", s.registry.describe),
    ("following", boolText s.following.isSome)] true

end VirtualDisplay
