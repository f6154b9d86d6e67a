import VirtualDisplay.Config.Basic
import VirtualDisplay.Toml.Document
import VirtualDisplay.Toml.Writer

/-! Settings as text. Unknown keys are passed over, and a group of settings may also be given as an
array of its values in order, of which trailing ones may be missing. -/

namespace VirtualDisplay

open Toml

namespace ClientConfig

/-! ### Reading -/

/-- Where the settings of a group come from: keys, or positions. -/
inductive Group
  | keyed (entries : Entries)
  | listed (items : List Value)

/-- The group under a key. A date is a group without a setting. -/
def group? (key : String) (es : Entries) : Option Group :=
  match lookup? key es with
  | none | some .datetime => some (.keyed [])
  | some (.table _ es) => some (.keyed es)
  | some (.array items) => some (.listed items)
  | some (.tables items) => some (.listed (items.map (.table .header)))
  | some _ => none

def setting {α : Type} (default : α) (decode : Value → Option α) (key : String) (position : Nat) :
    Group → Option α
  | .keyed es => ((lookup? key es).map decode).getD (some default)
  | .listed items => (items[position]?.map decode).getD (some default)

def string? : Value → Option String
  | .string s => some s
  | _ => none

def boolean? : Value → Option Bool
  | .boolean b => some b
  | _ => none

def count? : Value → Option Nat
  | .integer n => if 0 ≤ n then some n.toNat else none
  | _ => none

def ofEntries? (es : Entries) : Option ClientConfig := do
  let logging ← group? "logging" es
  let session ← group? "session" es
  let driver ← group? "driver" es
  let level ← setting ({} : LoggingConfig).level string? "level" 0 logging
  let followDriver ← setting ({} : SessionConfig).followDriver boolean? "follow_driver" 0 session
  let stateFile ← setting none (fun v => (string? v).map some) "state_file" 0 driver
  let eventCapacity ← setting ({} : DriverConfig).eventCapacity count? "event_capacity" 1 driver
  some { logging := { level }, session := { followDriver }, driver := { stateFile, eventCapacity } }

def ofText? (s : String) : Option ClientConfig := (Toml.read s.toList).bind ofEntries?

/-! ### Writing -/

def line (key : String) (value : List Char) : List Char :=
  key.toList ++ [' ', '=', ' '] ++ value ++ ['\n']

def heading (key : String) : List Char := '[' :: key.toList ++ [']', '\n']

def boolText (b : Bool) : List Char := (if b then "true" else "false").toList

/-- The text of the settings. A capacity that no signed 64-bit number holds cannot be written. -/
def chars? (c : ClientConfig) : Option (List Char) :=
  if c.driver.eventCapacity < Text.signedLimit then
    some (heading "logging" ++ line "level" (stringText c.logging.level.toList) ++ ['\n'] ++
      heading "session" ++ line "follow_driver" (boolText c.session.followDriver) ++ ['\n'] ++
      heading "driver" ++
      (c.driver.stateFile.map fun f => line "state_file" (stringText f.toList)).getD [] ++
      line "event_capacity" (Text.digits c.driver.eventCapacity))
  else none

def text? (c : ClientConfig) : Option String := c.chars?.map String.ofList

end ClientConfig
end VirtualDisplay
