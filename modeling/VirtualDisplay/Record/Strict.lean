import VirtualDisplay.Json.Reader
import VirtualDisplay.Record.Basic

/-! Decoding records that a program wrote. A record is an object, none of whose known members comes
twice, or an array of its fields in order, short of trailing fields that have a default. Null stands
only for an absent name. -/

namespace VirtualDisplay

open Json

namespace Strict

variable {α : Type}

def word? : Value → Option UInt32
  | .number n => match n.kind with
    | .natural k => if k < UInt32.size then some (UInt32.ofNat k) else none
    | _ => none
  | _ => none

def boolean? : Value → Option Bool
  | .bool b => some b
  | _ => none

def name? : Value → Option (Option String)
  | .null => some none
  | .string s => (text? s).map some
  | _ => none

def each? (decode : Value → Option α) : List Value → Option (List α)
  | [] => some []
  | v :: vs => do
    let a ← decode v
    let as ← each? decode vs
    some (a :: as)

def list? (decode : Value → Option α) : Value → Option (List α)
  | .array vs => each? decode vs
  | _ => none

def valuesOf (key : String) (ms : List (List Point × Value)) : List Value :=
  (ms.filter fun m => m.1 = points key).map (·.2)

def keysAreText (ms : List (List Point × Value)) : Bool := ms.all fun m => (chars? m.1).isSome

/-- The one value under a key, or the default if there is one and the key is absent. -/
def field? (key : String) (default : Option α) (decode : Value → Option α)
    (ms : List (List Point × Value)) : Option α :=
  match valuesOf key ms with
  | [] => default
  | [v] => decode v
  | _ => none

/-- The next value of an array, or the default at its end. -/
def next? (default : Option α) (decode : Value → Option α) : List Value → Option (α × List Value)
  | [] => default.map (·, [])
  | v :: vs => (decode v).map (·, vs)

def mode? : Value → Option ModeRecord
  | .object ms =>
    if keysAreText ms then do
      let width ← field? "width" none word? ms
      let height ← field? "height" none word? ms
      let rates ← field? "refresh_rates" (some []) (list? word?) ms
      some { width, height, rates }
    else none
  | .array vs => do
    let (width, vs) ← next? none word? vs
    let (height, vs) ← next? none word? vs
    let (rates, vs) ← next? (some []) (list? word?) vs
    if vs.isEmpty then some { width, height, rates } else none
  | _ => none

def monitor? : Value → Option MonitorRecord
  | .object ms =>
    if keysAreText ms then do
      let id ← field? "id" none word? ms
      let name ← field? "name" (some none) name? ms
      let enabled ← field? "enabled" (some true) boolean? ms
      let modes ← field? "modes" (some []) (list? mode?) ms
      some { id, name, enabled, modes }
    else none
  | .array vs => do
    let (id, vs) ← next? none word? vs
    let (name, vs) ← next? (some none) name? vs
    let (enabled, vs) ← next? (some true) boolean? vs
    let (modes, vs) ← next? (some []) (list? mode?) vs
    if vs.isEmpty then some { id, name, enabled, modes } else none
  | _ => none

def monitors? : Value → Option DriverState := list? monitor?

/-- Reads text of any nesting and decodes it. -/
def ofText? (decode : Value → Option α) (s : String) : Option α := (read s.toList).bind decode

end Strict
end VirtualDisplay
