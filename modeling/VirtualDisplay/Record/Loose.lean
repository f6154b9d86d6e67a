import VirtualDisplay.Json.Reader
import VirtualDisplay.Record.Basic

/-! Building records from JSON values that a person may have written. A member that is absent or null
takes its default, unknown members are passed over, and the first fault is reported with the path that
leads to it. -/

namespace VirtualDisplay

open Json

inductive PathStep
  | member (key : String)
  | index (i : Nat)
  deriving DecidableEq

inductive Expected
  | integer
  | string
  | boolean
  | array
  | monitors
  deriving DecidableEq

inductive RecordError
  | malformed
  | notAnObject (path : List PathStep)
  | missingField (path : List PathStep)
  | wrongType (path : List PathStep) (expected : Expected)
  | outOfRange (path : List PathStep) (value : String)
  deriving DecidableEq

/-- Member names are joined by dots, and indices stand in brackets. -/
def pathText : List PathStep → String
  | [] => ""
  | .index i :: ps => "[" ++ String.ofList (Text.digits i) ++ "]" ++ following ps
  | .member k :: ps => k ++ following ps
where
  following : List PathStep → String
    | [] => ""
    | .index i :: ps => "[" ++ String.ofList (Text.digits i) ++ "]" ++ following ps
    | .member k :: ps => "." ++ k ++ following ps

def Expected.text : Expected → String
  | integer => "an integer"
  | string => "a string"
  | boolean => "a boolean"
  | array => "an array"
  | monitors => "an array of monitors"

namespace RecordError

/-- The wording. What is wrong with malformed text is left to the reader's own report, `...`. -/
def message : RecordError → String
  | malformed => "malformed record JSON: ..."
  | notAnObject [] => "<root>: expected an object"
  | notAnObject path => pathText path ++ ": expected an object"
  | missingField path => pathText path ++ ": missing required field"
  | wrongType path expected => pathText path ++ ": expected " ++ expected.text
  | outOfRange path value => pathText path ++ ": " ++ value ++ " is out of range"

/-- The same fault, seen from the value that holds the faulty one. -/
def under (step : PathStep) : RecordError → RecordError
  | malformed => malformed
  | notAnObject path => notAnObject (step :: path)
  | missingField path => missingField (step :: path)
  | wrongType path expected => wrongType (step :: path) expected
  | outOfRange path value => outOfRange (step :: path) value

end RecordError

namespace Loose

variable {α : Type}

def members : Value → Except RecordError (List (List Point × Value))
  | .object ms => .ok ms
  | _ => .error (.notAnObject [])

def word : Value → Except RecordError UInt32
  | .number n => match n.kind with
    | .natural k => if k < UInt32.size then .ok (UInt32.ofNat k) else outOfRange n
    | .negative => outOfRange n
    | .floating => .error (.wrongType [] .integer)
  | _ => .error (.wrongType [] .integer)
where
  outOfRange (n : Number) : Except RecordError UInt32 :=
    .error (.outOfRange [] (String.ofList n.text))

def text : Value → Except RecordError String
  | .string s => match text? s with
    | some t => .ok t
    | none => .error (.wrongType [] .string)
  | _ => .error (.wrongType [] .string)

def boolean : Value → Except RecordError Bool
  | .bool b => .ok b
  | _ => .error (.wrongType [] .boolean)

def itemsFrom (build : Value → Except RecordError α) : Nat → List Value → Except RecordError (List α)
  | _, [] => .ok []
  | i, v :: vs => do
    let a ← (build v).mapError (·.under (.index i))
    let as ← itemsFrom build (i + 1) vs
    pure (a :: as)

def list (build : Value → Except RecordError α) : Value → Except RecordError (List α)
  | .array vs => itemsFrom build 0 vs
  | _ => .error (.wrongType [] .array)

/-- A member that is there and not null. -/
def present? (key : String) (ms : List (List Point × Value)) : Option Value :=
  (member? key ms).filter (!·.isNull)

def required (key : String) (build : Value → Except RecordError α) (ms : List (List Point × Value)) :
    Except RecordError α :=
  match present? key ms with
  | some v => (build v).mapError (·.under (.member key))
  | none => .error (.missingField [.member key])

def optional (key : String) (default : α) (build : Value → Except RecordError α)
    (ms : List (List Point × Value)) : Except RecordError α :=
  match present? key ms with
  | some v => (build v).mapError (·.under (.member key))
  | none => .ok default

def mode (v : Value) : Except RecordError ModeRecord := do
  let ms ← members v
  let width ← required "width" word ms
  let height ← required "height" word ms
  let rates ← optional "refresh_rates" [] (list word) ms
  pure { width, height, rates }

def monitor (v : Value) : Except RecordError MonitorRecord := do
  let ms ← members v
  let id ← required "id" word ms
  let name ← optional "name" none (fun v => (text v).map some) ms
  let enabled ← optional "enabled" true boolean ms
  let modes ← optional "modes" [] (list mode) ms
  pure { id, name, enabled, modes }

def monitors : Value → Except RecordError DriverState
  | .array vs => itemsFrom monitor 0 vs
  | _ => .error (.wrongType [] .monitors)

def ofText (build : Value → Except RecordError α) (s : String) : Except RecordError α :=
  match readPlain s.toList with
  | some v => build v
  | none => .error .malformed

end Loose
end VirtualDisplay
