import VirtualDisplay.Record.Strict
import VirtualDisplay.Wire.Command

/-! Decoding commands. A union of two kinds holds the text in memory and tries one kind after the
other. -/

namespace VirtualDisplay

open Json

namespace Wire

/-- The name of a command and its payload, if it is written with one. -/
def split? : Value → Option (List Point × Option Value)
  | .string s => some (s, none)
  | .object [(k, v)] => some (k, some v)
  | _ => none

/-- A command without payload may be written with a null one. -/
def bare {α : Type} (c : α) : Option Value → Option α
  | none | some .null => some c
  | _ => none

def driver? (v : Value) : Option DriverCommand := do
  let (name, payload) ← split? v
  if name = points "Notify" then (payload.bind Strict.monitors?).map .notify
  else if name = points "Remove" then (payload.bind (Strict.list? Strict.word?)).map .remove
  else if name = points "RemoveAll" then bare .removeAll payload
  else none

def request? (v : Value) : Option RequestCommand := do
  let (name, payload) ← split? v
  if name = points "State" then bare .state payload else none

def reply? (v : Value) : Option ReplyCommand := do
  let (name, payload) ← split? v
  if name = points "State" then (payload.bind Strict.monitors?).map .state else none

def event? (v : Value) : Option EventCommand := do
  let (name, payload) ← split? v
  if name = points "Changed" then (payload.bind Strict.monitors?).map .changed else none

def server? (v : Value) : Option ServerCommand :=
  if v.plain then ((driver? v).map .driver).or ((request? v).map .request) else none

def client? (v : Value) : Option ClientCommand :=
  if v.plain then ((reply? v).map .reply).or ((event? v).map .event) else none

end Wire
end VirtualDisplay
