import VirtualDisplay.Toml.Value

/-! Building tables. A key has one value; a table has at most one header, dotted keys do not extend a
table that has one, and nothing extends a table in braces. -/

namespace VirtualDisplay.Toml

def Origin.takesDotted : Origin → Bool
  | .parent | .dotted => true
  | .header | .inline => false

/-- Changes the entries of the table at the end of a path. Tables on the way that are missing are
made with the origin `made`; of tables under one name the last is entered. -/
def descend (made : Origin) (change : Origin → Entries → Option Entries) :
    List String → Origin → Entries → Option Entries
  | [], origin, es => change origin es
  | k :: ks, _, es =>
    match lookup? k es with
    | none => (descend made change ks made []).map fun inner => es ++ [(k, .table made inner)]
    | some (.table origin inner) =>
      if origin = .inline ∨ (made = .dotted ∧ !origin.takesDotted) then none
      else (descend made change ks origin inner).map fun inner =>
        update k (.table origin inner) es
    | some (.tables items) => match items.getLast? with
      | none => none
      | some inner => (descend made change ks .header inner).map fun inner =>
        update k (.tables (items.dropLast ++ [inner])) es
    | some _ => none

def addNew (key : String) (v : Value) (es : Entries) : Option Entries :=
  match lookup? key es with
  | none => some (es ++ [(key, v)])
  | some _ => none

/-- Adds a value under a dotted key. A path of more than one part ends in a table that dotted keys
made, and a plain key does not. -/
def addDotted (path : List String) (key : String) (v : Value) (origin : Origin) (es : Entries) :
    Option Entries :=
  descend .dotted (fun o es => if o = .dotted ↔ path = [] then none else addNew key v es)
    path origin es

def openTable (parents : List String) (key : String) : Entries → Option Entries :=
  descend .parent (fun _ es => match lookup? key es with
    | none => some (es ++ [(key, .table .header [])])
    | some (.table .parent inner) => some (update key (.table .header inner) es)
    | some _ => none) parents .header

/-- Begins one more of the tables under one name. -/
def openNext (parents : List String) (key : String) : Entries → Option Entries :=
  descend .parent (fun _ es => match lookup? key es with
    | none => some (es ++ [(key, .tables [[]])])
    | some (.tables items) => some (update key (.tables (items ++ [[]])) es)
    | some _ => none) parents .header

def addAt (current path : List String) (key : String) (v : Value) : Entries → Option Entries :=
  descend .parent (addDotted path key v) current .header

end VirtualDisplay.Toml
