/-! TOML values and tables. A table remembers how it came to be, since that decides what may still be
added to it. -/

namespace VirtualDisplay.Toml

inductive Origin
  /-- Named by a header of its own, or the document. -/
  | header
  /-- Named only by the headers of tables below it. -/
  | parent
  /-- Named only by dotted keys. -/
  | dotted
  /-- Written in braces, which nothing may extend. -/
  | inline
  deriving DecidableEq

/-- Floating-point numbers and dates are told apart from the rest, but what they denote is not kept. -/
inductive Value
  | string (s : String)
  | integer (n : Int)
  | floating
  | boolean (b : Bool)
  | datetime
  | array (items : List Value)
  | table (origin : Origin) (entries : List (String × Value))
  /-- Tables under one name, each begun by a header in double brackets. -/
  | tables (items : List (List (String × Value)))

abbrev Entries := List (String × Value)

def lookup? (key : String) : Entries → Option Value
  | [] => none
  | (k, v) :: es => if k = key then some v else lookup? key es

def update (key : String) (v : Value) : Entries → Entries
  | [] => []
  | (k, w) :: es => if k = key then (k, v) :: es else (k, w) :: update key v es

end VirtualDisplay.Toml
