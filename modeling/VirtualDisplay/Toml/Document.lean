import VirtualDisplay.Toml.Table
import VirtualDisplay.Toml.Text

/-! Reading documents: entries and headers, a line each. -/

namespace VirtualDisplay.Toml

/-- How deep arrays and tables in braces may nest, and how many parts a key may have. -/
def maxNesting : Nat := 79

def skipLines (inComment : Bool) : List Char → Option (List Char)
  | [] => some []
  | '\r' :: '\n' :: cs | '\n' :: cs => skipLines false cs
  | c :: cs =>
    if inComment then (if isAllowed c then skipLines true cs else none)
    else if c = ' ' ∨ c = '\t' then skipLines false cs
    else if c = '#' then skipLines true cs
    else if c = '\r' then none
    else some (c :: cs)

/-! ### Values. The fuel bounds the recursion; the length of the text is enough. -/

mutual

def readValue : Nat → Nat → List Char → Option (Value × List Char)
  | _, 0, _ => none
  | levels, fuel + 1, cs => match cs with
    | '"' :: _ | '\'' :: _ => (readString cs).map fun p => (.string (String.ofList p.1), p.2)
    | 't' :: 'r' :: 'u' :: 'e' :: cs => some (.boolean true, cs)
    | 'f' :: 'a' :: 'l' :: 's' :: 'e' :: cs => some (.boolean false, cs)
    | '[' :: cs => match levels with
      | 0 => none
      | levels + 1 => (readItems levels fuel cs).map fun p => (.array p.1, p.2)
    | '{' :: cs => match levels, dropBlanks cs with
      | 0, _ => none
      | _, '}' :: cs => some (.table .inline [], cs)
      | levels + 1, cs => (readEntries levels fuel [] cs).map fun p => (.table .inline p.1, p.2)
    | cs => readNumeric cs

/-- The items of an array, with lines skipped around each, up to the closing bracket. A comma may
stand before the bracket. -/
def readItems : Nat → Nat → List Char → Option (List Value × List Char)
  | _, 0, _ => none
  | levels, fuel + 1, cs => do
    match ← skipLines false cs with
    | ']' :: cs => some ([], cs)
    | cs => do
      let (v, cs) ← readValue levels fuel cs
      match ← skipLines false cs with
      | ']' :: cs => some ([v], cs)
      | ',' :: cs => (readItems levels fuel cs).map fun p => (v :: p.1, p.2)
      | _ => none

def readEntries : Nat → Nat → Entries → List Char → Option (Entries × List Char)
  | _, 0, _, _ => none
  | levels, fuel + 1, es, cs => do
    let (path, key, cs) ← readKey maxNesting cs
    let (v, cs) ← readValue levels fuel (dropBlanks (← expect '=' cs))
    let es ← addDotted path key v .inline es
    match dropBlanks cs with
    | ',' :: cs => readEntries levels fuel es cs
    | '}' :: cs => some (es, cs)
    | _ => none

end

/-! ### Lines -/

def readLineEnd (cs : List Char) : Option (List Char) :=
  match dropBlanks cs with
  | [] => some []
  | c :: cs => if c = '\n' ∨ c = '\r' ∨ c = '#' then skipLines false (c :: cs) else none

/-- What has been read, and the path of the table that was opened last. -/
structure Document where
  entries : Entries := []
  current : List String := []

namespace Document

def openTable (path : List String) (key : String) (d : Document) : Option Document :=
  (Toml.openTable path key d.entries).map fun entries => { entries, current := path ++ [key] }

def openNext (path : List String) (key : String) (d : Document) : Option Document :=
  (Toml.openNext path key d.entries).map fun entries => { entries, current := path ++ [key] }

def add (path : List String) (key : String) (v : Value) (d : Document) : Option Document :=
  (addAt d.current path key v d.entries).map fun entries => { d with entries }

def readLine (d : Document) : List Char → Option (Document × List Char)
  | '[' :: '[' :: cs => do
    let (path, key, cs) ← readKey maxNesting cs
    let cs ← expect ']' (← expect ']' cs)
    some (← d.openNext path key, ← readLineEnd cs)
  | '[' :: cs => do
    let (path, key, cs) ← readKey maxNesting cs
    let cs ← expect ']' cs
    some (← d.openTable path key, ← readLineEnd cs)
  | cs => do
    let (path, key, cs) ← readKey maxNesting cs
    let cs := dropBlanks (← expect '=' cs)
    let (v, cs) ← readValue maxNesting (2 * cs.length + 2) cs
    some (← d.add path key v, ← readLineEnd cs)

def readLines : Nat → Document → List Char → Option Document
  | _, d, [] => some d
  | 0, _, _ => none
  | fuel + 1, d, cs => do
    let (d, cs) ← d.readLine cs
    readLines fuel d cs

end Document

/-- The entries of a document. A byte order mark before it is passed over. -/
def read (text : List Char) : Option Entries := do
  let cs := match text with
    | '\ufeff' :: cs => cs
    | cs => cs
  let cs ← skipLines false cs
  (← ({} : Document).readLines cs.length cs).entries

end VirtualDisplay.Toml
