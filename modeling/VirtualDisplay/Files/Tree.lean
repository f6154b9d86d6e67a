import VirtualDisplay.Edit
import VirtualDisplay.Files.Path
import VirtualDisplay.Text.Utf8

/-! A tree of directories and regular files. It holds no links, so a place has one path and a file one
place. Every operation follows the names of a path from the root, through directories, and either does
all it says or fails. -/

namespace VirtualDisplay.Files

inductive Content
  | text (s : String)
  | bytes (bs : List UInt8)
  deriving DecidableEq

namespace Content

def ofBytes (bs : List UInt8) : Content :=
  match Text.ofUtf8? bs with
  | some cs => .text (String.ofList cs)
  | none => .bytes bs

def shown : Content → String
  | .text s => s
  | .bytes bs => String.ofList (Text.ofUtf8 bs)

end Content

inductive Node
  | directory
  | file (content : Content)
  deriving DecidableEq

/-- Where a node is: the names that lead to it from the root. -/
abbrev Place := List String

/-- The nodes below the root, each under its place, in the order in which they were made. -/
structure Tree where
  nodes : List (Place × Node) := []

inductive Fault
  | missing
  | refused
  deriving DecidableEq

namespace Tree

def find (place : Place) : List (Place × Node) → Option Node
  | [] => none
  | (p, n) :: ns => if p = place then some n else find place ns

def node? (t : Tree) (place : Place) : Option Node :=
  if place = [] then some .directory else find place t.nodes

def store (place : Place) (n : Node) : List (Place × Node) → List (Place × Node)
  | [] => [(place, n)]
  | (p, m) :: ns => if p = place then (p, n) :: ns else (p, m) :: store place n ns

def put (place : Place) (n : Node) (t : Tree) : Tree := ⟨store place n t.nodes⟩

def erase (place : Place) (t : Tree) : Tree := ⟨t.nodes.filter (·.1 ≠ place)⟩

def maxName : Nat := 255

def next (place : Place) (name : String) : Place :=
  if name = "." then place else if name = ".." then place.dropLast else place ++ [name]

/-- Fails unless a name can be looked up at a place. -/
def enter (t : Tree) (place : Place) (name : String) : Except Fault Unit :=
  match t.node? place with
  | none => .error .missing
  | some (.file _) => .error .refused
  | some .directory => if maxName < name.utf8ByteSize then .error .refused else .ok ()

/-- Follows names from a place. What they lead to need not be there. -/
def walk (t : Tree) : Place → List String → Except Fault Place
  | place, [] => .ok place
  | place, n :: ns => do
    t.enter place n
    t.walk (next place n) ns

def maxPath : Nat := 4095

def accepts (p : Path) : Bool := p.text.utf8ByteSize ≤ maxPath && !p.text.contains '\x00'

def resolve (t : Tree) (p : Path) : Except Fault Place :=
  if !accepts p then .error .refused
  else if p.text = "" then .error .missing
  else t.walk [] p.names

def readText (t : Tree) (p : Path) : Except Fault String := do
  match t.node? (← t.resolve p) with
  | none => .error .missing
  | some (.file (.text s)) => .ok s
  | some _ => .error .refused

def write (p : Path) (c : Content) : Edit Tree (Except Fault Unit) := fun t =>
  match t.resolve p with
  | .error e => (.error e, t)
  | .ok place => match t.node? place with
    | some .directory => (.error .refused, t)
    | _ => (.ok (), t.put place (.file c))

/-- Makes every directory on the way that is missing. -/
def makeFrom : Place → List String → Edit Tree (Except Fault Unit)
  | _, [], t => (.ok (), t)
  | place, n :: ns, t =>
    match t.enter place n with
    | .error e => (.error e, t)
    | .ok () => match t.node? (next place n) with
      | some .directory => makeFrom (next place n) ns t
      | some (.file _) => (.error .refused, t)
      | none => makeFrom (next place n) ns (t.put (next place n) .directory)

def makeDirectories (p : Path) : Edit Tree (Except Fault Unit) := fun t =>
  if accepts p then makeFrom [] p.names t else (.error .refused, t)

def rename (source target : Path) : Edit Tree (Except Fault Unit) := fun t =>
  match t.resolve source, t.resolve target with
  | .ok a, .ok b => match t.node? a, t.node? b with
    | none, _ => (.error .missing, t)
    | some .directory, _ | _, some .directory => (.error .refused, t)
    -- a file moved to where it is stays there
    | some (.file c), _ => (.ok (), if a = b then t else (t.erase a).put b (.file c))
  | .error e, _ | _, .error e => (.error e, t)

end Tree
end VirtualDisplay.Files
