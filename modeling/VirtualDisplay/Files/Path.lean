import VirtualDisplay.Text.Split

/-! Paths as text, with slashes between names. Slashes and single dots that add nothing are passed
over when a path is taken apart, and stay in what is left of the text. -/

namespace VirtualDisplay.Files

structure Path where
  text : String
  deriving DecidableEq

namespace Path

/-- Drops slashes, and dots after a slash, at the end of a path whose text is given in reverse. -/
def trimBack : List Char → List Char
  | '.' :: '/' :: cs => trimBack ('/' :: cs)
  | ['/'] => ['/']
  | '/' :: cs => trimBack cs
  | cs => cs

def cutName (p : Path) : List Char × List Char :=
  let cs := trimBack p.text.toList.reverse
  (cs.takeWhile (· ≠ '/'), cs.dropWhile (· ≠ '/'))

def ofReversed (cs : List Char) : Path := ⟨String.ofList cs.reverse⟩

def parent? (p : Path) : Option Path :=
  match p.cutName with
  | ([], _) => none
  | (_, dir) => some (ofReversed (trimBack dir))

def parentDots : List Char := ['.', '.']

/-- The path with an extension in place of that of the last name. One dot or two are no name to take
one, and a name that starts with its only dot has no extension. The old extension goes first, and if
that leaves two dots at the end, they are left alone. -/
def withExtension (p : Path) (ext : String) : Path :=
  let (name, dir) := p.cutName
  let extend (stem : List Char) := ofReversed (ext.toList.reverse ++ '.' :: stem ++ dir)
  if name = [] ∨ name = ['.'] ∨ name = parentDots then p
  else match Text.cut? '.' name with
    | none | some (_, []) => extend name
    | some (_, ['.']) =>
      if p.text.toList.reverse = name ++ dir then ofReversed (parentDots ++ dir) else extend ['.']
    | some (_, stem) => extend stem

def join (p : Path) (name : String) : Path :=
  if p.text = "" then ⟨name⟩
  else if p.text.toList.getLast? = some '/' then ⟨p.text ++ name⟩
  else ⟨p.text ++ "/" ++ name⟩

/-- The names on the way, single dots included. A slash at the end asks for a directory, as a dot
does. -/
def names (p : Path) : List String :=
  let parts := Text.pieces '/' p.text.toList
  let last := if parts.getLast? = some [] then [['.']] else []
  ((parts.filter (· ≠ [])) ++ last).map String.ofList

end Path
end VirtualDisplay.Files
