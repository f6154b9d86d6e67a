import VirtualDisplay.Toml.Text

/-! Writing strings, the plainest way that holds them. -/

namespace VirtualDisplay.Toml

inductive Style
  | basic
  | literal
  | basicLines
  | literalLines
  deriving DecidableEq

def hasRun (q : Char) : List Char → Bool
  | a :: b :: c :: cs => (a = q && b = q && c = q) || hasRun q (b :: c :: cs)
  | _ => false

/-- Tabs and line breaks are no obstacle to a way of writing, other control characters are. -/
def hasControl (cs : List Char) : Bool := cs.any fun c => isControl c && c ≠ '\t' && c ≠ '\n'

/-- The first style that needs no escapes but for tabs, else one with escapes. -/
def styleOf (cs : List Char) : Style :=
  if hasControl cs then (if '\n' ∈ cs then .basicLines else .basic)
  else if '\n' ∉ cs ∧ '"' ∉ cs ∧ '\\' ∉ cs then .basic
  else if '\n' ∉ cs ∧ '\'' ∉ cs then .literal
  else if '\\' ∉ cs ∧ !hasRun '"' cs then .basicLines
  else if !hasRun '\'' cs then .literalLines
  else if '\n' ∈ cs then .basicLines
  else .basic

def hexText (n : Nat) : List Char :=
  let digit (k : Nat) : Char := (Nat.digitChar (n / k % 16)).toUpper
  [digit 4096, digit 256, digit 16, digit 1]

def escape : Char → List Char
  | '\x08' => ['\\', 'b']
  | '\t' => ['\\', 't']
  | '\x0c' => ['\\', 'f']
  | '\r' => ['\\', 'r']
  | '\\' => ['\\', '\\']
  | c => if isControl c then ['\\', 'u'] ++ hexText c.toNat else [c]

def escapeAll : List Char → List Char
  | [] => []
  | '"' :: cs => '\\' :: '"' :: escapeAll cs
  | '\n' :: cs => '\\' :: 'n' :: escapeAll cs
  | c :: cs => escape c ++ escapeAll cs

/-- Line breaks stand as they are, and of a run of double quotes every third is escaped. The number
counts the quotes right before. -/
def escapeLines : Nat → List Char → List Char
  | _, [] => []
  | 2, '"' :: cs => '\\' :: '"' :: escapeLines 0 cs
  | n, '"' :: cs => '"' :: escapeLines (n + 1) cs
  | _, '\n' :: cs => '\n' :: escapeLines 0 cs
  | _, c :: cs => escape c ++ escapeLines 0 cs

/-- The line break after three opening quotes, for text that has one itself. -/
def opening (cs : List Char) : List Char := if '\n' ∈ cs then ['\n'] else []

def stringText (cs : List Char) : List Char :=
  match styleOf cs with
  | .basic => '"' :: escapeAll cs ++ ['"']
  | .literal => '\'' :: cs ++ ['\'']
  | .basicLines => ['"', '"', '"'] ++ opening cs ++ escapeLines 0 cs ++ ['"', '"', '"']
  | .literalLines => ['\'', '\'', '\''] ++ opening cs ++ cs ++ ['\'', '\'', '\'']

end VirtualDisplay.Toml
