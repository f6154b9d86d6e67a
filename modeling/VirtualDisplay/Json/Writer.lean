import VirtualDisplay.Json.Reader

/-! Writing JSON text: compact, or indented by two spaces a level. The two differ in blanks alone. -/

namespace VirtualDisplay.Json

def hexText (n : Nat) : List Char :=
  [Nat.digitChar (n / 4096 % 16), Nat.digitChar (n / 256 % 16), Nat.digitChar (n / 16 % 16),
    Nat.digitChar (n % 16)]

/-- Quotes, backslashes and control characters are escaped, with a letter where there is one. -/
def escapePoint : Point → List Char
  | .char '"' => ['\\', '"']
  | .char '\\' => ['\\', '\\']
  | .char '\x08' => ['\\', 'b']
  | .char '\x0c' => ['\\', 'f']
  | .char '\n' => ['\\', 'n']
  | .char '\r' => ['\\', 'r']
  | .char '\t' => ['\\', 't']
  | .char c => if c.toNat < 0x20 then ['\\', 'u'] ++ hexText c.toNat else [c]
  | .surrogate code => ['\\', 'u'] ++ hexText code

def stringText (s : List Point) : List Char := '"' :: s.flatMap escapePoint ++ ['"']

/-- The blanks of a text. -/
structure Layout where
  /-- Before an item of an array or object, or before its closing bracket, by the level of nesting. -/
  line : Nat → List Char
  space : List Char
  line_blank : ∀ level, ∀ c ∈ line level, isSpace c = true
  space_blank : ∀ c ∈ space, isSpace c = true

namespace Layout

def compact : Layout where
  line _ := []
  space := []
  line_blank _ _ h := nomatch h
  space_blank _ h := nomatch h

def indented : Layout where
  line level := '\n' :: List.replicate (2 * level) ' '
  space := [' ']
  line_blank level c h := by
    rcases List.mem_cons.1 h with rfl | h
    · rfl
    · rw [List.eq_of_mem_replicate h]; rfl
  space_blank c h := by rw [List.mem_singleton.1 h]; rfl

end Layout

namespace Value

mutual

def write (l : Layout) (level : Nat) : Value → List Char
  | null => ['n', 'u', 'l', 'l']
  | bool true => ['t', 'r', 'u', 'e']
  | bool false => ['f', 'a', 'l', 's', 'e']
  | number n => n.text
  | string s => stringText s
  | array [] => ['[', ']']
  | array (v :: vs) =>
    '[' :: l.line (level + 1) ++ write l (level + 1) v ++ writeItems l level vs
  | object [] => ['{', '}']
  | object ((k, v) :: ms) =>
    '{' :: l.line (level + 1) ++ stringText k ++ ':' :: l.space ++ write l (level + 1) v ++
      writeMembers l level ms

/-- The items after the first, and the closing bracket. -/
def writeItems (l : Layout) (level : Nat) : List Value → List Char
  | [] => l.line level ++ [']']
  | v :: vs => ',' :: l.line (level + 1) ++ write l (level + 1) v ++ writeItems l level vs

def writeMembers (l : Layout) (level : Nat) : List (List Point × Value) → List Char
  | [] => l.line level ++ ['}']
  | (k, v) :: ms =>
    ',' :: l.line (level + 1) ++ stringText k ++ ':' :: l.space ++ write l (level + 1) v ++
      writeMembers l level ms

end

def compact (v : Value) : List Char := write .compact 0 v

def pretty (v : Value) : List Char := write .indented 0 v

end Value
end VirtualDisplay.Json
