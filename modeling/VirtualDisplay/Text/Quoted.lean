import VirtualDisplay.Text.Printable

/-! Text in double quotes on one line, for messages: quotes, backslashes and everything that does not
print as itself is escaped. -/

namespace VirtualDisplay.Text

/-- Printable ASCII prints; of the rest, all but the ranges of the table. -/
def isPrintable (c : Char) : Bool :=
  if c.toNat < 0x7f then 0x20 ≤ c.toNat else !inRanges unprintableRanges c

def hexDigits (n : Nat) : List Char := Nat.toDigits 16 n

def escapeQuoted : Char → List Char
  | '"' => ['\\', '"']
  | '\\' => ['\\', '\\']
  | '\n' => ['\\', 'n']
  | '\r' => ['\\', 'r']
  | '\t' => ['\\', 't']
  | '\x00' => ['\\', '0']
  | c => if isPrintable c then [c] else ['\\', 'u', '{'] ++ hexDigits c.toNat ++ ['}']

def quotedChars (cs : List Char) : List Char := '"' :: cs.flatMap escapeQuoted ++ ['"']

def quoted (s : String) : String := String.ofList (quotedChars s.toList)

end VirtualDisplay.Text
