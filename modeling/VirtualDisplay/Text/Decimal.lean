/-! Decimal numbers. Writing never pads; reading takes leading zeros and at most one plus sign, and
only the ten ASCII digits. -/

namespace VirtualDisplay.Text

def digits (n : Nat) : List Char := Nat.toDigits 10 n

def decimal (n : UInt32) : String := String.ofList (digits n.toNat)

def ofDigits (cs : List Char) : Nat := Nat.ofDigitChars 10 cs 0

def dropPlus : List Char → List Char
  | '+' :: cs => cs
  | cs => cs

/-- One or more digits, with an optional plus sign before them. -/
def natural? (cs : List Char) : Option Nat :=
  let ds := dropPlus cs
  if ds ≠ [] ∧ ds.all Char.isDigit then some (ofDigits ds) else none

/-- The end of the signed numbers of 64 bits. -/
def signedLimit : Nat := 0x8000000000000000

def word? (cs : List Char) : Option UInt32 :=
  (natural? cs).bind fun n => if n < UInt32.size then some (UInt32.ofNat n) else none

end VirtualDisplay.Text
