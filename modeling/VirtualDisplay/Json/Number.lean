import VirtualDisplay.Double
import VirtualDisplay.Text.Decimal

/-! Number literals. A literal is kept as it was written, so that nothing is rounded; what it denotes
is computed on demand. -/

namespace VirtualDisplay.Json

/-- The parts of a literal: `whole` and `fraction` hold digits, `fraction` is empty if there is no
point, and `exponent` is all from the `e` on. -/
structure Number where
  negative : Bool := false
  whole : List Char
  fraction : List Char := []
  exponent : List Char := []
  deriving DecidableEq

namespace Number

open Text

def ofNat (n : Nat) : Number := { whole := digits n }

def text (n : Number) : List Char :=
  (if n.negative then ['-'] else []) ++ n.whole ++
    (if n.fraction = [] then [] else '.' :: n.fraction) ++ n.exponent

def magnitude? (n : Number) : Option Nat :=
  if n.fraction = [] ∧ n.exponent = [] then some (ofDigits n.whole) else none

/-- How a reader takes a literal: as a natural number of 64 bits, as a signed one of 64 bits below
zero, or as a floating-point number. Minus zero is floating. -/
inductive Kind
  | natural (n : Nat)
  | negative
  | floating
  deriving DecidableEq

def kind (n : Number) : Kind :=
  match n.magnitude? with
  | none => .floating
  | some m =>
    if n.negative then (if 0 < m ∧ m ≤ signedLimit then .negative else .floating)
    else if m < UInt64.size then .natural m else .floating

/-! A floating literal is a significand times a power of ten. The significand takes digits for as
long as 64 bits hold it; what the literal has beyond that is dropped. -/

/-- Reads digits into a significand, and gives back those that no longer fit. -/
def fill : Nat → List Char → Nat × List Char
  | s, [] => (s, [])
  | s, d :: ds =>
    let t := 10 * s + (d.toNat - '0'.toNat)
    if t < UInt64.size then fill t ds else (s, d :: ds)

def scaled (n : Number) : Nat × Int :=
  let (s, rest) := fill 0 n.whole
  let (t, dropped) := fill s n.fraction
  (t, (rest.length : Int) - ((n.fraction.length - dropped.length : Nat) : Int))

def power (n : Number) : Bool × Nat :=
  match n.exponent.drop 1 with
  | '-' :: ds => (false, ofDigits ds)
  | ds => (true, ofDigits (dropPlus ds))

/-- Whether a floating literal is too large for a double. The power of ten is taken as a 32-bit
number, and products are rounded as doubles are. -/
def overflows (n : Number) : Bool :=
  match n.kind with
  | .floating =>
    let (s, base) := n.scaled
    let (up, e) := n.power
    -- such a power no longer fits: the literal is zero, or too large, or rounds to zero
    if 0x80000000 ≤ e then s ≠ 0 ∧ up
    else
      let p : Int := if up then base + e else base - e
      if 308 < p then s ≠ 0
      else if p < 0 then false
      else Double.limit ≤ Double.round s * Double.round (Nat.pow 10 p.toNat)
  | _ => false

end Number
end VirtualDisplay.Json
