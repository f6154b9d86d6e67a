/-! Reading UTF-8. Bytes that are no text are cut into the longest starts of a character that they
hold, each of which counts as one fault. -/

namespace VirtualDisplay.Text

/-- What a byte begins, if it begins anything: how many bytes follow, the bounds of the first of
them, and the bits that the byte gives. -/
def leading? (b : Nat) : Option (Nat × Nat × Nat × Nat) :=
  if 0xc2 ≤ b ∧ b ≤ 0xdf then some (1, 0x80, 0xbf, b - 0xc0)
  else if b = 0xe0 then some (2, 0xa0, 0xbf, 0)
  else if b = 0xed then some (2, 0x80, 0x9f, 0xd)
  else if 0xe1 ≤ b ∧ b ≤ 0xef then some (2, 0x80, 0xbf, b - 0xe0)
  else if b = 0xf0 then some (3, 0x90, 0xbf, 0)
  else if 0xf1 ≤ b ∧ b ≤ 0xf3 then some (3, 0x80, 0xbf, b - 0xf0)
  else if b = 0xf4 then some (3, 0x80, 0x8f, 4)
  else none

/-- A character that has begun: the bytes still to come, the bounds of the next, the bits so far. -/
structure Begun where
  more : Nat
  low : Nat
  high : Nat
  bits : Nat

/-- A character, or `none` for a fault. -/
abbrev Decoded := Option Char

def begin (b : Nat) : List Decoded × Option Begun :=
  if b < 0x80 then ([some (Char.ofNat b)], none)
  else match leading? b with
    | some (more, low, high, bits) => ([], some { more, low, high, bits })
    | none => ([none], none)

def takeByte (state : Option Begun) (b : Nat) : List Decoded × Option Begun :=
  match state with
  | none => begin b
  | some s =>
    if s.low ≤ b ∧ b ≤ s.high then
      let bits := s.bits * 0x40 + (b - 0x80)
      if s.more ≤ 1 then ([some (Char.ofNat bits)], none)
      else ([], some { more := s.more - 1, low := 0x80, high := 0xbf, bits })
    else
      let r := begin b
      (none :: r.1, r.2)

def decodeFrom : Option Begun → List UInt8 → List Decoded
  | none, [] => []
  | some _, [] => [none]
  | state, b :: bs => (takeByte state b.toNat).1 ++ decodeFrom (takeByte state b.toNat).2 bs

def decode (bs : List UInt8) : List Decoded := decodeFrom none bs

def ofUtf8? (bs : List UInt8) : Option (List Char) := (decode bs).mapM id

def ofUtf8 (bs : List UInt8) : List Char := (decode bs).map (·.getD '\ufffd')

end VirtualDisplay.Text
