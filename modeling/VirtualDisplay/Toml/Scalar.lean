import VirtualDisplay.Double
import VirtualDisplay.Text.Decimal
import VirtualDisplay.Toml.Value

/-! Reading numbers and dates. Of a date and of a floating-point number only the form is checked, and
that it denotes something. -/

namespace VirtualDisplay.Toml

/-! ### Numbers -/

def moreDigits (ok : Char → Bool) : List Char → List Char × List Char
  | '_' :: d :: cs =>
    if ok d then ((d :: (moreDigits ok cs).1), (moreDigits ok cs).2) else ([], '_' :: d :: cs)
  | d :: cs => if ok d then ((d :: (moreDigits ok cs).1), (moreDigits ok cs).2) else ([], d :: cs)
  | [] => ([], [])

/-- Digits with single underscores between them. -/
def readDigits (ok : Char → Bool) : List Char → Option (List Char × List Char)
  | d :: cs => if ok d then some (d :: (moreDigits ok cs).1, (moreDigits ok cs).2) else none
  | [] => none

def dropSign : List Char → Bool × List Char
  | '-' :: cs => (true, cs)
  | '+' :: cs => (false, cs)
  | cs => (false, cs)

def readWhole : List Char → Option (List Char × List Char)
  | '0' :: cs => some (['0'], cs)
  | cs => readDigits Char.isDigit cs

def readFraction : List Char → Option (List Char × List Char)
  | '.' :: cs => readDigits Char.isDigit cs
  | _ => none

def readExponent : List Char → Option (Int × List Char)
  | c :: cs =>
    if c = 'e' ∨ c = 'E' then
      let (negative, cs) := dropSign cs
      (readDigits Char.isDigit cs).map fun (ds, cs) =>
        (if negative then -(Text.ofDigits ds : Int) else Text.ofDigits ds, cs)
    else none
  | [] => none

def readSpecial : List Char → Option (List Char)
  | 'i' :: 'n' :: 'f' :: cs | 'n' :: 'a' :: 'n' :: cs => some cs
  | _ => none

/-- A number with a fraction or an exponent. One too large to be finite is refused, unless it is
negative. -/
def readFloating (cs : List Char) : Option (List Char) :=
  let (negative, cs) := dropSign cs
  match readSpecial cs with
  | some cs => some cs
  | none => do
    let (whole, cs) ← readWhole cs
    let (fraction, exponent, cs) ← match readFraction cs with
      | some (fraction, cs) => match readExponent cs with
        | some (e, cs) => some (fraction, e, cs)
        | none => some (fraction, 0, cs)
      | none => (readExponent cs).map fun (e, cs) => ([], e, cs)
    if !negative && Double.overflows (Text.ofDigits (whole ++ fraction))
        (exponent - fraction.length) then none
    else some cs

def hexDigitValue? (c : Char) : Option Nat :=
  if c.isDigit then some (c.toNat - '0'.toNat)
  else if 'a' ≤ c ∧ c ≤ 'f' then some (c.toNat - 'a'.toNat + 10)
  else if 'A' ≤ c ∧ c ≤ 'F' then some (c.toNat - 'A'.toNat + 10)
  else none

def isDigitIn (base : Nat) (c : Char) : Bool := (hexDigitValue? c).any (· < base)

def valueIn (base : Nat) (ds : List Char) : Nat :=
  ds.foldl (fun n d => base * n + (hexDigitValue? d).getD 0) 0

def readBased (base : Nat) (cs : List Char) : Option (Int × List Char) := do
  let (ds, cs) ← readDigits (isDigitIn base) cs
  let n := valueIn base ds
  if n < Text.signedLimit then some ((n : Int), cs) else none

def readInteger : List Char → Option (Int × List Char)
  | '0' :: 'x' :: cs => readBased 16 cs
  | '0' :: 'o' :: cs => readBased 8 cs
  | '0' :: 'b' :: cs => readBased 2 cs
  | cs => do
    let (negative, cs) := dropSign cs
    let (ds, cs) ← readWhole cs
    let n : Int := if negative then -(Text.ofDigits ds : Int) else Text.ofDigits ds
    if -(Text.signedLimit : Int) ≤ n ∧ n < Text.signedLimit then some (n, cs) else none

/-! ### Dates and times -/

def readField (width low high : Nat) (cs : List Char) : Option (Nat × List Char) :=
  let ds := cs.take width
  let n := Text.ofDigits ds
  if ds.length = width ∧ ds.all Char.isDigit ∧ low ≤ n ∧ n ≤ high then some (n, cs.drop width) else none

def expect (c : Char) : List Char → Option (List Char)
  | d :: cs => if d = c then some cs else none
  | [] => none

def isLeap (year : Nat) : Bool := year % 4 = 0 && (year % 100 ≠ 0 || year % 400 = 0)

def daysIn (year month : Nat) : Nat :=
  if month = 2 then (if isLeap year then 29 else 28)
  else if month = 4 ∨ month = 6 ∨ month = 9 ∨ month = 11 then 30
  else 31

def readDate (cs : List Char) : Option (List Char) := do
  let (year, cs) ← readField 4 0 9999 cs
  let cs ← expect '-' cs
  let (month, cs) ← readField 2 1 12 cs
  let cs ← expect '-' cs
  let (_, cs) ← readField 2 1 (daysIn year month) cs
  some cs

def skipFraction (cs : List Char) : List Char :=
  match cs with
  | '.' :: ds => if (ds.takeWhile Char.isDigit).isEmpty then cs else ds.dropWhile Char.isDigit
  | _ => cs

def readTime (cs : List Char) : Option (List Char) := do
  let (_, cs) ← readField 2 0 23 cs
  let cs ← expect ':' cs
  let (_, cs) ← readField 2 0 59 cs
  let cs ← expect ':' cs
  let (_, cs) ← readField 2 0 60 cs
  some (skipFraction cs)

def readOffset : List Char → Option (List Char)
  | c :: cs =>
    if c = 'Z' ∨ c = 'z' then some cs
    else if c = '+' ∨ c = '-' then do
      let (_, cs) ← readField 2 0 23 cs
      let cs ← expect ':' cs
      let (_, cs) ← readField 2 0 59 cs
      some cs
    else none
  | [] => none

/-- The time after a date, and the offset after the time. -/
def readClock : List Char → Option (List Char)
  | c :: cs =>
    if c = 'T' ∨ c = 't' ∨ c = ' ' then
      (readTime cs).map fun cs => (readOffset cs).getD cs
    else none
  | [] => none

def readDatetime (cs : List Char) : Option (List Char) :=
  match readDate cs with
  | some cs => some ((readClock cs).getD cs)
  | none => readTime cs

/-- A value that starts with a digit or a sign: the first of the three forms that fits. -/
def readNumeric (cs : List Char) : Option (Value × List Char) :=
  match readDatetime cs with
  | some cs => some (.datetime, cs)
  | none => match readFloating cs with
    | some cs => some (.floating, cs)
    | none => (readInteger cs).map fun (n, cs) => (.integer n, cs)

end VirtualDisplay.Toml
