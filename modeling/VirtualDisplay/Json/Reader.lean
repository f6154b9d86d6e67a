import VirtualDisplay.Json.Value

/-! Reading JSON text. The grammar is read strictly: four blanks, no byte order mark, no control
character in a string, nothing after the value. How deep values nest and how large numbers are is
no matter of the grammar. -/

namespace VirtualDisplay.Json

def isSpace (c : Char) : Bool := c = ' ' || c = '\t' || c = '\n' || c = '\r'

def skip (cs : List Char) : List Char := cs.dropWhile isSpace

/-! ### Numbers -/

def spanDigits (cs : List Char) : List Char × List Char :=
  (cs.takeWhile Char.isDigit, cs.dropWhile Char.isDigit)

def readFraction : List Char → Option (List Char × List Char)
  | '.' :: cs => match spanDigits cs with
    | ([], _) => none
    | r => some r
  | cs => some ([], cs)

def readSign : List Char → List Char × List Char
  | '+' :: cs => (['+'], cs)
  | '-' :: cs => (['-'], cs)
  | cs => ([], cs)

def readExponent : List Char → Option (List Char × List Char)
  | [] => some ([], [])
  | c :: cs =>
    if c = 'e' ∨ c = 'E' then
      let (sign, cs) := readSign cs
      match spanDigits cs with
      | ([], _) => none
      | (ds, cs) => some (c :: sign ++ ds, cs)
    else some ([], c :: cs)

/-- A zero stands alone; any other digit takes the digits after it. -/
def readWhole : List Char → Option (List Char × List Char)
  | '0' :: cs => some (['0'], cs)
  | cs => match spanDigits cs with
    | ([], _) => none
    | r => some r

def readNumber (cs : List Char) : Option (Number × List Char) := do
  let (negative, cs) := match cs with
    | '-' :: cs => (true, cs)
    | _ => (false, cs)
  let (whole, cs) ← readWhole cs
  let (fraction, cs) ← readFraction cs
  let (exponent, cs) ← readExponent cs
  some ({ negative, whole, fraction, exponent }, cs)

/-! ### Strings -/

def hexValue? (c : Char) : Option Nat :=
  if c.isDigit then some (c.toNat - '0'.toNat)
  else if 'a' ≤ c ∧ c ≤ 'f' then some (c.toNat - 'a'.toNat + 10)
  else if 'A' ≤ c ∧ c ≤ 'F' then some (c.toNat - 'A'.toNat + 10)
  else none

def hexFour? (a b c d : Char) : Option Nat := do
  some (((← hexValue? a) * 16 + (← hexValue? b)) * 256 + (← hexValue? c) * 16 + (← hexValue? d))

def pointOf (code : Nat) : Point :=
  if code.isValidChar then .char (Char.ofNat code) else .surrogate code

def unescape? : Char → Option Char
  | '"' => some '"'
  | '\\' => some '\\'
  | '/' => some '/'
  | 'b' => some '\x08'
  | 'f' => some '\x0c'
  | 'n' => some '\n'
  | 'r' => some '\r'
  | 't' => some '\t'
  | _ => none

/-- Joins a high surrogate and the low one right after it into one character. -/
def joinSurrogates : List Point → List Point
  | .surrogate h :: .surrogate l :: ps =>
    if h < 0xdc00 ∧ 0xdc00 ≤ l then
      .char (Char.ofNat (0x10000 + (h - 0xd800) * 0x400 + (l - 0xdc00))) :: joinSurrogates ps
    else .surrogate h :: joinSurrogates (.surrogate l :: ps)
  | p :: ps => p :: joinSurrogates ps
  | [] => []

/-- What stands up to the closing quote, escape by escape. -/
def readPoints : List Char → Option (List Point × List Char)
  | [] => none
  | '"' :: cs => some ([], cs)
  | '\\' :: 'u' :: a :: b :: c :: d :: cs => do
    let code ← hexFour? a b c d
    let (ps, rest) ← readPoints cs
    some (pointOf code :: ps, rest)
  | '\\' :: e :: cs => do
    let c ← unescape? e
    let (ps, rest) ← readPoints cs
    some (.char c :: ps, rest)
  | c :: cs =>
    if c.toNat < 0x20 ∨ c = '\\' then none
    else (readPoints cs).map fun r => (.char c :: r.1, r.2)

def readString (cs : List Char) : Option (List Point × List Char) :=
  (readPoints cs).map fun r => (joinSurrogates r.1, r.2)

/-! ### Values. The fuel bounds the nesting; the length of the text is enough. -/

mutual

def readValue : Nat → List Char → Option (Value × List Char)
  | 0, _ => none
  | fuel + 1, cs => match skip cs with
    | 'n' :: 'u' :: 'l' :: 'l' :: cs => some (.null, cs)
    | 't' :: 'r' :: 'u' :: 'e' :: cs => some (.bool true, cs)
    | 'f' :: 'a' :: 'l' :: 's' :: 'e' :: cs => some (.bool false, cs)
    | '"' :: cs => (readString cs).map fun r => (.string r.1, r.2)
    | '[' :: cs => match skip cs with
      | ']' :: cs => some (.array [], cs)
      | cs => (readItems fuel cs).map fun r => (.array r.1, r.2)
    | '{' :: cs => match skip cs with
      | '}' :: cs => some (.object [], cs)
      | cs => (readMembers fuel cs).map fun r => (.object r.1, r.2)
    | cs => (readNumber cs).map fun r => (.number r.1, r.2)

def readItems : Nat → List Char → Option (List Value × List Char)
  | 0, _ => none
  | fuel + 1, cs => do
    let (v, cs) ← readValue fuel cs
    match skip cs with
    | ',' :: cs => (readItems fuel cs).map fun r => (v :: r.1, r.2)
    | ']' :: cs => some ([v], cs)
    | _ => none

def readMembers : Nat → List Char → Option (List (List Point × Value) × List Char)
  | 0, _ => none
  | fuel + 1, cs => match skip cs with
    | '"' :: cs => do
      let (k, cs) ← readString cs
      match skip cs with
      | ':' :: cs => do
        let (v, cs) ← readValue fuel cs
        match skip cs with
        | ',' :: cs => (readMembers fuel cs).map fun r => ((k, v) :: r.1, r.2)
        | '}' :: cs => some ([(k, v)], cs)
        | _ => none
      | _ => none
    | _ => none

end

def read (cs : List Char) : Option Value :=
  match readValue (2 * cs.length + 2) cs with
  | some (v, rest) => if skip rest = [] then some v else none
  | none => none

def readPlain (cs : List Char) : Option Value := (read cs).filter Value.plain

end VirtualDisplay.Json
