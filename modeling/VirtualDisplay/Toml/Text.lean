import VirtualDisplay.Toml.Scalar

/-! Reading strings and keys. A string stands in double quotes, with escapes, or in single quotes,
without; three quotes let it run over lines, and the first line break after them does not count. -/

namespace VirtualDisplay.Toml

def isControl (c : Char) : Bool := c.toNat < 0x20 || c.toNat = 0x7f

def isAllowed (c : Char) : Bool := c = '\t' || !isControl c

def scalar? (code : Nat) : Option Char :=
  if code.isValidChar then some (Char.ofNat code) else none

def unicode? (ds : List Char) : Option Char :=
  if ds.all (isDigitIn 16) then scalar? (valueIn 16 ds) else none

def unescape? : Char → Option Char
  | 'b' => some '\x08'
  | 't' => some '\t'
  | 'n' => some '\n'
  | 'f' => some '\x0c'
  | 'r' => some '\r'
  | '"' => some '"'
  | '\\' => some '\\'
  | _ => none

def before (c : Char) (r : Option (List Char × List Char)) : Option (List Char × List Char) :=
  r.map fun p => (c :: p.1, p.2)

def readBasic : List Char → Option (List Char × List Char)
  | [] => none
  | '"' :: cs => some ([], cs)
  | '\\' :: 'u' :: a :: b :: c :: d :: cs => do
    before (← unicode? [a, b, c, d]) (readBasic cs)
  | '\\' :: 'U' :: a :: b :: c :: d :: e :: f :: g :: h :: cs => do
    before (← unicode? [a, b, c, d, e, f, g, h]) (readBasic cs)
  | '\\' :: e :: cs => do before (← unescape? e) (readBasic cs)
  | c :: cs => if c = '\\' ∨ !isAllowed c then none else before c (readBasic cs)

def readLiteral : List Char → Option (List Char × List Char)
  | [] => none
  | '\'' :: cs => some ([], cs)
  | c :: cs => if isAllowed c then before c (readLiteral cs) else none

def endsLine (cs : List Char) : Bool :=
  match cs.dropWhile fun c => c = ' ' || c = '\t' with
  | '\n' :: _ | '\r' :: '\n' :: _ => true
  | _ => false

/-- What stands up to three double quotes; one or two more right before them belong to the text.
A backslash at the end of a line leaves out all blanks and line breaks that follow: `skipping`. -/
def readBasicLines (skipping : Bool) : List Char → Option (List Char × List Char)
  | [] => none
  | '"' :: '"' :: '"' :: '"' :: '"' :: cs => some (['"', '"'], cs)
  | '"' :: '"' :: '"' :: '"' :: cs => some (['"'], cs)
  | '"' :: '"' :: '"' :: cs => some ([], cs)
  | '\r' :: '\n' :: cs =>
    if skipping then readBasicLines true cs else before '\n' (readBasicLines false cs)
  | '\n' :: cs => if skipping then readBasicLines true cs else before '\n' (readBasicLines false cs)
  | '\\' :: 'u' :: a :: b :: c :: d :: cs => do
    before (← unicode? [a, b, c, d]) (readBasicLines false cs)
  | '\\' :: 'U' :: a :: b :: c :: d :: e :: f :: g :: h :: cs => do
    before (← unicode? [a, b, c, d, e, f, g, h]) (readBasicLines false cs)
  | '\\' :: e :: cs =>
    if endsLine (e :: cs) then readBasicLines true (e :: cs)
    else do before (← unescape? e) (readBasicLines false cs)
  | c :: cs =>
    if skipping ∧ (c = ' ' ∨ c = '\t') then readBasicLines true cs
    else if c = '\\' ∨ !isAllowed c then none
    else before c (readBasicLines false cs)

/-- What stands up to three single quotes; one or two more right before them belong to the text. -/
def readLiteralLines : List Char → Option (List Char × List Char)
  | [] => none
  | '\'' :: '\'' :: '\'' :: '\'' :: '\'' :: cs => some (['\'', '\''], cs)
  | '\'' :: '\'' :: '\'' :: '\'' :: cs => some (['\''], cs)
  | '\'' :: '\'' :: '\'' :: cs => some ([], cs)
  | '\r' :: '\n' :: cs => before '\n' (readLiteralLines cs)
  | c :: cs => if c = '\n' ∨ isAllowed c then before c (readLiteralLines cs) else none

def dropLineBreak : List Char → List Char
  | '\n' :: cs | '\r' :: '\n' :: cs => cs
  | cs => cs

def readString : List Char → Option (List Char × List Char)
  | '"' :: '"' :: '"' :: cs => readBasicLines false (dropLineBreak cs)
  | '"' :: cs => readBasic cs
  | '\'' :: '\'' :: '\'' :: cs => readLiteralLines (dropLineBreak cs)
  | '\'' :: cs => readLiteral cs
  | _ => none

/-! ### Keys -/

def isBare (c : Char) : Bool := c.isAlphanum || c = '_' || c = '-'

def dropBlanks (cs : List Char) : List Char := cs.dropWhile fun c => c = ' ' || c = '\t'

def readPart : List Char → Option (String × List Char)
  | '"' :: cs => (readBasic cs).map fun p => (String.ofList p.1, p.2)
  | '\'' :: cs => (readLiteral cs).map fun p => (String.ofList p.1, p.2)
  | cs => match cs.takeWhile isBare with
    | [] => none
    | k => some (String.ofList k, cs.dropWhile isBare)

/-- The parts of a key with dots between them, at most `parts` of them, and blanks around each. -/
def readKey : Nat → List Char → Option (List String × String × List Char)
  | 0, _ => none
  | parts + 1, cs => do
    let (k, cs) ← readPart (dropBlanks cs)
    match dropBlanks cs with
    | '.' :: cs => (readKey parts cs).map fun (path, last, cs) => (k :: path, last, cs)
    | cs => some ([], k, cs)

end VirtualDisplay.Toml
