import VirtualDisplay.Mode.Basic
import VirtualDisplay.Text.Blank
import VirtualDisplay.Text.Decimal
import VirtualDisplay.Text.Quoted
import VirtualDisplay.Text.Split

/-! Modes as text, `1920x1080@60/120`. Reading cuts at the first `@` and at the first `x` before it,
takes blanks around every number, and reports the first part that is no number. -/

namespace VirtualDisplay

open Text

inductive ModeTextError
  | missingSeparator (input : String)
  | invalidWidth (input : String)
  | invalidHeight (input : String)
  | invalidRate (input rate : String)
  deriving DecidableEq

namespace ModeTextError

def message : ModeTextError → String
  | missingSeparator input =>
    "invalid resolution in " ++ quoted input ++ ", expected a string like \"1920x1080\""
  | invalidWidth input => "invalid width in " ++ quoted input ++ ", expected a number"
  | invalidHeight input => "invalid height in " ++ quoted input ++ ", expected a number"
  | invalidRate input rate =>
    "invalid refresh rate " ++ quoted rate ++ " in " ++ quoted input ++ ", expected a number"

end ModeTextError

namespace Mode

def ratesText : List Rate → List Char
  | [] => []
  | [r] => digits r.toNat
  | r :: rs => digits r.toNat ++ '/' :: ratesText rs

def chars (m : Mode) : List Char :=
  digits m.width.toNat ++ 'x' :: digits m.height.toNat ++
    (if m.rates.rates = [] then [] else '@' :: ratesText m.rates.rates)

def text (m : Mode) : String := String.ofList m.chars

def number? (cs : List Char) : Option UInt32 := word? (trim cs)

/-- Reads every part, or gives back the first that is no number. -/
def rates? : List (List Char) → Except (List Char) (List Rate)
  | [] => .ok []
  | p :: ps => match number? p with
    | none => .error p
    | some r => (rates? ps).map (r :: ·)

def ofText (input : String) : Except ModeTextError Mode :=
  let (resolution, rates) := cut '@' input.toList
  match cut? 'x' resolution with
  | none => .error (.missingSeparator input)
  | some (w, h) =>
    match number? w, number? h with
    | none, _ => .error (.invalidWidth input)
    | some _, none => .error (.invalidHeight input)
    | some width, some height =>
      match rates? ((rates.map (pieces '/')).getD []) with
      | .error part => .error (.invalidRate input (String.ofList part))
      | .ok rs => .ok (ofRates width height rs)

end Mode
end VirtualDisplay
