import VirtualDisplay.Text.Alphanumeric
import VirtualDisplay.Text.Blank
import VirtualDisplay.Text.Decimal
import VirtualDisplay.Text.Quoted
import VirtualDisplay.Text.Split

/-! Log filters: items with commas between them, each a level, a target, or a target and a level with
an equals sign between. Empty items do not count. -/

namespace VirtualDisplay

open Text

inductive LoggingError
  | invalidFilter (filter : String)
  | alreadyInstalled
  deriving DecidableEq

namespace LoggingError

def message : LoggingError → String
  | invalidFilter filter => "invalid log filter " ++ quoted filter ++ ": ..."
  | alreadyInstalled => "a global tracing subscriber is already installed"

end LoggingError

namespace LogFilter

def isAlphanumeric (c : Char) : Bool :=
  if c.toNat < 0x80 then c.isAlphanum else inRanges alphanumericRanges c

def startsItem (c : Char) : Bool := c = '-' || c = ':' || c = '_' || isAlphanumeric c

def levelNames : List (List Char) := ["off", "error", "warn", "info", "debug", "trace"].map String.toList

/-- A level is a name in any case, a number up to five, or nothing. -/
def isLevel (cs : List Char) : Bool :=
  cs = [] || (natural? cs).any (· ≤ 5) || levelNames.contains (cs.map Char.toLower)

/-- Blanks before an item are passed over to find its start, but after them no level is found, nor is
one with blanks after it. -/
def validItem (item : List Char) : Bool :=
  match trim item with
  | [] => false
  | c :: cs => startsItem c && match (cut '=' (c :: cs)).2 with
    | none => true
    | some _ => !item.head?.any isBlank && isLevel ((cut '=' item).2.getD [])

def valid (filter : List Char) : Bool :=
  ((pieces ',' filter).filter (· ≠ [])).all validItem

/-- The filter in force: the one from the environment unless it is blank, else the level from the
settings. -/
def choose (environment : Option String) (level : String) : String :=
  match environment.map fun s => trim s.toList with
  | none | some [] => level
  | some cs => String.ofList cs

def refusal (filter : String) : LoggingError :=
  if valid filter.toList then .alreadyInstalled else .invalidFilter filter

end LogFilter
end VirtualDisplay
