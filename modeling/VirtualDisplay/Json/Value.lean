import VirtualDisplay.Json.Number

/-! JSON values. Members keep their order and their repetitions, numbers keep their literals, and a
string may hold surrogates that no partner completes, since an escape can name one. -/

namespace VirtualDisplay.Json

/-- A code point of a JSON string. -/
inductive Point
  | char (c : Char)
  | surrogate (code : Nat)
  deriving DecidableEq

def chars? : List Point → Option (List Char)
  | [] => some []
  | .char c :: ps => (chars? ps).map (c :: ·)
  | .surrogate _ :: _ => none

def text? (ps : List Point) : Option String := (chars? ps).map String.ofList

def points (s : String) : List Point := s.toList.map .char

inductive Value
  | null
  | bool (b : Bool)
  | number (n : Number)
  | string (s : List Point)
  | array (items : List Value)
  | object (members : List (List Point × Value))

/-- The last member under a key: a later one overrides those before it. -/
def member? (key : String) : List (List Point × Value) → Option Value
  | [] => none
  | m :: ms => (member? key ms).or (if m.1 = points key then some m.2 else none)

namespace Value

def isNull : Value → Bool
  | null => true
  | _ => false

mutual

/-- Whether a value can be held in memory as it stands: arrays and objects nest at most `levels` deep,
no number is too large for a double, and no string holds a surrogate. -/
def within : Nat → Value → Bool
  | _, null | _, bool _ => true
  | _, number n => !n.overflows
  | _, string s => (chars? s).isSome
  | 0, array _ | 0, object _ => false
  | levels + 1, array items => allWithin levels items
  | levels + 1, object members => membersWithin levels members

def allWithin (levels : Nat) : List Value → Bool
  | [] => true
  | v :: vs => within levels v && allWithin levels vs

def membersWithin (levels : Nat) : List (List Point × Value) → Bool
  | [] => true
  | (k, v) :: ms => (chars? k).isSome && within levels v && membersWithin levels ms

end

def maxLevels : Nat := 127

def plain (v : Value) : Bool := v.within maxLevels

end Value
end VirtualDisplay.Json
