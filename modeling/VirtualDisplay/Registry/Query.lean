import VirtualDisplay.Registry.Basic

/-! Finding monitors. A query is an id or a name: if it reads as an id that is in use, the first
monitor with that id answers it, else the first monitor whose name is the query. -/

namespace VirtualDisplay
namespace Registry

def hasId (id : Id) (m : Monitor) : Bool := m.id == id

def hasName (name : String) (m : Monitor) : Bool := m.name == some name

def find? (r : Registry) (id : Id) : Option Monitor := r.monitors.find? (hasId id)

def position? (r : Registry) (query : String) : Option Nat :=
  ((Text.word? query.toList).bind fun id => r.monitors.findIdx? (hasId id)).or
    (r.monitors.findIdx? (hasName query))

def findQuery? (r : Registry) (query : String) : Option Monitor :=
  (r.position? query).bind fun i => r.monitors[i]?

def findId? (r : Registry) (query : String) : Option Id := (r.findQuery? query).map (·.id)

def resolve (r : Registry) (queries : List String) : List Id := queries.filterMap r.findId?

/-- The first id not in use, from an id up, where so many are left to look at. -/
def freeFrom? (used : List Id) : Nat → Id → Option Id
  | 0, _ => none
  | left + 1, id => if id ∈ used then freeFrom? used left (id + 1) else some id

def leastFreeId? (r : Registry) : Option Id := freeFrom? r.ids UInt32.size 0

/-- An id for a new monitor: the preferred one or none, and the least one without a preference. -/
def newId (r : Registry) : Option Id → Option Id
  | some id => if id ∈ r.ids then none else some id
  | none => r.leastFreeId?

end Registry
end VirtualDisplay
