import VirtualDisplay.Registry.Query

/-! Edits of monitors found by id or by query. Whatever is not found is left alone. -/

namespace VirtualDisplay
namespace Registry

variable {α : Type}

def editId (id : Id) (e : Edit Monitor α) : Edit Registry (Option α) :=
  edit (Edit.atFirst (hasId id) e)

def editQuery (query : String) (e : Edit Monitor α) : Edit Registry (Option α) := fun r =>
  match r.position? query with
  | none => (none, r)
  | some i => edit (Edit.atIndex e i) r

/-- Adds an empty monitor under an id that `newId` gives. -/
def addNew (preferred : Option Id) : Edit Registry (Option Id) := fun r =>
  match r.newId preferred with
  | none => (none, r)
  | some id => (some id, ⟨r.monitors ++ [{ id }]⟩)

def removeWhere (test : Monitor → Bool) : Edit Registry Nat := edit (Edit.removeWhere test)

def remove (ids : List Id) : Edit Registry Nat := removeWhere fun m => ids.contains m.id

/-- Takes out every monitor with one of the ids that the queries name beforehand. -/
def removeQuery (queries : List String) : Edit Registry Nat := fun r =>
  remove (r.resolve queries) r

def setEnabled (ids : List Id) (enabled : Bool) : Edit Registry Nat := fun r =>
  (r.monitors.countP fun m => ids.contains m.id,
    ⟨r.monitors.map fun m => if ids.contains m.id then { m with enabled } else m⟩)

def setEnabledQuery (queries : List String) (enabled : Bool) : Edit Registry Nat := fun r =>
  setEnabled (r.resolve queries) enabled r

def replaceMonitor (m : Monitor) : Edit Registry (Option Monitor) := editId m.id (Edit.replace m)

def addMode (id : Id) (mode : Mode) : Edit Registry (Option Unit) :=
  editId id (Monitor.addMode mode)

def addModeQuery (query : String) (mode : Mode) : Edit Registry (Option Unit) :=
  editQuery query (Monitor.addMode mode)

def removeMode (id : Id) (r : Resolution) : Edit Registry (Option Nat) :=
  editId id (Monitor.removeResolution r)

def removeModeQuery (query : String) (r : Resolution) : Edit Registry (Option Nat) :=
  editQuery query (Monitor.removeResolution r)

end Registry
end VirtualDisplay
