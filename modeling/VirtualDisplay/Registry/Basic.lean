import VirtualDisplay.Issue

/-! The registry: a client's own document of monitors, in order. Monitors may share an id for a
while; `valid` and `issues` tell. -/

namespace VirtualDisplay

structure Registry where
  monitors : List Monitor := []
  deriving DecidableEq, Inhabited

namespace Registry

def ids (r : Registry) : List Id := r.monitors.map (·.id)

/-- Ids in use by more than one monitor, in the order in which they repeat. -/
def duplicateIds (r : Registry) : List Id := repeated r.ids

def valid (r : Registry) : Bool := r.monitors.all Monitor.valid && r.duplicateIds.isEmpty

def issues (r : Registry) : List Issue :=
  r.duplicateIds.map .duplicateMonitor ++ r.monitors.flatMap Monitor.issues

def edit {α : Type} (e : Edit (List Monitor) α) : Edit Registry α := fun r =>
  let a := e r.monitors
  (a.1, ⟨a.2⟩)

def push (m : Monitor) : Edit Registry Unit := fun r => ((), ⟨r.monitors ++ [m]⟩)

def extend (ms : List Monitor) : Edit Registry Unit := fun r => ((), ⟨r.monitors ++ ms⟩)

def replaceAll (ms : List Monitor) : Edit Registry (List Monitor) := fun r => (r.monitors, ⟨ms⟩)

def set (i : Nat) (m : Monitor) : Edit Registry (Option Monitor) :=
  edit (Edit.atIndex (Edit.replace m) i)

def removeAt (i : Nat) : Edit Registry (Option Monitor) := edit (Edit.removeAt i)

def removeAll : Edit Registry Unit := fun _ => ((), {})

end Registry
end VirtualDisplay
