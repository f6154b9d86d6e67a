import VirtualDisplay.Mode.Basic
import VirtualDisplay.Scan

/-! A virtual monitor and its modes, in the order in which they are kept. -/

namespace VirtualDisplay

/-- The number by which the driver knows a monitor. -/
abbrev Id := UInt32

structure Monitor where
  id : Id := 0
  name : Option String := none
  enabled : Bool := true
  modes : List Mode := []
  deriving DecidableEq, Inhabited

namespace Monitor

def addMode (mode : Mode) : Edit Monitor Unit := fun m =>
  ((), { m with modes := m.modes ++ [mode] })

def editModes {α : Type} (e : Edit (List Mode) α) : Edit Monitor α := fun m =>
  let r := e m.modes
  (r.1, { m with modes := r.2 })

def hasResolution (r : Resolution) (mode : Mode) : Bool := mode.resolution == r

def findMode? (m : Monitor) (r : Resolution) : Option Mode := m.modes.find? (hasResolution r)

def setMode (i : Nat) (mode : Mode) : Edit Monitor (Option Mode) :=
  editModes (Edit.atIndex (Edit.replace mode) i)

def removeMode (i : Nat) : Edit Monitor (Option Mode) := editModes (Edit.removeAt i)

def removeModesWhere (test : Mode → Bool) : Edit Monitor Nat := editModes (Edit.removeWhere test)

def removeResolution (r : Resolution) : Edit Monitor Nat := removeModesWhere (hasResolution r)

def valid (m : Monitor) : Bool :=
  m.modes.all Mode.valid && !recurs [] (m.modes.map Mode.resolution)

end Monitor
end VirtualDisplay
