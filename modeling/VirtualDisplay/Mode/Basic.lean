import VirtualDisplay.RateSet

/-! A display mode: a resolution and the refresh rates offered at it. -/

namespace VirtualDisplay

abbrev Dimension := UInt32

abbrev Resolution := Dimension × Dimension

structure Mode where
  width : Dimension := 0
  height : Dimension := 0
  rates : RateSet := .empty
  deriving DecidableEq, Inhabited

namespace Mode

def ofRates (width height : Dimension) (rates : List Rate) : Mode :=
  { width, height, rates := .ofList rates }

/-- Names the mode on its monitor. -/
def resolution (m : Mode) : Resolution := (m.width, m.height)

def sameResolution (m n : Mode) : Bool := m.resolution == n.resolution

def valid (m : Mode) : Bool := m.width != 0 && m.height != 0 && m.rates.valid

end Mode
end VirtualDisplay
