import VirtualDisplay.Edit

/-! Scans for values that repeat. A scan goes through a list once and keeps the set of the values that it
has seen. -/

namespace VirtualDisplay

structure Passed (α : Type) where
  seen : List α := []
  reported : List α := []

variable {α β γ : Type} [DecidableEq α]

def note (x : α) : Edit (List α) Bool := fun seen =>
  if x ∈ seen then (false, seen) else (true, x :: seen)

def recurs : List α → List α → Bool
  | _, [] => false
  | seen, x :: xs =>
    let new := note x seen
    !new.1 || recurs new.2 xs

def firstOfEach (key : β → α) : List α → List β → List β
  | _, [] => []
  | seen, x :: xs =>
    let new := note (key x) seen
    let rest := firstOfEach key new.2 xs
    if new.1 then x :: rest else rest

/-- Passes a value; answers whether it is to be reported: it was seen before, and not reported yet. -/
def Passed.pass (x : α) : Edit (Passed α) Bool := fun p =>
  let new := note x p.seen
  if new.1 then (false, { p with seen := new.2 })
  else
    let report := note x p.reported
    (report.1, ⟨new.2, report.2⟩)

/-- Lists what there is to each element, given whether its key is to be reported. -/
def scan (key : β → α) (look : Bool → β → List γ) : Passed α → List β → List γ
  | _, [] => []
  | p, x :: xs =>
    let again := p.pass (key x)
    look again.1 x ++ scan key look again.2 xs

/-- The values that occur more than once, each where it occurs for the second time. -/
def repeated (xs : List α) : List α := scan id (fun again x => if again then [x] else []) {} xs

end VirtualDisplay
