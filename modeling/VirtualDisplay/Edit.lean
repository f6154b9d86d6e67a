/-! Edits: functions that answer something and give back the changed value. An edit of an element
lifts to an edit of the list that holds it. -/

namespace VirtualDisplay

abbrev Edit (σ α : Type) := σ → α × σ

namespace Edit

variable {σ α : Type}

/-- Edits the element at an index; without one there, answers `none` and changes nothing. -/
def atIndex (e : Edit σ α) : Nat → Edit (List σ) (Option α)
  | _, [] => (none, [])
  | 0, x :: xs => let r := e x; (some r.1, r.2 :: xs)
  | i + 1, x :: xs => let r := atIndex e i xs; (r.1, x :: r.2)

def atFirst (test : σ → Bool) (e : Edit σ α) : Edit (List σ) (Option α)
  | [] => (none, [])
  | x :: xs =>
    if test x then let r := e x; (some r.1, r.2 :: xs)
    else let r := atFirst test e xs; (r.1, x :: r.2)

def atEach (e : Edit σ α) : Edit (List σ) (List α) := fun xs =>
  let rs := xs.map e
  (rs.map (·.1), rs.map (·.2))

def replace (new : σ) : Edit σ σ := fun old => (old, new)

def removeAt (i : Nat) : Edit (List σ) (Option σ) := fun xs => (xs[i]?, xs.eraseIdx i)

def removeWhere (test : σ → Bool) : Edit (List σ) Nat := fun xs =>
  (xs.countP test, xs.filter (!test ·))

end Edit
end VirtualDisplay
