import VirtualDisplay.Channel.Basic

/-! Calls on a scripted channel. Whoever has several calls to make makes each only once those before it
have succeeded, and then stops. -/

namespace VirtualDisplay

/-- The error of a result. -/
def fault? {ε β : Type} : Except ε β → Option ε
  | .ok _ => none
  | .error e => some e

namespace Script

/-- Makes a call, and answers the error if it fails. -/
def make : Call → Edit Script (Option ChannelError)
  | .pull => fun s => let r := pull s; (fault? r.1, r.2)
  | .push state => fun s => let r := push state s; (fault? r.1, r.2)
  | .commit => fun s => let r := commit s; (fault? r.1, r.2)
  | .subscribe => fun s => let r := subscribe s; (fault? r.1, r.2)

/-- Makes calls one after the other, up to the first that fails. Answers the calls that were made, and
the error of the one that failed. -/
def attempt : List Call → Edit Script (List Call × Option ChannelError)
  | [], s => (([], none), s)
  | c :: cs, s =>
    match make c s with
    | (some e, s) => (([c], some e), s)
    | (none, s) => let r := attempt cs s; ((c :: r.1.1, r.1.2), r.2)

variable {s : Script} {c : Call} {cs ds : List Call} {e : ChannelError}

theorem calls_make (c : Call) (s : Script) : (make c s).2.calls = s.calls ++ [c] := by
  cases c <;> rfl

theorem attempt_cons (c : Call) (cs : List Call) (s : Script) :
    attempt (c :: cs) s = match make c s with
      | (some e, s) => (([c], some e), s)
      | (none, s) => ((c :: (attempt cs s).1.1, (attempt cs s).1.2), (attempt cs s).2) := rfl

/-- The calls are written down as they are made, and no others. -/
theorem calls_attempt (cs : List Call) (s : Script) :
    (attempt cs s).2.calls = s.calls ++ (attempt cs s).1.1 := by
  induction cs generalizing s with
  | nil => exact (List.append_nil _).symm
  | cons c cs ih =>
    have hmake := calls_make c s
    rcases hc : make c s with ⟨_ | e, s'⟩ <;> rw [hc] at hmake
    · simp only [attempt_cons, hc, ih]
      rw [hmake, List.append_assoc]
      rfl
    · simp only [attempt_cons, hc]
      exact hmake

/-- After a failure nothing more is tried. -/
theorem attempt_append_failed (h : (attempt cs s).1.2 = some e) :
    attempt (cs ++ ds) s = attempt cs s := by
  induction cs generalizing s with
  | nil => cases h
  | cons c cs ih =>
    rw [List.cons_append, attempt_cons, attempt_cons]
    rw [attempt_cons] at h
    rcases hc : make c s with ⟨_ | e', s'⟩
    · simp only [hc] at h ⊢
      rw [ih h]
    · rfl

theorem attempt_append_ok (h : (attempt cs s).1.2 = none) :
    attempt (cs ++ ds) s = (((attempt cs s).1.1 ++ (attempt ds (attempt cs s).2).1.1,
      (attempt ds (attempt cs s).2).1.2), (attempt ds (attempt cs s).2).2) := by
  induction cs generalizing s with
  | nil => rfl
  | cons c cs ih =>
    rw [List.cons_append, attempt_cons, attempt_cons]
    rw [attempt_cons] at h
    rcases hc : make c s with ⟨_ | e', s'⟩
    · simp only [hc] at h ⊢
      rw [ih h]
      rfl
    · simp [hc] at h

theorem attempt_singleton (c : Call) (s : Script) :
    attempt [c] s = (([c], (make c s).1), (make c s).2) := by
  rw [attempt_cons]
  rcases make c s with ⟨_ | e, s'⟩ <;> rfl

end Script
end VirtualDisplay
