import VirtualDisplay.World.Basic

/-! Delivery. Events of a loopback driver wait until the world settles; a scripted channel hands a state
over at once. Behind each subscription to a loopback driver stands a task with a receiver of its own.
The driver keeps its newest events, and a receiver that is behind by more loses the others. -/

namespace VirtualDisplay

inductive Receipt
  | event (state : DriverState)
  | lagged (missed : Nat)
  | empty
  | closed

namespace Loopback

/-- Receives the next event, by how many are behind the receiver. If that one is gone, the receiver
learns how many it has missed and is moved to the oldest that is left. At the end it has to wait, unless
nobody is left to send. -/
def receive (d : Loopback) (sending : Bool) : Edit Nat Receipt := fun cursor =>
  let oldest := d.events.length - d.capacity
  if cursor < oldest then (.lagged (oldest - cursor), oldest)
  else match d.events[cursor]? with
    | some state => (.event state, cursor + 1)
    | none => (if sending then .empty else .closed, cursor)

variable {d : Loopback} {sending : Bool} {cursor next missed : Nat} {state : DriverState}

theorem receive_event (h : d.receive sending cursor = (.event state, next)) :
    d.events.length - d.capacity ≤ cursor ∧ d.events[cursor]? = some state ∧ next = cursor + 1 := by
  simp only [receive] at h
  split at h
  · cases h
  · next hkept =>
    split at h
    · next hstate =>
      cases h
      exact ⟨Nat.le_of_not_lt hkept, hstate, rfl⟩
    · cases sending <;> cases h

theorem receive_lagged (h : d.receive sending cursor = (.lagged missed, next)) :
    cursor < next ∧ next = d.events.length - d.capacity := by
  simp only [receive] at h
  split at h
  · next hlost =>
    cases h
    exact ⟨hlost, rfl⟩
  · split at h
    · cases h
    · cases sending <;> cases h

end Loopback

/-- The task of a subscription, until it is over or has to wait. It looks at the handle before it
receives anything. -/
def Subscription.run (d : Loopback) (sending : Bool) (s : Subscription) : Subscription :=
  if s.cancelled then { s with ended := true }
  else match _h : d.receive sending s.cursor with
    | (.event state, cursor) => run d sending { s with cursor, handed := s.handed ++ [state] }
    | (.lagged _, cursor) => run d sending { s with cursor }
    | (.empty, _) => s
    | (.closed, _) => { s with ended := true }
-- every turn but the last brings the receiver closer to the end
termination_by d.events.length - s.cursor
decreasing_by
  · obtain ⟨-, hstate, rfl⟩ := Loopback.receive_event _h
    have := (List.getElem?_eq_some_iff.1 hstate).1
    omega
  · have := Loopback.receive_lagged _h
    omega

def Session.takeOver (states : List DriverState) (s : Session) : Session :=
  -- each state replaces the whole registry, so only the last one counts
  match states.getLast? with
  | none => s
  | some state => { s with registry := .ofRecords state }

namespace World

def updated (due : Subscription → List DriverState) (w : World) : List Session :=
  w.sessions.mapIdx fun i s =>
    s.takeOver ((w.subscriptions.filter (·.target = .registry i)).flatMap due)

def settled (w : World) (s : Subscription) : Subscription :=
  match w.channel s.channel with
  | .loopback d => if s.ended then s else s.run d (w.held s.channel)
  -- what was fired there has been handed over already
  | .scripted _ => s

/-- The states that a settle hands over. -/
def pending (w : World) (s : Subscription) : List DriverState :=
  (w.settled s).handed.drop s.handed.length

def settle (w : World) : World :=
  { w with subscriptions := w.subscriptions.map w.settled, sessions := w.updated w.pending }

def listening (w : World) (s : Subscription) : Bool :=
  s.channel = w.current && !s.cancelled && !s.ended

/-- Hands a state to all who listen on the current channel, and counts them. Those who have cancelled
are gone for good. -/
def fire (state : DriverState) : Edit World Nat := fun w =>
  let due := fun s => if w.listening s then [state] else []
  (w.subscriptions.countP w.listening,
    { w with
      subscriptions := w.subscriptions.map fun s =>
        { s with
          handed := s.handed ++ due s
          ended := s.ended || s.channel = w.current && s.cancelled }
      sessions := w.updated due })

end World
end VirtualDisplay
