import VirtualDisplay.Channel.Basic
import VirtualDisplay.Registry.Edit

/-! Drivers, sessions and subscriptions, side by side. Channels, sessions, subscriptions and watchers
are numbered in the order in which they came up; those that have ended keep their number. The last
channel is the current one: new sessions connect to it. -/

namespace VirtualDisplay

open Files

/-- Where a session's copy of the driver state comes from: what the session pulled when it connected,
and the subscription that has brought every state since. -/
structure Cache where
  initial : DriverState
  source : Nat
  deriving DecidableEq

structure Session where
  channel : Nat
  registry : Registry
  cache : Cache
  following : Option Nat := none
  dropped : Bool := false
  deriving DecidableEq

/-- What happens to the states that a subscription brings. They are recorded in any case. -/
inductive Target
  /-- Nothing more. The handle is in the hands of whoever asked for the subscription. -/
  | record
  /-- They update the cache that the subscription stands behind. -/
  | cache
  | registry (session : Nat)
  deriving DecidableEq

structure Subscription where
  channel : Nat
  target : Target
  /-- Whether the holder of the handle can end the delivery. -/
  cancellable : Bool := true
  cancelled : Bool := false
  ended : Bool := false
  /-- How many events of the channel are behind it. -/
  cursor : Nat
  handed : List DriverState := []
  deriving DecidableEq

/-- A look-out on a cache, and how many of the updates it has seen. -/
structure Watcher where
  cache : Cache
  seen : Nat := 0
  deriving DecidableEq

structure World where
  files : Tree := {}
  channels : List Channel
  sessions : List Session := []
  subscriptions : List Subscription := []
  watchers : List Watcher := []

namespace Subscription

def active (s : Subscription) : Bool := s.cancellable && !s.cancelled && !s.ended

/-- What cancelling or dropping the handle does. -/
def cancel (s : Subscription) : Subscription := { s with cancelled := s.cancelled || s.cancellable }

end Subscription

namespace World

def current (w : World) : Nat := w.channels.length - 1

def channel (w : World) (i : Nat) : Channel := w.channels.getD i (.loopback {})

def session? (w : World) (i : Nat) : Option Session := w.sessions[i]?.filter (!·.dropped)

def updates (w : World) (c : Cache) : List DriverState :=
  (w.subscriptions[c.source]?.map (·.handed)).getD []

def cached (w : World) (c : Cache) : DriverState := (w.updates c).getLast?.getD c.initial

/-- Whether someone can still make the driver behind a channel do something. -/
def held (w : World) (channel : Nat) : Bool :=
  channel = w.current || w.sessions.any fun s => !s.dropped && s.channel = channel

def subscribers (w : World) (channel : Nat) : Nat :=
  w.subscriptions.countP fun s => s.channel = channel && !s.ended

end World
end VirtualDisplay
