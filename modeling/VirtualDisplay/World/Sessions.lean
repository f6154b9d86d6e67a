import VirtualDisplay.World.Basic

/-! What sessions do. A session reaches the driver only through the four calls of its channel, hands
their errors on as they are, and tries nothing twice. -/

namespace VirtualDisplay
namespace World

variable {α : Type}

/-! ### Calls on a channel -/

def call (i : Nat) (e : Edit Channel α) : Edit World α := fun w =>
  let r := e (w.channel i)
  (r.1, { w with channels := w.channels.set i r.2 })

def commit (i : Nat) : Edit World (Except ChannelError Unit) := fun w =>
  let (r, c, files) := Channel.commit (w.channel i, w.files)
  (r, { w with channels := w.channels.set i c, files })

def subscribe (i : Nat) (target : Target) (runtime : Bool) : Edit World (Except ChannelError Nat) :=
  fun w =>
    match call i (Channel.subscribe runtime) w with
    | (.error e, w) => (.error e, w)
    | (.ok grant, w) =>
      let new : Subscription :=
        { channel := i, target, cancellable := grant ≠ .inert, ended := grant = .dead,
          cursor := (w.channel i).broadcasts }
      (.ok w.subscriptions.length, { w with subscriptions := w.subscriptions ++ [new] })

def cancel (subscription : Nat) (w : World) : World :=
  { w with subscriptions := w.subscriptions.modify subscription Subscription.cancel }

/-- Cancels a subscription whose handle was given out. Those of sessions are out of reach. -/
def release (subscription : Nat) (w : World) : World :=
  if w.subscriptions[subscription]?.any (·.target = .record) then w.cancel subscription else w

/-! ### Sessions -/

def setSession (i : Nat) (s : Session) (w : World) : World :=
  { w with sessions := w.sessions.set i s }

def addSession (s : Session) : Edit World Nat := fun w =>
  (w.sessions.length, { w with sessions := w.sessions ++ [s] })

/-- Connects to the current channel: fetches the driver state, subscribes to what comes after it, and
follows the driver if the settings say so. -/
def connect (config : SessionConfig) : Edit World (Except ChannelError Nat) := fun w =>
  let i := w.current
  match call i Channel.pull w with
  | (.error e, w) => (.error e, w)
  | (.ok state, w) =>
    match subscribe i .cache true w with
    | (.error e, w) => (.error e, w)
    | (.ok source, w) =>
      let new : Session :=
        { channel := i, registry := .ofRecords state, cache := { initial := state, source } }
      if config.followDriver then
        match subscribe i (.registry w.sessions.length) true w with
        -- the handle of the first subscription is dropped with the attempt
        | (.error e, w) => (.error e, w.cancel source)
        | (.ok k, w) =>
          let r := addSession { new with following := some k } w
          (.ok r.1, r.2)
      else
        let r := addSession new w
        (.ok r.1, r.2)

def notify (s : Session) : Edit World (Except ChannelError Unit) :=
  call s.channel (Channel.push s.registry.toRecords)

def reload (i : Nat) (s : Session) : Edit World (Except ChannelError Unit) := fun w =>
  match call s.channel Channel.pull w with
  | (.error e, w) => (.error e, w)
  | (.ok state, w) => (.ok (), w.setSession i { s with registry := .ofRecords state })

/-- Replaces the registry with the latest driver state that has come in. -/
def refresh (i : Nat) (s : Session) (w : World) : World :=
  w.setSession i { s with registry := .ofRecords (w.cached s.cache) }

def editRegistry (i : Nat) (s : Session) (e : Edit Registry α) : Edit World α := fun w =>
  let r := e s.registry
  (r.1, w.setSession i { s with registry := r.2 })

def follow (i : Nat) (s : Session) (runtime : Bool) : Edit World (Except ChannelError Unit) := fun w =>
  if s.following.isSome then (.ok (), w)
  else match subscribe s.channel (.registry i) runtime w with
    | (.error e, w) => (.error e, w)
    | (.ok k, w) => (.ok (), w.setSession i { s with following := some k })

def unfollow (i : Nat) (s : Session) (w : World) : World :=
  match s.following with
  | none => w
  | some k => (w.cancel k).setSession i { s with following := none }

/-- Adds a session on the same channel with the same registry. It shares the cache, and does not
follow. -/
def duplicate (s : Session) : Edit World Nat := addSession { s with following := none }

def sourced (w : World) (source : Nat) : Bool :=
  w.sessions.any fun s => !s.dropped && s.cache.source = source

/-- Drops a session. Its own subscription goes with it, and the one behind its cache once no other
session draws on that. -/
def dropSession (i : Nat) (s : Session) (w : World) : World :=
  let w := (w.unfollow i s).setSession i { s with following := none, dropped := true }
  if w.sourced s.cache.source then w else w.cancel s.cache.source

/-! ### Watching a cache -/

def watch (s : Session) : Edit World Nat := fun w =>
  (w.watchers.length, { w with watchers := w.watchers ++ [{ cache := s.cache }] })

def poll (i : Nat) (x : Watcher) : Edit World (Bool × DriverState) := fun w =>
  let n := (w.updates x.cache).length
  ((x.seen ≠ n, w.cached x.cache), { w with watchers := w.watchers.set i { x with seen := n } })

end World
end VirtualDisplay
