import VirtualDisplay.World.Delivery
import VirtualDisplay.World.Describe
import VirtualDisplay.World.Sessions

/-! The steps of a world and what each of them answers. A run is a list of steps. -/

namespace VirtualDisplay

open Files

/-- Sessions, subscriptions and watchers are given by number. Commands, calls without a session, and
what happens to a driver concern the current channel. -/
inductive Step (α : Type)
  | settle
  /-- Lets a hand outside change files. -/
  | touch (change : Tree → Tree)
  | handle (c : ServerCommand)
  | push (state : DriverState)
  | pull
  | commit
  | restart
  | disconnect
  | reconnect
  | fire (state : DriverState)
  /-- Puts a new driver in the place of the current one. -/
  | replaceDriver (config : DriverConfig)
  /-- Through a session, or straight on the current channel. -/
  | subscribe (session : Option Nat) (runtime : Bool)
  | cancel (subscription : Nat)
  | isActive (subscription : Nat)
  | connect (config : SessionConfig)
  | notify (session : Nat)
  | persist (session : Nat)
  | reload (session : Nat)
  | fetch (session : Nat)
  | refresh (session : Nat)
  | edit (session : Nat) (e : Edit Registry α)
  | isValid (session : Nat)
  | describe (session : Nat)
  | follow (session : Nat) (runtime : Bool)
  | unfollow (session : Nat)
  | duplicate (session : Nat)
  | drop (session : Nat)
  | watch (session : Nat)
  | poll (watcher : Nat)

inductive Outcome (α : Type)
  | done
  | failed (e : ChannelError)
  | unreadable (e : StorageError)
  /-- There is nothing under the number, or the channel cannot do this. -/
  | unknown
  | opened (number : Nat)
  | replied (c : Option ClientCommand)
  | state (s : DriverState)
  | count (n : Nat)
  | flag (b : Bool)
  | polled (changed : Bool) (s : DriverState)
  | text (s : String)
  | edited (a : α)

namespace Outcome

variable {α β : Type}

def ofExcept (f : β → Outcome α) : Except ChannelError β → Outcome α
  | .ok b => f b
  | .error e => failed e

end Outcome

namespace World

variable {α β : Type}

def answering (f : β → Outcome α) (e : Edit World β) : Edit World (Outcome α) := fun w =>
  let r := e w
  (f r.1, r.2)

def trying (f : β → Outcome α) (e : Edit World (Except ChannelError β)) : Edit World (Outcome α) :=
  answering (.ofExcept f) e

def onLoopback (f : β → Outcome α) (e : Edit Loopback β) : Edit World (Outcome α) := fun w =>
  match w.channel w.current with
  | .scripted _ => (.unknown, w)
  | .loopback d =>
    let r := e d
    (f r.1, { w with channels := w.channels.set w.current (.loopback r.2) })

def onScripted (e : Edit World (Outcome α)) : Edit World (Outcome α) := fun w =>
  match w.channel w.current with
  | .scripted _ => e w
  | .loopback _ => (.unknown, w)

def onSession (i : Nat) (f : Session → Edit World (Outcome α)) : Edit World (Outcome α) := fun w =>
  match w.session? i with
  | none => (.unknown, w)
  | some s => f s w

def done : Unit → Outcome α := fun _ => .done

def replaceDriver (config : DriverConfig) : Edit World (Outcome α) := fun w =>
  match Loopback.ofConfig config w.files with
  | .error e => (.unreadable e, w)
  | .ok d => (.done, { w with channels := w.channels ++ [.loopback d] })

def step : Step α → Edit World (Outcome α)
  | .settle => fun w => (.done, w.settle)
  | .touch change => fun w => (.done, { w with files := change w.files })
  | .handle c => onLoopback (.ofExcept .replied) (Loopback.handle c)
  | .push state => fun w => trying done (call w.current (Channel.push state)) w
  | .pull => fun w => trying .state (call w.current Channel.pull) w
  | .commit => fun w => trying done (World.commit w.current) w
  | .restart => fun w => onLoopback (.ofExcept done) (Loopback.restart w.files) w
  | .disconnect => onLoopback done fun d => ((), { d with connected := false })
  | .reconnect => onLoopback done fun d => ((), { d with connected := true })
  | .fire state => onScripted (answering .count (World.fire state))
  | .replaceDriver config => World.replaceDriver config
  | .subscribe none runtime => fun w =>
    trying .opened (World.subscribe w.current .record runtime) w
  | .subscribe (some i) runtime =>
    onSession i fun s => trying .opened (World.subscribe s.channel .record runtime)
  | .cancel k => fun w => (.done, w.release k)
  | .isActive k => fun w => (.flag (w.subscriptions[k]?.any Subscription.active), w)
  | .connect config => trying .opened (World.connect config)
  | .notify i => onSession i fun s => trying done (World.notify s)
  | .persist i => onSession i fun s => trying done (World.commit s.channel)
  | .reload i => onSession i fun s => trying done (World.reload i s)
  | .fetch i => onSession i fun s => trying .state (call s.channel Channel.pull)
  | .refresh i => onSession i fun s w => (.done, w.refresh i s)
  | .edit i e => onSession i fun s => answering .edited (editRegistry i s e)
  | .isValid i => onSession i fun s w => (.flag s.registry.valid, w)
  | .describe i => onSession i fun s w => (.text s.describe, w)
  | .follow i runtime => onSession i fun s => trying done (World.follow i s runtime)
  | .unfollow i => onSession i fun s w => (.done, w.unfollow i s)
  | .duplicate i => onSession i fun s => answering .opened (World.duplicate s)
  | .drop i => onSession i fun s w => (.done, w.dropSession i s)
  | .watch i => onSession i fun s => answering .opened (World.watch s)
  | .poll i => fun w => match w.watchers[i]? with
    | none => (.unknown, w)
    | some x => answering (fun r => .polled r.1 r.2) (World.poll i x) w

def run (steps : List (Step α)) (w : World) : World := steps.foldl (fun w s => (w.step s).2) w

end World
end VirtualDisplay
