import VirtualDisplay.Channel.Error
import VirtualDisplay.Config.Basic
import VirtualDisplay.Files.StateFile
import VirtualDisplay.Wire.Command

/-! The loopback driver: a driver in the client's own process. It holds a live state and a committed
one, and broadcasts the live state whenever a command has changed it. -/

namespace VirtualDisplay

open Files

inductive Store
  | memory (committed : DriverState)
  | file (path : Path)
  deriving DecidableEq

namespace Store

def load (t : Tree) : Store → Except StorageError DriverState
  | memory committed => .ok committed
  | file path => StateFile.load path t

def save (state : DriverState) : Edit (Store × Tree) (Except StorageError Unit)
  | (memory _, t) => (.ok (), memory state, t)
  | (file path, t) =>
    let r := StateFile.save path state t
    (r.1, file path, r.2)

end Store

structure Loopback where
  live : DriverState := []
  connected : Bool := true
  store : Store := .memory []
  /-- How many events are kept for a subscriber that falls behind. -/
  capacity : Nat := 64
  /-- Every change broadcast so far, the oldest first. -/
  events : List DriverState := []
  deriving DecidableEq

def firstOfEachId : DriverState → DriverState := firstOfEach (·.id) []

namespace Loopback

/-- The least power of two that holds the capacity asked for. -/
def capacityFor (n : Nat) : Nat := if n ≤ 1 then 1 else Nat.pow 2 ((n - 1).log2 + 1)

def ofState (state : DriverState) : Loopback := { live := firstOfEachId state }

def ofConfig (c : DriverConfig) (t : Tree) : Except StorageError Loopback :=
  let capacity := capacityFor c.eventCapacity
  match c.stateFile with
  | none => .ok { capacity }
  | some path => do
    let committed ← StateFile.load ⟨path⟩ t
    pure { live := firstOfEachId committed, store := .file ⟨path⟩, capacity }

/-- Makes a state the live one, and broadcasts it if it differs. -/
def become (next : DriverState) (d : Loopback) : Loopback :=
  if next = d.live then d else { d with live := next, events := d.events ++ [next] }

def disconnected : ChannelError := .unreachable "loopback driver is disconnected"

def obey (d : Loopback) : DriverCommand → Loopback
  | .notify monitors => d.become (firstOfEachId monitors)
  | .remove ids => d.become (d.live.filter fun m => !ids.contains m.id)
  | .removeAll => d.become []

def handle (c : ServerCommand) : Edit Loopback (Except ChannelError (Option ClientCommand)) := fun d =>
  if d.connected then
    match c with
    | .driver c => (.ok none, d.obey c)
    | .request .state => (.ok (some (.reply (.state d.live))), d)
  else (.error disconnected, d)

def push (state : DriverState) : Edit Loopback (Except ChannelError Unit) := fun d =>
  let r := handle (.driver (.notify state)) d
  (r.1.map fun _ => (), r.2)

def pull (d : Loopback) : Except ChannelError DriverState :=
  if d.connected then .ok d.live else .error disconnected

def committed (t : Tree) (d : Loopback) : Except StorageError DriverState := d.store.load t

def commit : Edit (Loopback × Tree) (Except ChannelError Unit) := fun (d, t) =>
  if d.connected then
    let (r, store, t) := Store.save d.live (d.store, t)
    (r.mapError fun e => .persist e.message, { d with store }, t)
  else (.error disconnected, d, t)

/-- Goes back to the committed state, as a start does. -/
def restart (t : Tree) : Edit Loopback (Except ChannelError Unit) := fun d =>
  if d.connected then
    match d.committed t with
    | .error e => (.error (.persist e.message), d)
    | .ok state => (.ok (), d.become (firstOfEachId state))
  else (.error disconnected, d)

end Loopback
end VirtualDisplay
