import VirtualDisplay.Channel.Loopback
import VirtualDisplay.Channel.Script

/-! The channel between a client and a driver, and its four calls. -/

namespace VirtualDisplay

open Files

inductive Channel
  | loopback (d : Loopback)
  | scripted (s : Script)

namespace Channel

def push (state : DriverState) : Edit Channel (Except ChannelError Unit)
  | loopback d => let r := Loopback.push state d; (r.1, loopback r.2)
  | scripted s => let r := Script.push state s; (r.1, scripted r.2)

def pull : Edit Channel (Except ChannelError DriverState)
  | loopback d => (d.pull, loopback d)
  | scripted s => let r := Script.pull s; (r.1, scripted r.2)

def commit : Edit (Channel × Tree) (Except ChannelError Unit)
  | (loopback d, t) => let (r, d, t) := Loopback.commit (d, t); (r, loopback d, t)
  | (scripted s, t) => let r := Script.commit s; (r.1, scripted r.2, t)

/-- Asks to be told of changes. Events of a loopback driver are delivered by a task, for which there
must be a runtime. -/
def subscribe (runtime : Bool) : Edit Channel (Except ChannelError Grant)
  | loopback d =>
    (if !d.connected then .error Loopback.disconnected
      else if runtime then .ok .live else .error .noRuntime, loopback d)
  | scripted s => let r := Script.subscribe s; (r.1, scripted r.2)

def broadcasts : Channel → Nat
  | loopback d => d.events.length
  | scripted _ => 0

end Channel
end VirtualDisplay
