import VirtualDisplay.Json.Writer
import VirtualDisplay.Record.Basic

/-! The commands between a client and the driver, and their JSON form: a command without payload is
its name, any other an object whose one member is the name and holds the payload. -/

namespace VirtualDisplay

open Json

inductive DriverCommand
  | notify (monitors : DriverState)
  | remove (ids : List Id)
  | removeAll
  deriving DecidableEq

inductive RequestCommand
  | state
  deriving DecidableEq

inductive ReplyCommand
  | state (monitors : DriverState)
  deriving DecidableEq

inductive EventCommand
  | changed (monitors : DriverState)
  deriving DecidableEq

/-- What a client may send. -/
inductive ServerCommand
  | driver (c : DriverCommand)
  | request (c : RequestCommand)
  deriving DecidableEq

/-- What the driver may send. -/
inductive ClientCommand
  | reply (c : ReplyCommand)
  | event (c : EventCommand)
  deriving DecidableEq

namespace Wire

def tagged (name : String) (payload : Value) : Value := .ofFields [(name, payload)]

end Wire

def DriverCommand.toValue : DriverCommand → Value
  | notify monitors => Wire.tagged "Notify" (DriverState.toValue monitors)
  | remove ids => Wire.tagged "Remove" (.array (ids.map .ofWord))
  | removeAll => .ofText "RemoveAll"

def RequestCommand.toValue : RequestCommand → Value
  | state => .ofText "State"

def ReplyCommand.toValue : ReplyCommand → Value
  | state monitors => Wire.tagged "State" (DriverState.toValue monitors)

def EventCommand.toValue : EventCommand → Value
  | changed monitors => Wire.tagged "Changed" (DriverState.toValue monitors)

def ServerCommand.toValue : ServerCommand → Value
  | driver c => c.toValue
  | request c => c.toValue

def ClientCommand.toValue : ClientCommand → Value
  | reply c => c.toValue
  | event c => c.toValue

end VirtualDisplay
