/-! Settings of a client. Every setting has a default. -/

namespace VirtualDisplay

structure LoggingConfig where
  level : String := "info"
  deriving DecidableEq

structure SessionConfig where
  /-- Whether a session takes over every change of the driver as it comes in. -/
  followDriver : Bool := false
  deriving DecidableEq

structure DriverConfig where
  /-- Where committed state is kept; without it, in memory. -/
  stateFile : Option String := none
  /-- How many events a subscriber may fall behind before it misses some. -/
  eventCapacity : Nat := 64
  deriving DecidableEq

structure ClientConfig where
  logging : LoggingConfig := {}
  session : SessionConfig := {}
  driver : DriverConfig := {}
  deriving DecidableEq

end VirtualDisplay
