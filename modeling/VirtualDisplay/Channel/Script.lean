import VirtualDisplay.Channel.Error
import VirtualDisplay.Record.Basic

/-! A scripted channel: it plays back results that were laid out beforehand, one queue for each kind
of call, and keeps a list of the calls. A queue that has run out gives success. -/

namespace VirtualDisplay

/-- What a subscriber gets: a handle that ends the delivery, one that ends nothing, or one for which
delivery has already ended. -/
inductive Grant
  | live
  | inert
  | dead
  deriving DecidableEq

inductive Call
  | pull
  | push (state : DriverState)
  | commit
  | subscribe
  deriving DecidableEq

structure Script where
  pulls : List (Except ChannelError DriverState) := []
  pushes : List (Except ChannelError Unit) := []
  commits : List (Except ChannelError Unit) := []
  subscribes : List (Except ChannelError Grant) := []
  calls : List Call := []

namespace Script

def log (c : Call) (s : Script) : Script := { s with calls := s.calls ++ [c] }

def pull : Edit Script (Except ChannelError DriverState) := fun s =>
  (s.pulls.headD (.ok []), { s.log .pull with pulls := s.pulls.tail })

def push (state : DriverState) : Edit Script (Except ChannelError Unit) := fun s =>
  (s.pushes.headD (.ok ()), { s.log (.push state) with pushes := s.pushes.tail })

def commit : Edit Script (Except ChannelError Unit) := fun s =>
  (s.commits.headD (.ok ()), { s.log .commit with commits := s.commits.tail })

def subscribe : Edit Script (Except ChannelError Grant) := fun s =>
  (s.subscribes.headD (.ok .live), { s.log .subscribe with subscribes := s.subscribes.tail })

end Script
end VirtualDisplay
