import VirtualDisplay.Text.Decimal

/-! What can go wrong between a client and the driver. -/

namespace VirtualDisplay

structure Span where
  nanoseconds : Nat
  deriving DecidableEq

namespace Span

open Text

/-- A decimal fraction of so many places, without the zeros at its end. -/
def fractionText (places n : Nat) : List Char :=
  let ds := digits n
  let padded := List.replicate (places - ds.length) '0' ++ ds
  match (padded.reverse.dropWhile (· = '0')).reverse with
  | [] => []
  | ds => '.' :: ds

def textIn (places : Nat) (n : Nat) : List Char :=
  digits (n / Nat.pow 10 places) ++ fractionText places (n % Nat.pow 10 places)

/-- The largest unit of which the span holds at least one. -/
def text (s : Span) : String :=
  let n := s.nanoseconds
  if 1000000000 ≤ n then String.ofList (textIn 9 n) ++ "s"
  else if 1000000 ≤ n then String.ofList (textIn 6 n) ++ "ms"
  else if 1000 ≤ n then String.ofList (textIn 3 n) ++ "µs"
  else String.ofList (digits n) ++ "ns"

end Span

inductive ChannelError
  | unreachable (reason : String)
  | malformedResponse (reason : String)
  | timeout (after : Span)
  | persist (reason : String)
  | noRuntime
  deriving DecidableEq

namespace ChannelError

def message : ChannelError → String
  | unreachable reason => "driver unreachable: " ++ reason
  | malformedResponse reason => "malformed driver response: " ++ reason
  | timeout after => "driver did not respond within " ++ after.text
  | persist reason => "driver failed to persist state: " ++ reason
  | noRuntime => "no async runtime available to deliver driver events"

end ChannelError
end VirtualDisplay
