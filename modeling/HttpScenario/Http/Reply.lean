import HttpScenario.Double.Basic
import HttpScenario.Error
import HttpScenario.Http.Outbound
/-!
# Replies

What comes back when a request is sent.  A request is either refused, or answered by a head at once
and a body that is read afterwards; reading the body can fail on its own.  Both come with the time
that passed until then.

A `Transport` stands for the other side: the replies it is going to give, in order, and the requests
it has seen.  Each request takes one reply; once none is left, what a request meets follows from the
request alone.
-/

namespace HttpScenario

/-- How long the phases of an exchange took, in milliseconds; a phase that was not seen is zero. -/
structure Timing where
  dns : Double := .zero
  connect : Double := .zero
  tlsHandshake : Double := .zero
  firstByte : Double := .zero
  total : Double := .zero
  deriving DecidableEq, Repr, Inhabited

/-- A duration of whole seconds and billionths of a second, in milliseconds. -/
def Timing.millis (seconds nanos : Nat) : Double :=
  let fraction := (Double.ofInt nanos).div (Double.ofInt 1000000000)
  ((Double.ofInt seconds).add fraction).mul (Double.ofInt 1000)

/-- The front of an answer. -/
structure ReplyHead where
  status : UInt16
  /-- How many octets the body has, if the head says so. -/
  contentLength : Option UInt64 := none
  timing : Timing := {}
  deriving DecidableEq, Repr, Inhabited

/-- What becomes of a request. -/
inductive Reply where
  /-- There is no answer; `elapsed` is the time until that was clear. -/
  | refused (error : Error) (elapsed : Double)
  /-- There is an answer; `elapsed` is the time until its body was read, or could not be. -/
  | answered (head : ReplyHead) (body : Except Error Octets) (elapsed : Double)

/-- What a request meets when there was a list of replies and none is left. -/
def Reply.exhausted : Reply :=
  .refused (.transport "no scripted reply left") .zero

/-- The replies still to come and the requests that were sent. -/
structure Transport where
  replies : List Reply
  sent : List OutboundRequest := []
  /-- What a request meets when no replies are left. -/
  afterwards : OutboundRequest → Reply := fun _ => .exhausted

namespace Transport

/-- Sends a request. -/
def send (request : OutboundRequest) (transport : Transport) : Reply × Transport :=
  let sent := transport.sent ++ [request]
  match transport.replies with
  | [] => (transport.afterwards request, { transport with sent := sent })
  | reply :: replies => (reply, { transport with replies := replies, sent := sent })

end Transport

end HttpScenario
