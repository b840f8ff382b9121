import FaultWatch.Decoder
import FaultWatch.Catch.Channel

/-! What a race can end with, and what its caller gets for it. The operation's value, error or panic
is passed on; a fault is decoded, and reported as it came if that fails; a broken channel is
reported like one that could not be armed. -/
namespace FaultWatch

inductive Finish (α ε π : Type)
  | returned (value : α)
  | failed (error : ε)
  | panicked (payload : π)
  deriving DecidableEq, Repr

inductive Verdict (α ε π : Type)
  | operation (finish : Finish α ε π)
  | fault (raw : Fault)
  | listenerFailed (error : ChannelFailure)
  deriving DecidableEq, Repr

inductive CatchFailure (ε : Type)
  | registration (error : ChannelFailure)
  | fault (fault : Diagnosis)
  | unrecognized (raw : Fault)
  | operation (error : ε)
  deriving DecidableEq, Repr

inductive Ending (α ε π : Type)
  | value (value : α)
  | error (error : CatchFailure ε)
  | panic (payload : π)
  deriving DecidableEq, Repr

namespace CatchFailure

variable {ε : Type}

def fault? : CatchFailure ε → Option Diagnosis
  | fault decoded => some decoded
  | _ => none

def isFault : CatchFailure ε → Bool
  | fault _ => true
  | unrecognized _ => true
  | _ => false

def message (wording : ε → String) : CatchFailure ε → String
  | registration error => "fault channel registration failed: " ++ error.message
  | fault decoded => "caught " ++ String.ofList decoded.sentence
  | unrecognized raw => "unrecognized fault " ++ String.ofList raw.text
  | operation error => "operation failed: " ++ wording error

end CatchFailure

def CatchFailure.ofFault {ε : Type} (decoder : Decoder) (raw : Fault) : CatchFailure ε :=
  match decoder.decode? raw with
  | some decoded => .fault decoded
  | none => .unrecognized raw

def Verdict.ending {α ε π : Type} (decoder : Decoder) : Verdict α ε π → Ending α ε π
  | .operation (.returned value) => .value value
  | .operation (.failed error) => .error (.operation error)
  | .operation (.panicked payload) => .panic payload
  | .fault raw => .error (.ofFault decoder raw)
  | .listenerFailed error => .error (.registration error)

end FaultWatch
