import FaultWatch.Mask
import FaultWatch.Fault

/-! Fault ports and the channels they hand out. A port is whatever answers these calls out of some
state, which others may change through signals at any time; nothing more is assumed of it. A receive
takes effect when it returns. Running out of time is no failure of a channel: the listener asks
again. -/
namespace FaultWatch

inductive ChannelFailure
  | allocation (reason : String)
  | rejected (reason : String)
  | receive (reason : String)
  | release (reason : String)
  deriving DecidableEq, Repr

def ChannelFailure.message : ChannelFailure → String
  | .allocation reason => "fault channel allocation failed: " ++ reason
  | .rejected reason => "fault channel registration rejected: " ++ reason
  | .receive reason => "fault channel receive failed: " ++ reason
  | .release reason => "fault channel release failed: " ++ reason

inductive ReceiveFailure
  | timedOut
  | failed (error : ChannelFailure)
  deriving DecidableEq, Repr

def ReceiveFailure.message : ReceiveFailure → String
  | .timedOut => "no fault within the receive timeout"
  | .failed error => error.message

/-- A port with state `σ`, channels `χ` and signals `ι` from outside. -/
structure Port (σ χ ι : Type) where
  arm : Mask → σ → Except ChannelFailure χ × σ
  receive : χ → σ → Except ReceiveFailure Fault × χ × σ
  disarm : χ → σ → Except ChannelFailure Unit × χ × σ
  signal : ι → σ → σ

end FaultWatch
