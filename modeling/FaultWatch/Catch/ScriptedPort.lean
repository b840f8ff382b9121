import FaultWatch.Catch.Loopback

/-! A port that answers from a script: whether arming and releasing fail, and what each receive
gives, with timeouts once the script is spent. A late reply is given only when the caller has
already been told to stop, so whoever plays the listener holds it back until then. It counts the
calls that were made. Signals reach the loopback port, also while a script is played in front of
it. -/
namespace FaultWatch

inductive Reply
  | timeout
  | fault (raw : Fault)
  | fail (error : ChannelFailure)
  | lateFault (raw : Fault)
  | lateFail (error : ChannelFailure)
  deriving DecidableEq, Repr

def Reply.isPrompt : Reply → Bool
  | .fault _ => true
  | .fail _ => true
  | _ => false

structure ScriptedPort where
  armFailure : Option ChannelFailure
  releaseFailure : Option ChannelFailure
  replies : List Reply
  asked : List Mask
  disarms : Nat
  receives : Nat
  deriving DecidableEq, Repr

namespace ScriptedPort

def ofScript (armFailure releaseFailure : Option ChannelFailure) (replies : List Reply) :
    ScriptedPort :=
  ⟨armFailure, releaseFailure, replies, [], 0, 0⟩

def resultOf : Option ChannelFailure → Except ChannelFailure Unit
  | some error => .error error
  | none => .ok ()

def arm (mask : Mask) (port : ScriptedPort) : Except ChannelFailure Unit × ScriptedPort :=
  (resultOf port.armFailure, { port with asked := port.asked ++ [mask] })

def disarm (port : ScriptedPort) : Except ChannelFailure Unit × ScriptedPort :=
  (resultOf port.releaseFailure, { port with disarms := port.disarms + 1 })

def replyOf : Reply → Except ReceiveFailure Fault
  | .timeout => .error .timedOut
  | .fault raw => .ok raw
  | .fail error => .error (.failed error)
  | .lateFault raw => .ok raw
  | .lateFail error => .error (.failed error)

def receive (port : ScriptedPort) : Except ReceiveFailure Fault × ScriptedPort :=
  let asked := { port with receives := port.receives + 1 }
  match port.replies with
  | reply :: rest => (replyOf reply, { asked with replies := rest })
  | [] => (.error .timedOut, asked)

def firstReply? (replies : List Reply) : Option Reply := replies.find? (· ≠ .timeout)

def winsBy (replies : List Reply) : Bool := (firstReply? replies).any Reply.isPrompt

end ScriptedPort

structure Stage where
  loopback : Loopback
  script : Option ScriptedPort
  deriving DecidableEq, Repr

inductive StageChannel
  | loopback (channel : LoopbackChannel)
  | scripted
  deriving DecidableEq, Repr

namespace Stage

def arm (mask : Mask) (stage : Stage) : Except ChannelFailure StageChannel × Stage :=
  match stage.script with
  | some script =>
    let (result, script) := script.arm mask
    (result.map fun _ => .scripted, { stage with script := some script })
  | none =>
    let (result, loopback) := stage.loopback.arm mask
    (result.map .loopback, { stage with loopback := loopback })

def receive (channel : StageChannel) (stage : Stage) :
    Except ReceiveFailure Fault × StageChannel × Stage :=
  match channel, stage.script with
  | .loopback channel, _ =>
    let (result, channel, loopback) := stage.loopback.receive channel
    (result, .loopback channel, { stage with loopback := loopback })
  | .scripted, some script =>
    let (result, script) := script.receive
    (result, .scripted, { stage with script := some script })
  | .scripted, none => (.error .timedOut, .scripted, stage)

def disarm (channel : StageChannel) (stage : Stage) :
    Except ChannelFailure Unit × StageChannel × Stage :=
  match channel, stage.script with
  | .loopback channel, _ =>
    let (result, channel, loopback) := stage.loopback.disarm channel
    (result, .loopback channel, { stage with loopback := loopback })
  | .scripted, some script =>
    let (result, script) := script.disarm
    (result, .scripted, { stage with script := some script })
  | .scripted, none => (.ok (), .scripted, stage)

def signal (signal : Loopback.Signal) (stage : Stage) : Stage :=
  { stage with loopback := stage.loopback.signal signal }

def port : Port Stage StageChannel Loopback.Signal where
  arm := arm
  receive := receive
  disarm := disarm
  signal := signal

end Stage
end FaultWatch
