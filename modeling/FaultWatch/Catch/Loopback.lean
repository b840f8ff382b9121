import FaultWatch.Log

/-! A port fed by injected faults. One channel is armed at a time; what is raised for it waits in
order until it is received, and is thrown away when the channel is released. Arming and receiving
can be told to fail: such failures wait in order, and come before anything else. A receive does not
wait. Anyone may signal the port at any time. -/
namespace FaultWatch

structure Loopback where
  pending : List Fault
  armed : Option Mask
  arms : Nat
  disarms : Nat
  receives : Nat
  armFailures : List ChannelFailure
  receiveFailures : List ChannelFailure
  deriving DecidableEq, Repr

structure LoopbackChannel where
  mask : Mask
  live : Bool
  deriving DecidableEq, Repr

namespace Loopback

def fresh : Loopback := ⟨[], none, 0, 0, 0, [], []⟩

def arm (mask : Mask) (port : Loopback) : Except ChannelFailure LoopbackChannel × Loopback :=
  match port.armFailures, port.armed with
  | error :: rest, _ => (.error error, { port with armFailures := rest })
  | [], some _ => (.error (.rejected "a loopback channel is already armed"), port)
  | [], none => (.ok ⟨mask, true⟩, { port with armed := some mask, arms := port.arms + 1 })

def takeFault (mask : Mask) : List Fault → Option (Fault × List Fault)
  | [] => none
  | raw :: rest =>
    if mask.includes raw.category then some (raw, rest)
    else (takeFault mask rest).map fun found => (found.1, raw :: found.2)

def receive (channel : LoopbackChannel) (port : Loopback) :
    Except ReceiveFailure Fault × LoopbackChannel × Loopback :=
  if channel.live then
    let asked := { port with receives := port.receives + 1 }
    match port.receiveFailures with
    | error :: rest => (.error (.failed error), channel, { asked with receiveFailures := rest })
    | [] =>
      match takeFault channel.mask port.pending with
      | some (raw, rest) => (.ok raw, channel, { asked with pending := rest })
      | none => (.error .timedOut, channel, asked)
  else (.error (.failed (.receive "channel is disarmed")), channel, port)

def disarm (channel : LoopbackChannel) (port : Loopback) :
    Except ChannelFailure Unit × LoopbackChannel × Loopback :=
  if channel.live then
    (.ok (), { channel with live := false },
      { port with armed := none, disarms := port.disarms + 1, pending := [] })
  else (.ok (), channel, port)

def accepts (port : Loopback) (raw : Fault) : Bool :=
  port.armed.any fun mask => mask.includes raw.category

def raise (raw : Fault) (port : Loopback) : Loopback :=
  if port.accepts raw then { port with pending := port.pending ++ [raw] } else port

def raiseLog (raw : Fault) (port : Loopback) : List LogRecord :=
  if port.accepts raw then [] else [.dropped raw]

def queueArmFailure (error : ChannelFailure) (port : Loopback) : Loopback :=
  { port with armFailures := port.armFailures ++ [error] }

def queueReceiveFailure (error : ChannelFailure) (port : Loopback) : Loopback :=
  { port with receiveFailures := port.receiveFailures ++ [error] }

inductive Signal
  | raise (raw : Fault)
  | failArm (error : ChannelFailure)
  | failReceive (error : ChannelFailure)
  deriving DecidableEq, Repr

def signal (port : Loopback) : Signal → Loopback
  | .raise raw => port.raise raw
  | .failArm error => port.queueArmFailure error
  | .failReceive error => port.queueReceiveFailure error

def port : Port Loopback LoopbackChannel Signal where
  arm := arm
  receive := receive
  disarm := disarm
  signal := fun s p => p.signal s

end Loopback
end FaultWatch
