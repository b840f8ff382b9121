import FaultWatch.Catch.Loopback
import FaultWatch.Catch.Watch

/-! Any use of one loopback port and one flag store: channels armed directly, watches, and injected
faults and failures, one call at a time in any order. Channels and watches are known by the order in
which they were made; a watch that was dropped keeps its number. A call gives its answer, the log it
leaves and the state after it. -/
namespace FaultWatch

structure PortUse where
  port : Loopback
  flags : SafeguardStore
  channels : List LoopbackChannel
  watches : List (Option (Watch LoopbackChannel))
  deriving DecidableEq, Repr

namespace PortUse

inductive Action
  | arm (mask : Mask)
  | mask (channel : Nat)
  | receive (channel : Nat)
  | disarm (channel : Nat)
  | signal (signal : Loopback.Signal)
  | openWatch (mask : Mask) (flags : Safeguards)
  | dropWatch (watch : Nat)
  | watchReceive (watch : Nat)
  | watchDisarm (watch : Nat)
  | watchChannelDisarm (watch : Nat)
  | watchSaved (watch : Nat)
  deriving DecidableEq, Repr

inductive Answer
  | done
  | accepted (accepted : Bool)
  | channel (index : Nat)
  | watch (index : Nat) (saved : Safeguards)
  | saved (flags : Safeguards)
  | mask (mask : Mask)
  | fault (raw : Fault)
  | timedOut
  | refused (error : ChannelFailure)
  | absent
  deriving DecidableEq, Repr

def start (flags : Safeguards) : PortUse := ⟨.fresh, .holding flags, [], []⟩

def watch? (s : PortUse) (index : Nat) : Option (Watch LoopbackChannel) :=
  s.watches[index]?.join

def received : Except ReceiveFailure Fault → Answer
  | .ok raw => .fault raw
  | .error .timedOut => .timedOut
  | .error (.failed error) => .refused error

def released : Except ChannelFailure Unit → Answer
  | .ok _ => .done
  | .error error => .refused error

def setWatch (s : PortUse) (index : Nat) (watch : Watch LoopbackChannel) : PortUse :=
  { s with watches := s.watches.set index (some watch) }

def step (s : PortUse) : Action → Answer × List LogRecord × PortUse
  | .arm mask =>
    match s.port.arm mask with
    | (.ok channel, port) =>
      (.channel s.channels.length, [], { s with port, channels := s.channels ++ [channel] })
    | (.error error, port) => (.refused error, [], { s with port })
  | .mask index =>
    match s.channels[index]? with
    | some channel => (.mask channel.mask, [], s)
    | none => (.absent, [], s)
  | .receive index =>
    match s.channels[index]? with
    | some channel =>
      let (result, channel, port) := s.port.receive channel
      (received result, [], { s with port, channels := s.channels.set index channel })
    | none => (.absent, [], s)
  | .disarm index =>
    match s.channels[index]? with
    | some channel =>
      let (result, channel, port) := s.port.disarm channel
      (released result, [], { s with port, channels := s.channels.set index channel })
    | none => (.absent, [], s)
  | .signal (.raise raw) =>
    (.accepted (s.port.accepts raw), s.port.raiseLog raw, { s with port := s.port.raise raw })
  | .signal signal => (.done, [], { s with port := s.port.signal signal })
  | .openWatch mask flags =>
    match Watch.arm Loopback.port mask flags s.port s.flags with
    | (.ok watch, port, store) =>
      (.watch s.watches.length watch.saved, [.armed mask],
        { s with port, flags := store, watches := s.watches ++ [some watch] })
    | (.error error, port, store) => (.refused error, [], { s with port, flags := store })
  | .dropWatch index =>
    match s.watch? index with
    | some watch =>
      let (result, _, port) := watch.disarm Loopback.port s.port
      (.accepted true, watch.disarmLog ++ Watch.dropLog result,
        { s with port, flags := s.flags.leave, watches := s.watches.set index none })
    | none => (.accepted false, [], s)
  | .watchReceive index =>
    match s.watch? index with
    | some watch =>
      let (result, channel, port) := s.port.receive watch.channel
      (received result, [], { s with port }.setWatch index { watch with channel })
    | none => (.absent, [], s)
  | .watchDisarm index =>
    match s.watch? index with
    | some watch =>
      let (result, after, port) := watch.disarm Loopback.port s.port
      (released result, watch.disarmLog, { s with port }.setWatch index after)
    | none => (.absent, [], s)
  | .watchChannelDisarm index =>
    match s.watch? index with
    | some watch =>
      let (result, channel, port) := s.port.disarm watch.channel
      (released result, [], { s with port }.setWatch index { watch with channel })
    | none => (.absent, [], s)
  | .watchSaved index =>
    match s.watch? index with
    | some watch => (.saved watch.saved, [], s)
    | none => (.absent, [], s)

def run (s : PortUse) (actions : List Action) : PortUse :=
  actions.foldl (fun s action => (s.step action).2.2) s

def finish (s : PortUse) : PortUse := s.run ((List.range s.watches.length).map .dropWatch)

end PortUse
end FaultWatch
