import FaultWatch.Catch.SafeguardStore
import FaultWatch.Log

/-! A watch owns an armed channel and one hold on the flag store. It takes the hold before it arms,
gives it back if arming fails, and asks the channel to be released at most once, also when that
release fails. -/
namespace FaultWatch

structure Watch (χ : Type) where
  channel : χ
  released : Bool
  saved : Safeguards
  deriving DecidableEq, Repr

namespace Watch

variable {σ χ ι : Type}

def arm (port : Port σ χ ι) (mask : Mask) (flags : Safeguards) (s : σ) (store : SafeguardStore) :
    Except ChannelFailure (Watch χ) × σ × SafeguardStore :=
  match port.arm mask s with
  | (.ok channel, s) => (.ok ⟨channel, false, store.kept⟩, s, store.enter flags)
  | (.error error, s) => (.error error, s, (store.enter flags).leave)

def disarm (port : Port σ χ ι) (watch : Watch χ) (s : σ) :
    Except ChannelFailure Unit × Watch χ × σ :=
  if watch.released then (.ok (), watch, s)
  else
    match port.disarm watch.channel s with
    | (result, channel, s) => (result, { watch with channel := channel, released := true }, s)

def disarmLog (watch : Watch χ) : List LogRecord :=
  if watch.released then [] else [.disarming]

def dropLog : Except ChannelFailure Unit → List LogRecord
  | .ok _ => []
  | .error error => [.releaseFailed error]

end Watch
end FaultWatch
