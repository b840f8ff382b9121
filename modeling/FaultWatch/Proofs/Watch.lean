import FaultWatch.Catch.Watch
import FaultWatch.Proofs.SafeguardStore

/-! What opening and releasing a watch do to its port and to the flag store: each passes on one call
of the port, or none when the watch was released before. -/
namespace FaultWatch.Watch

variable {σ χ ι : Type} {port : Port σ χ ι} {mask : Mask} {flags : Safeguards} {s : σ}
  {store : SafeguardStore}

theorem armPort : (arm port mask flags s store).2.1 = (port.arm mask s).2 := by
  unfold arm
  split <;> simp [*]

theorem armRefused {error : ChannelFailure} (refused : (port.arm mask s).1 = .error error) :
    arm port mask flags s store =
      (.error error, (port.arm mask s).2, (store.enter flags).leave) := by
  unfold arm
  split
  · next answer => simp [answer] at refused
  · next answer =>
    rw [answer] at refused ⊢
    cases refused
    rfl

theorem disarmPort {watch : Watch χ} : (watch.disarm port s).2.2 =
    if watch.released then s else (port.disarm watch.channel s).2.2 := by
  unfold disarm
  split <;> rfl

end FaultWatch.Watch
