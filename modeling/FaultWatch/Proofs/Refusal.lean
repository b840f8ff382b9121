import FaultWatch.Catch.PortUse
import FaultWatch.Catch.Race
import FaultWatch.Proofs.Watch

/-! What is left of a watch, or of a whole catch call, whose arm is refused. It gives back the
port's error, and the count of holders and the flags that the last of them brings back are as
before. The current flags are as before only where nobody was inside, or where the requested ones
were current already; else whoever is inside goes on with the requested ones. -/
namespace FaultWatch

variable {σ χ ι α ε π : Type} {port : Port σ χ ι} {mask : Mask} {flags : Safeguards} {s : σ}
  {store : SafeguardStore} {error : ChannelFailure}

theorem refusedCall (refused : (port.arm mask s).1 = .error error) (decoder : Decoder) :
    Race.run port ⟨mask, flags, decoder⟩ (Race.start s store) [.caller, .caller, .caller] =
      some (⟨(port.arm mask s).2, (store.enter flags).leave, none, .undecided, false,
        .returned (.error (.registration error)), .absent, .absent, []⟩ :
          Race.State σ χ α ε π) := by
  cases answer : port.arm mask s with
  | mk result after =>
    rw [answer] at refused
    cases refused
    simp [Race.run, Race.step, Race.callerStep, Race.start, answer]

theorem refusedArmFlags (refused : (port.arm mask s).1 = .error error) :
    ∃ after, Watch.arm port mask flags s store = (.error error, (port.arm mask s).2, after) ∧
      after.holders = store.holders ∧ after.kept = store.kept ∧
      after.current = (if store.holders = 0 then store.current else flags) ∧
      (after.current = store.current ↔ store.holders = 0 ∨ flags = store.current) ∧
      ∀ decoder, ∃ called : Race.State σ χ α ε π,
        Race.run port ⟨mask, flags, decoder⟩ (Race.start s store) [.caller, .caller, .caller] =
          some called ∧
        called.ending? = some (.error (.registration error)) ∧ called.flags = after := by
  refine ⟨(store.enter flags).leave, Watch.armRefused refused, by simp, by simp,
    SafeguardStore.currentEnterLeave, ?_, fun decoder => ⟨_, refusedCall refused decoder, rfl, rfl⟩⟩
  rw [SafeguardStore.currentEnterLeave]
  split
  · next free => simp [free]
  · next held => simp [held]

def oneWatch : PortUse := (PortUse.start .strict).run [.openWatch .hardware .relaxed]

theorem refusedArmLikeRunning :
    ∃ after, (Watch.arm Loopback.port .hardware .relaxed oneWatch.port oneWatch.flags).2.2 = after ∧
      after.holders = 1 ∧ after.current = .relaxed := by
  obtain ⟨after, armed, holders, _, _, kept, _⟩ :=
    @refusedArmFlags Loopback LoopbackChannel Loopback.Signal Nat Unit Unit Loopback.port .hardware
      .relaxed oneWatch.port oneWatch.flags (.rejected "a loopback channel is already armed") rfl
  exact ⟨after, by rw [armed], holders.trans rfl, kept.mpr (.inr rfl)⟩

theorem refusedArmTightensRunning :
    (Watch.arm Loopback.port .hardware .strict oneWatch.port oneWatch.flags).1 =
        .error (.rejected "a loopback channel is already armed") ∧
      oneWatch.flags.holders = 1 ∧ oneWatch.flags.current = .relaxed ∧
      (Watch.arm Loopback.port .hardware .strict oneWatch.port oneWatch.flags).2.2.current =
        .strict :=
  ⟨rfl, rfl, rfl, rfl⟩

end FaultWatch
