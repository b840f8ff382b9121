import FaultWatch.Proofs.PortUse.Life

/-! One channel at a time. In every state that a port in use reaches, the port is armed for a mask
exactly when a channel with that mask is armed, and no two channels are; it has counted a release
for each arm but the one that stands (`soundRun`). A spent channel is never armed again, and each
channel is released once (`releasedOnce`). -/
namespace FaultWatch.PortUse

structure Exclusive (s : PortUse) : Prop where
  armed : ∀ mask, s.port.armed = some mask ↔ ∃ place, s.life place = .armed mask
  one : ∀ place other mask mask', s.life place = .armed mask → s.life other = .armed mask' →
    place = other
  counts : s.port.arms = s.port.disarms + if s.port.armed.isSome then 1 else 0
  queued : s.port.Queued

variable {s next : PortUse} {action : Action} {actions : List Action} {place : Place} {mask : Mask}

theorem Exclusive.unarmed (exclusive : Exclusive s) (idle : s.port.armed = none) :
    s.life place ≠ .armed mask := by
  intro armed
  have there := (exclusive.armed mask).mpr ⟨place, armed⟩
  rw [idle] at there
  contradiction

theorem exclusiveShift (exclusive : Exclusive s) (shift : Shift s action next)
    (queued : next.port.Queued) : Exclusive next := by
  cases shift with
  | stays lives account =>
    refine ⟨?_, ?_, ?_, queued⟩
    · simpa only [account.armed, lives] using exclusive.armed
    · simpa only [lives] using exclusive.one
    · rw [account.arms, account.disarms, account.armed, exclusive.counts]
  | @makes place mask fresh lives unarmed port =>
    have new : ∀ other mask', next.life other = .armed mask' → other = place ∧ mask' = mask := by
      intro other mask' armed
      rw [lives] at armed
      split at armed
      · next same => exact ⟨same, (Life.armed.inj armed).symm⟩
      · exact absurd armed (exclusive.unarmed unarmed)
    refine ⟨fun mask' => ⟨?_, ?_⟩, ?_, ?_, queued⟩
    · intro same
      rw [port] at same
      cases same
      exact ⟨place, by rw [lives, if_pos rfl]⟩
    · rintro ⟨other, armed⟩
      rw [(new other mask' armed).2, port]
    · intro left right mask' mask'' atLeft atRight
      exact (new left mask' atLeft).1.trans (new right mask'' atRight).1.symm
    · have counts := exclusive.counts
      simp only [unarmed, Option.isSome_none] at counts
      simp [port, counts]
  | @spends place mask here calls lives port =>
    have none : ∀ other mask', next.life other ≠ .armed mask' := by
      intro other mask' armed
      rw [lives] at armed
      split at armed
      · contradiction
      · next different => exact different (exclusive.one other place mask' mask armed here)
    refine ⟨fun mask' => ⟨?_, ?_⟩, ?_, ?_, queued⟩
    · intro same
      rw [port] at same
      contradiction
    · rintro ⟨other, armed⟩
      exact absurd armed (none other mask')
    · intro left right mask' mask'' atLeft
      exact absurd atLeft (none left mask')
    · have armed := (exclusive.armed mask).mpr ⟨place, here⟩
      have counts := exclusive.counts
      rw [armed] at counts
      simpa [port] using counts

structure Sound (s : PortUse) : Prop where
  settled : s.Settled
  exclusive : Exclusive s

theorem stepShift (sound : Sound s) (action : Action) : Shift s action (s.step action).2.2 :=
  moveShift sound.settled (stepMove s action)

theorem soundStep (sound : Sound s) (action : Action) : Sound (s.step action).2.2 where
  settled := settledMove sound.settled (stepMove s action)
  exclusive :=
    exclusiveShift sound.exclusive (stepShift sound action)
      (queuedStep sound.exclusive.queued action)

theorem soundRun (sound : Sound s) (actions : List Action) : Sound (s.run actions) :=
  runKeeps sound fun _ action _ sound => soundStep sound action

theorem unmadeStart {flags : Safeguards} (place : Place) : (start flags).life place = .unmade := by
  cases place <;> rfl

theorem soundStart (flags : Safeguards) : Sound (start flags) where
  settled := by simp [Settled, start, watch?]
  exclusive := by
    refine ⟨fun mask => ⟨?_, ?_⟩, ?_, rfl, queuedStart flags⟩
    · intro armed
      contradiction
    · rintro ⟨place, armed⟩
      rw [unmadeStart] at armed
      contradiction
    · intro place other mask mask' armed
      rw [unmadeStart] at armed
      contradiction

theorem spentShift (spent : s.life place = .spent) (shift : Shift s action next) :
    next.life place = .spent := by
  cases shift with
  | stays lives => rw [lives, spent]
  | makes fresh lives =>
    rw [lives, if_neg, spent]
    rintro rfl
    rw [spent] at fresh
    contradiction
  | spends here calls lives =>
    rw [lives, spent]
    split <;> rfl

theorem spentRun (sound : Sound s) (spent : s.life place = .spent) (actions : List Action) :
    (s.run actions).life place = .spent := by
  have both : Sound (s.run actions) ∧ (s.run actions).life place = .spent := by
    refine runKeeps (P := fun s => Sound s ∧ s.life place = .spent) ⟨sound, spent⟩ ?_
    rintro s action - ⟨sound, spent⟩
    exact ⟨soundStep sound action, spentShift spent (stepShift sound action)⟩
  exact both.2

-- Only what the port counts during calls on the place itself is put down to it.
def releasesBy (place : Place) (s : PortUse) : List Action → Nat
  | [] => 0
  | action :: rest =>
    let next := (s.step action).2.2
    (if action.on? = some place then next.port.disarms - s.port.disarms else 0) +
      releasesBy place next rest

def Life.due : Life → Nat
  | .unmade | .armed _ => 1
  | .spent => 0

theorem releasedShift (place : Place) (shift : Shift s action next) :
    (if action.on? = some place then next.port.disarms - s.port.disarms else 0) +
      (next.life place).due = (s.life place).due := by
  cases shift with
  | stays lives account => simp [lives, account.disarms]
  | @makes new mask fresh lives unarmed port =>
    have growth : next.port.disarms - s.port.disarms = 0 := by simp [port]
    rw [growth, ite_self, Nat.zero_add, lives]
    by_cases same : place = new
    · rw [if_pos same, same, fresh]
      rfl
    · rw [if_neg same]
  | @spends old mask here calls lives port =>
    rw [lives, calls]
    by_cases same : place = old
    · simp [same, here, port, Life.due]
    · rw [if_neg same, if_neg fun other => same (Option.some.inj other).symm, Nat.zero_add]

theorem releasedOnce (sound : Sound s) (place : Place) (actions : List Action) :
    releasesBy place s actions + ((s.run actions).life place).due = (s.life place).due := by
  induction actions generalizing s with
  | nil => exact Nat.zero_add _
  | cons action rest ih =>
    have first := releasedShift place (stepShift sound action)
    have others := ih (soundStep sound action)
    rw [← first, ← others, ← Nat.add_assoc]
    rfl

end FaultWatch.PortUse
