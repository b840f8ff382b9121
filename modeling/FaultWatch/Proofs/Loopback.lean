import FaultWatch.Catch.PortUse
import FaultWatch.Proofs.Watch

/-! The queue of a loopback port. Whatever waits in it would be accepted again, in every state that
any use of the port reaches: nothing waits on an unarmed port, and what waits on an armed one is in
its mask. So a receive on the armed channel gives the oldest. -/
namespace FaultWatch.Loopback

variable {port next : Loopback} {mask : Mask} {channel : LoopbackChannel} {raw : Fault}

def Queued (port : Loopback) : Prop := ∀ raw ∈ port.pending, port.accepts raw = true

theorem acceptsArmed (armed : port.armed = some mask) :
    port.accepts raw = mask.includes raw.category := by
  simp [accepts, armed]

theorem acceptsUnarmed (unarmed : port.armed = none) : port.accepts raw = false := by
  simp [accepts, unarmed]

theorem queuedUnarmed (queued : port.Queued) (unarmed : port.armed = none) : port.pending = [] := by
  rw [List.eq_nil_iff_forall_not_mem]
  intro raw waiting
  have accepted := queued raw waiting
  rw [acceptsUnarmed unarmed] at accepted
  contradiction

theorem takeFaultSub {pending rest : List Fault}
    (took : takeFault mask pending = some (raw, rest)) : ∀ other ∈ rest, other ∈ pending := by
  induction pending generalizing rest with
  | nil => simp [takeFault] at took
  | cons head tail ih =>
    rw [takeFault] at took
    split at took
    · cases took
      exact fun other member => List.mem_cons_of_mem _ member
    · obtain ⟨⟨found, left⟩, inner, same⟩ := Option.map_eq_some_iff.mp took
      cases same
      intro other member
      rcases List.mem_cons.mp member with rfl | member
      · exact List.mem_cons_self
      · exact List.mem_cons_of_mem _ (ih inner other member)

theorem takeFaultOldest {pending : List Fault}
    (all : ∀ raw ∈ pending, mask.includes raw.category = true) :
    takeFault mask pending = pending.head?.map fun raw => (raw, pending.tail) := by
  cases pending with
  | nil => rfl
  | cons raw rest => simp [takeFault, all raw]

theorem armOk (ok : port.arm mask = (.ok channel, next)) :
    port.armed = none ∧ channel = ⟨mask, true⟩ ∧
      next = { port with armed := some mask, arms := port.arms + 1 } := by
  unfold arm at ok
  split at ok
  · cases ok
  · cases ok
  · next unarmed =>
    cases ok
    exact ⟨unarmed, rfl, rfl⟩

theorem armFree (unscripted : port.armFailures = []) (unarmed : port.armed = none) :
    port.arm mask = (.ok ⟨mask, true⟩,
      { port with armed := some mask, arms := port.arms + 1 }) := by
  simp [arm, unscripted, unarmed]

theorem armRefused {error : ChannelFailure} (refused : port.arm mask = (.error error, next)) :
    (∃ rest, port.armFailures = error :: rest ∧ next = { port with armFailures := rest }) ∨
      (port.armFailures = [] ∧ port.armed.isSome = true ∧
        error = .rejected "a loopback channel is already armed" ∧ next = port) := by
  unfold arm at refused
  split at refused
  · next rest scripted =>
    cases refused
    exact .inl ⟨rest, scripted, rfl⟩
  · next unscripted armed =>
    cases refused
    exact .inr ⟨unscripted, by simp [armed], rfl, rfl⟩
  · cases refused

theorem receiveSpent (spent : channel.live = false) :
    port.receive channel = (.error (.failed (.receive "channel is disarmed")), channel, port) := by
  simp [receive, spent]

theorem disarmSpent (spent : channel.live = false) :
    port.disarm channel = (.ok (), channel, port) := by
  simp [disarm, spent]

theorem disarmLive (live : channel.live = true) :
    port.disarm channel = (.ok (), { channel with live := false },
      { port with armed := none, disarms := port.disarms + 1, pending := [] }) := by
  simp [disarm, live]

theorem disarmOk : (port.disarm channel).1 = .ok () := by
  unfold disarm
  split <;> rfl

theorem disarmSpends : (port.disarm channel).2.1.live = false := by
  unfold disarm
  split
  · rfl
  · next spent => simpa using spent

@[simp] theorem armsDisarm : (port.disarm channel).2.2.arms = port.arms := by
  unfold disarm
  split <;> rfl

@[simp] theorem receiveChannel : (port.receive channel).2.1 = channel := by
  unfold receive
  split
  · dsimp only
    split
    · rfl
    · split <;> rfl
  · rfl

@[simp] theorem armedReceive : (port.receive channel).2.2.armed = port.armed := by
  unfold receive
  split
  · dsimp only
    split
    · rfl
    · split <;> rfl
  · rfl

@[simp] theorem armedSignal {signal : Signal} : (port.signal signal).armed = port.armed := by
  cases signal with
  | raise raw =>
    rw [Loopback.signal, raise]
    split <;> rfl
  | failArm | failReceive => rfl

@[simp] theorem failuresArm : (port.arm mask).2.receiveFailures = port.receiveFailures := by
  unfold arm
  split <;> rfl

@[simp] theorem failuresDisarm :
    (port.disarm channel).2.2.receiveFailures = port.receiveFailures := by
  unfold disarm
  split <;> rfl

theorem receiveArmed (armed : port.armed = some mask) (queued : port.Queued) :
    port.receive ⟨mask, true⟩ =
      match port.receiveFailures, port.pending with
      | error :: rest, _ =>
        (.error (.failed error), ⟨mask, true⟩,
          { port with receives := port.receives + 1, receiveFailures := rest })
      | [], raw :: rest =>
        (.ok raw, ⟨mask, true⟩, { port with receives := port.receives + 1, pending := rest })
      | [], [] =>
        (.error .timedOut, ⟨mask, true⟩, { port with receives := port.receives + 1 }) := by
  have inMask : ∀ raw ∈ port.pending, mask.includes raw.category = true :=
    fun raw waiting => acceptsArmed armed ▸ queued raw waiting
  simp only [receive, if_true]
  cases failures : port.receiveFailures with
  | cons error rest => rfl
  | nil =>
    rw [takeFaultOldest inMask]
    cases waiting : port.pending with
    | nil => simp
    | cons raw rest => simp

theorem queuedArm (queued : port.Queued) (mask : Mask) : (port.arm mask).2.Queued := by
  unfold arm
  split
  · exact queued
  · exact queued
  · next unarmed =>
    intro raw waiting
    rw [show port.pending = [] from queuedUnarmed queued unarmed] at waiting
    contradiction

theorem queuedReceive (queued : port.Queued) (channel : LoopbackChannel) :
    (port.receive channel).2.2.Queued := by
  unfold receive
  split
  · dsimp only
    split
    · exact queued
    · split
      · next took => exact fun raw waiting => queued raw (takeFaultSub took raw waiting)
      · exact queued
  · exact queued

theorem queuedDisarm (queued : port.Queued) (channel : LoopbackChannel) :
    (port.disarm channel).2.2.Queued := by
  unfold disarm
  split
  · exact fun raw waiting => by contradiction
  · exact queued

theorem queuedSignal (queued : port.Queued) (signal : Signal) : (port.signal signal).Queued := by
  cases signal with
  | raise raw =>
    rw [Loopback.signal, raise]
    split
    · next accepted =>
      intro other waiting
      rcases List.mem_append.mp waiting with old | new
      · exact queued other old
      · cases List.mem_singleton.mp new
        exact accepted
    · exact queued
  | failArm | failReceive => exact queued

end Loopback

namespace PortUse

theorem queuedStep {s : PortUse} (queued : s.port.Queued) (action : Action) :
    (s.step action).2.2.port.Queued := by
  have released : ∀ watch : Watch LoopbackChannel,
      (watch.disarm Loopback.port s.port).2.2.Queued := by
    intro watch
    rw [Watch.disarmPort]
    split
    · exact queued
    · exact Loopback.queuedDisarm queued watch.channel
  cases action with
  | arm mask =>
    have after := Loopback.queuedArm queued mask
    simp only [step]
    split <;> simpa only [*] using after
  | openWatch mask flags =>
    have after : (Watch.arm Loopback.port mask flags s.port s.flags).2.1.Queued := by
      rw [Watch.armPort]
      exact Loopback.queuedArm queued mask
    simp only [step]
    split <;> simpa only [*] using after
  | signal signal =>
    have after := Loopback.queuedSignal queued signal
    cases signal <;> exact after
  | receive | watchReceive =>
    simp only [step]
    split
    · exact Loopback.queuedReceive queued _
    · exact queued
  | disarm | watchChannelDisarm =>
    simp only [step]
    split
    · exact Loopback.queuedDisarm queued _
    · exact queued
  | dropWatch | watchDisarm =>
    simp only [step]
    split
    · exact released _
    · exact queued
  | mask | watchSaved =>
    simp only [step]
    split <;> exact queued

theorem runKeeps {P : PortUse → Prop} {s : PortUse} {actions : List Action}
    (now : P s) (each : ∀ s, ∀ action ∈ actions, P s → P (s.step action).2.2) :
    P (s.run actions) := by
  induction actions generalizing s with
  | nil => exact now
  | cons action rest ih =>
    have next : P (s.step action).2.2 := each s action List.mem_cons_self now
    exact ih next fun s action member => each s action (List.mem_cons_of_mem _ member)

theorem queuedRun {s : PortUse} (queued : s.port.Queued) (actions : List Action) :
    (s.run actions).port.Queued :=
  runKeeps (P := fun s => s.port.Queued) queued fun _ action _ queued => queuedStep queued action

theorem queuedStart (flags : Safeguards) : (start flags).port.Queued :=
  fun raw waiting => by contradiction

def Reaches (port : Loopback) : Prop :=
  ∃ flags actions, ((start flags).run actions).port = port

theorem queuedReaches {port : Loopback} (used : Reaches port) : port.Queued := by
  obtain ⟨flags, actions, rfl⟩ := used
  exact queuedRun (queuedStart flags) actions

end PortUse
end FaultWatch
