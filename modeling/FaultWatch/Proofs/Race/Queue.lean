import FaultWatch.Proofs.Race.Service
import FaultWatch.Proofs.Loopback

/-! A race on a loopback port. While its channel is open, what was raised and accepted is what was
received followed by what still waits, in order, and all of it is in the mask; scripted failures are
used up in order as well. -/
namespace FaultWatch.Race

variable {α ε π : Type}

def Verdict.fault? : Verdict α ε π → Option Fault
  | .fault raw => some raw
  | _ => none

def Verdict.failure? : Verdict α ε π → Option ChannelFailure
  | .listenerFailed error => some error
  | _ => none

abbrev LoopbackDeed (α ε π : Type) := Deed Loopback LoopbackChannel Loopback.Signal α ε π

def Deed.accepted? : LoopbackDeed α ε π → Option Fault
  | signal (.raise raw) met => if met.accepts raw then some raw else none
  | _ => none

def Deed.scripted? : LoopbackDeed α ε π → Option ChannelFailure
  | signal (.failReceive error) _ => some error
  | _ => none

def accepted (deeds : List (LoopbackDeed α ε π)) : List Fault := deeds.filterMap Deed.accepted?

def scripted (deeds : List (LoopbackDeed α ε π)) : List ChannelFailure :=
  deeds.filterMap Deed.scripted?

def Deed.received? (d : LoopbackDeed α ε π) : Option Fault := d.heard?.bind Verdict.fault?

def Deed.failure? (d : LoopbackDeed α ε π) : Option ChannelFailure := d.heard?.bind Verdict.failure?

variable {setup : Setup} {mask : Mask} {s next first : State Loopback LoopbackChannel α ε π}
  {event : Event Loopback.Signal α ε π} {d : LoopbackDeed α ε π}
  {deeds : List (LoopbackDeed α ε π)} {p q : Loopback} {store : SafeguardStore}

structure Open (mask : Mask) (s : State Loopback LoopbackChannel α ε π) : Prop where
  channel : s.channel = some ⟨mask, true⟩
  armed : s.port.armed = some mask
  queued : s.port.Queued

structure Passed (d : LoopbackDeed α ε π) (before after : Loopback) : Prop where
  faults : before.pending ++ d.accepted?.toList = d.received?.toList ++ after.pending
  failures : before.receiveFailures ++ d.scripted?.toList =
    d.failure?.toList ++ after.receiveFailures

theorem receivePassed {port next : Loopback} {after : LoopbackChannel}
    {answer : Except ReceiveFailure Fault} (armed : port.armed = some mask) (queued : port.Queued)
    (heard : port.receive ⟨mask, true⟩ = (answer, after, next)) :
    after = ⟨mask, true⟩ ∧ next.armed = some mask ∧ next.Queued ∧
      Passed (.receive answer after : LoopbackDeed α ε π) port next := by
  have stillQueued := Loopback.queuedReceive queued ⟨mask, true⟩
  rw [heard] at stillQueued
  rw [Loopback.receiveArmed armed queued] at heard
  split at heard
  · next failures =>
    cases heard
    refine ⟨rfl, armed, stillQueued, ?_, ?_⟩
    · simp [Deed.accepted?, Deed.received?, Deed.heard?, verdictOf, Verdict.fault?]
    · simp [Deed.scripted?, Deed.failure?, Deed.heard?, verdictOf, Verdict.failure?, failures]
  · next failures waiting =>
    cases heard
    refine ⟨rfl, armed, stillQueued, ?_, ?_⟩
    · simp [Deed.accepted?, Deed.received?, Deed.heard?, verdictOf, Verdict.fault?, waiting]
    · simp [Deed.scripted?, Deed.failure?, Deed.heard?, verdictOf, Verdict.failure?]
  · cases heard
    refine ⟨rfl, armed, stillQueued, ?_, ?_⟩
    · simp [Deed.accepted?, Deed.received?, Deed.heard?, verdictOf]
    · simp [Deed.scripted?, Deed.failure?, Deed.heard?, verdictOf]

theorem signalPassed {port : Loopback} (signal : Loopback.Signal) :
    Passed (.signal signal port : LoopbackDeed α ε π) port (port.signal signal) := by
  cases signal with
  | raise raw =>
    by_cases took : port.accepts raw = true <;> constructor <;>
      simp [Loopback.signal, Loopback.raise, took, Deed.accepted?, Deed.received?, Deed.heard?,
        Deed.scripted?, Deed.failure?]
  | failArm error =>
    constructor <;>
      simp [Loopback.signal, Loopback.queueArmFailure, Deed.accepted?, Deed.received?, Deed.heard?,
        Deed.scripted?, Deed.failure?]
  | failReceive error =>
    constructor <;>
      simp [Loopback.signal, Loopback.queueReceiveFailure, Deed.accepted?, Deed.received?,
        Deed.heard?, Deed.scripted?, Deed.failure?]

theorem openMove (opened : Open mask s) (made : Move Loopback.port setup s event d next)
    (uncut : d.isArm = false ∧ d.isDisarm = false) :
    Open mask next ∧ Passed d s.port next.port := by
  obtain ⟨channel, armed, queued⟩ := opened
  cases made with
  | arm | armFailed => simp [Deed.isArm] at uncut
  | disarm => simp [Deed.isDisarm] at uncut
  | hear here held answer | timeOut here held answer | breakDown here held answer =>
    cases channel.symm.trans held
    obtain ⟨rfl, stillArmed, stillQueued, passed⟩ := receivePassed armed queued answer
    exact ⟨⟨rfl, stillArmed, stillQueued⟩, passed⟩
  | @signal signal =>
    exact ⟨⟨channel, Loopback.armedSignal.trans armed, Loopback.queuedSignal queued signal⟩,
      signalPassed signal⟩
  | _ =>
    refine ⟨⟨channel, armed, queued⟩, ?_, ?_⟩ <;>
      simp [Deed.accepted?, Deed.received?, Deed.heard?, Deed.scripted?, Deed.failure?, State.offer]

theorem acceptedInMask (opened : Open mask s) (made : Move Loopback.port setup s event d next)
    {raw : Fault} (taken : d.accepted? = some raw) : mask.includes raw.category = true := by
  cases made with
  | @signal signal =>
    cases signal with
    | raise other =>
      simp only [Deed.accepted?, Option.ite_none_right_eq_some, Option.some.injEq] at taken
      obtain ⟨took, rfl⟩ := taken
      rwa [Loopback.acceptsArmed opened.armed] at took
    | failArm | failReceive => simp [Deed.accepted?] at taken
  | _ => simp [Deed.accepted?] at taken

theorem openWindow (reached : Reached Loopback.port setup first s deeds) (opened : Open mask first)
    (uncut : ∀ d ∈ deeds, d.isArm = false ∧ d.isDisarm = false) :
    Open mask s ∧
      first.port.pending ++ accepted deeds = deeds.filterMap Deed.received? ++ s.port.pending ∧
      first.port.receiveFailures ++ scripted deeds =
        deeds.filterMap Deed.failure? ++ s.port.receiveFailures ∧
      ∀ raw ∈ accepted deeds, mask.includes raw.category = true := by
  induction reached with
  | start => exact ⟨opened, by simp [accepted], by simp [scripted], by simp [accepted]⟩
  | @move s next event d deeds before made ih =>
    obtain ⟨middle, faults, failures, inMask⟩ := ih fun d member =>
      uncut d (List.mem_append_left _ member)
    obtain ⟨still, passed⟩ := openMove middle made (uncut d (by simp))
    refine ⟨still, ?_, ?_, ?_⟩
    · rw [accepted, filterMapSnoc, filterMapSnoc, ← accepted, ← List.append_assoc, faults,
        List.append_assoc, passed.faults, List.append_assoc]
    · rw [scripted, filterMapSnoc, filterMapSnoc, ← scripted, ← List.append_assoc, failures,
        List.append_assoc, passed.failures, List.append_assoc]
    · intro raw member
      rw [accepted, filterMapSnoc] at member
      rcases List.mem_append.mp member with old | new
      · exact inMask raw old
      · exact acceptedInMask middle made (Option.mem_toList.mp new)

theorem touchQueued (touch : Touch Loopback.port mask d p q) (queued : p.Queued) : q.Queued := by
  cases touch with
  | arm => exact Loopback.queuedArm queued mask
  | receive => exact Loopback.queuedReceive queued _
  | disarm => exact Loopback.queuedDisarm queued _
  | signal => exact Loopback.queuedSignal queued _
  | apart => exact queued

theorem queuedReached (reached : Reached Loopback.port setup first s deeds)
    (queued : first.port.Queued) : s.port.Queued := by
  induction reached with
  | start => exact queued
  | move before made ih => exact touchQueued (moveTouch made) ih

theorem touchArmed (touch : Touch Loopback.port mask d p q)
    (uncut : d.isArm = false ∧ d.isDisarm = false) : q.armed = p.armed := by
  cases touch with
  | arm => exact absurd uncut.1 (by simp [Deed.isArm])
  | disarm => exact absurd uncut.2 (by simp [Deed.isDisarm])
  | receive => exact Loopback.armedReceive
  | signal => exact Loopback.armedSignal
  | apart => rfl

theorem armedKept (reached : Reached Loopback.port setup first s deeds)
    (uncut : ∀ d ∈ deeds, d.isArm = false ∧ d.isDisarm = false) :
    s.port.armed = first.port.armed := by
  induction reached with
  | start => rfl
  | move before made ih =>
    have earlier := ih fun d member => uncut d (List.mem_append_left _ member)
    exact (touchArmed (moveTouch made) (uncut _ (by simp))).trans earlier

theorem unarmedAcceptsNothing (reached : Reached Loopback.port setup first s deeds)
    (unarmed : first.port.armed = none)
    (uncut : ∀ d ∈ deeds, d.isArm = false ∧ d.isDisarm = false) : accepted deeds = [] := by
  induction reached with
  | start => rfl
  | @move s next event d deeds before made ih =>
    have uncutBefore : ∀ d ∈ deeds, d.isArm = false ∧ d.isDisarm = false :=
      fun d member => uncut d (List.mem_append_left _ member)
    have still := (armedKept before uncutBefore).trans unarmed
    rw [accepted, filterMapSnoc, ← accepted, ih uncutBefore]
    cases made with
    | @signal signal =>
      cases signal with
      | raise raw => simp [Deed.accepted?, Loopback.acceptsUnarmed still]
      | failArm | failReceive => rfl
    | _ => rfl

theorem touchFailures (touch : Touch Loopback.port mask d p q) (quiet : d.isListener = false) :
    q.receiveFailures = p.receiveFailures ++ d.scripted?.toList := by
  cases touch with
  | arm => exact Loopback.failuresArm.trans (List.append_nil _).symm
  | disarm => exact Loopback.failuresDisarm.trans (List.append_nil _).symm
  | receive => contradiction
  | signal signal =>
    have passed : Passed (.signal signal p : LoopbackDeed α ε π) p (p.signal signal) :=
      signalPassed signal
    exact passed.failures.symm
  | apart off =>
    cases d with
    | signal => contradiction
    | _ => simp [Deed.scripted?]

theorem failuresKept (reached : Reached Loopback.port setup first s deeds)
    (silent : ∀ d ∈ deeds, d.isListener = false) :
    s.port.receiveFailures = first.port.receiveFailures ++ scripted deeds := by
  induction reached with
  | start => simp [scripted]
  | move before made ih =>
    have earlier := ih fun d member => silent d (List.mem_append_left _ member)
    rw [scripted, filterMapSnoc, ← scripted, ← List.append_assoc, ← earlier]
    exact touchFailures (moveTouch made) (silent _ (by simp))

theorem heardSilent {part : List (LoopbackDeed α ε π)} (silent : ∀ d ∈ part, d.isListener = false) :
    heard part = [] :=
  List.filterMap_eq_nil_iff.mpr fun d member => Deed.hearersListen (silent d member)

structure Fed (deeds before during : List (LoopbackDeed α ε π)) (mask : Mask)
    (first last : Loopback) : Prop where
  opens : first.armed = none
  closes : last.armed = none
  inside : heard deeds = heard during ∧ accepted deeds = accepted during
  faults : ∃ unread, accepted during = (heard during).filterMap Verdict.fault? ++ unread
  failures : ∃ unused, first.receiveFailures ++ scripted (before ++ during) =
    (heard during).filterMap Verdict.failure? ++ unused
  inMask : ∀ raw ∈ accepted during, mask.includes raw.category = true

theorem windowFed {before during after : List (LoopbackDeed α ε π)} {opened last : LoopbackChannel}
    {answer : Except ChannelFailure Unit}
    (reached : Reached Loopback.port setup (start p store) s deeds) (queued : p.Queued)
    (window : Window deeds before during after opened last answer) :
    Fed deeds before during setup.mask p s.port := by
  obtain ⟨there, opening, closing, released, service⟩ := windowService reached window
  obtain ⟨rfl, once, silentBefore, silentAfter, _⟩ := window
  have uncutBefore : ∀ d ∈ before, d.isArm = false ∧ d.isDisarm = false :=
    fun d member => once d (by simp [member])
  have uncutDuring : ∀ d ∈ during, d.isArm = false ∧ d.isDisarm = false :=
    fun d member => once d (by simp [member])
  have uncutAfter : ∀ d ∈ after, d.isArm = false ∧ d.isDisarm = false :=
    fun d member => once d (by simp [member])
  -- An arm that succeeds met an unarmed port, so nothing waits when the window opens.
  obtain ⟨armed, channel⟩ := service.armed
  obtain ⟨free, rfl, arms⟩ := Loopback.armOk armed
  have unarmed : p.armed = none := (armedKept service.earlier uncutBefore).symm.trans free
  have empty := Loopback.queuedUnarmed (queuedReached service.earlier queued) free
  have nothing : opening.port.pending = [] := by rw [arms, empty]
  have failures : opening.port.receiveFailures = p.receiveFailures ++ scripted before := by
    rw [arms]
    exact failuresKept service.earlier silentBefore
  have opens : Open setup.mask opening :=
    ⟨channel, by rw [arms], fun raw waiting => by simp [nothing] at waiting⟩
  obtain ⟨closes, heardFaults, heardFailures, inMask⟩ :=
    openWindow service.meanwhile opens uncutDuring
  have closed : released.port.armed = none := by
    obtain ⟨held, left, done, _⟩ := service.released
    cases closes.channel.symm.trans held
    exact (congrArg (·.2.2.armed) done).symm
  rw [nothing, List.nil_append] at heardFaults
  rw [failures, List.append_assoc] at heardFailures
  refine ⟨unarmed, (armedKept service.later uncutAfter).trans closed, ⟨?_, ?_⟩, ⟨closing.port.pending, ?_⟩,
    ⟨closing.port.receiveFailures, ?_⟩, inMask⟩
  · rw [heard, List.filterMap_append, List.filterMap_cons_none rfl, List.filterMap_append,
      List.filterMap_cons_none rfl, ← heard, ← heard, ← heard, heardSilent silentBefore,
      heardSilent silentAfter, List.nil_append, List.append_nil]
  · rw [accepted, List.filterMap_append, List.filterMap_cons_none rfl, List.filterMap_append,
      List.filterMap_cons_none rfl, ← accepted, ← accepted, ← accepted,
      unarmedAcceptsNothing service.earlier unarmed uncutBefore,
      unarmedAcceptsNothing service.later closed uncutAfter, List.nil_append, List.append_nil]
  · rw [heardFaults, heard, List.filterMap_filterMap]
    rfl
  · rw [scripted, List.filterMap_append, ← scripted, ← scripted, heardFailures, heard,
      List.filterMap_filterMap]
    rfl

end FaultWatch.Race
