import FaultWatch.Proofs.PortUse.Exclusive

/-! What passes through the queue of a port. As long as no channel is released, what was waiting and
what was accepted since, in order, is what was delivered since and what waits now. An arming begins
with nothing waiting. The main statement is `deliveredInOrder`. -/
namespace FaultWatch.PortUse

def trace (s : PortUse) : List Action → List (Action × Answer)
  | [] => []
  | action :: rest => (action, (s.step action).1) :: trace (s.step action).2.2 rest

def accepted? : Action × Answer → Option Fault
  | (.signal (.raise raw), .accepted true) => some raw
  | _ => none

def delivered? : Action × Answer → Option Fault
  | (_, .fault raw) => some raw
  | _ => none

def accepted (past : List (Action × Answer)) : List Fault :=
  past.flatMap fun call => (accepted? call).toList

def delivered (past : List (Action × Answer)) : List Fault :=
  past.flatMap fun call => (delivered? call).toList

variable {s next : PortUse} {action : Action} {actions : List Action} {answer : Answer}
  {place : Place} {mask : Mask} {port : Loopback} {channel : LoopbackChannel} {raw : Fault}
  {error : ChannelFailure}

theorem receiveAcceptsNothing : accepted? (place.receive, answer) = none := by
  cases place <;> rfl

theorem idlePassesNothing (idle : answer.isIdle = true) :
    accepted? (action, answer) = none ∧ delivered? (action, answer) = none := by
  constructor
  · unfold accepted?
    split
    · next same =>
      cases same
      contradiction
    · rfl
  · unfold delivered?
    split
    · next same =>
      cases same
      contradiction
    · rfl

theorem armWaiting (answer : s.port.arm mask = (.ok channel, port)) :
    port.pending = s.port.pending := by
  obtain ⟨_, _, rfl⟩ := Loopback.armOk answer
  rfl

theorem refusedWaiting (answer : s.port.arm mask = (.error error, port)) :
    port.pending = s.port.pending := by
  obtain ⟨rest, _, rfl⟩ | ⟨_, _, _, rfl⟩ := Loopback.armRefused answer <;> rfl

theorem uncountedWaiting (uncounted : (port.disarm channel).2.2.disarms = port.disarms) :
    (port.disarm channel).2.2.pending = port.pending := by
  cases live : channel.live with
  | false => rw [Loopback.disarmSpent live]
  | true =>
    rw [Loopback.disarmLive live] at uncounted
    exact absurd uncounted (Nat.succ_ne_self port.disarms)

theorem receiveFlow (exclusive : Exclusive s) (here : s.channel? place = some channel) :
    s.port.pending =
      (delivered? (action, received (s.port.receive channel).1)).toList ++
        (s.port.receive channel).2.2.pending := by
  cases live : channel.live with
  | false => simp [Loopback.receiveSpent live, received, delivered?]
  | true =>
    obtain ⟨mask, _⟩ := channel
    cases live
    have armed := (exclusive.armed mask).mpr ⟨place, lifeArmed.mpr here⟩
    rw [Loopback.receiveArmed armed exclusive.queued]
    split
    · simp [received, delivered?]
    · next waiting => simp [received, delivered?, waiting]
    · next waiting => simp [received, delivered?, waiting]

theorem flowMove (exclusive : Exclusive s) (move : Move s action answer next)
    (uncounted : next.port.disarms = s.port.disarms) :
    s.port.pending ++ (accepted? (action, answer)).toList =
      (delivered? (action, answer)).toList ++ next.port.pending := by
  cases move with
  | arm answer | openWatch answer => simp [accepted?, delivered?, armWaiting answer]
  | armRefused answer | watchRefused answer => simp [accepted?, delivered?, refusedWaiting answer]
  | receive here => simpa [receiveAcceptsNothing] using receiveFlow exclusive here
  | disarm | watchChannelDisarm | watchDisarm | drop =>
    simp [accepted?, delivered?, uncountedWaiting uncounted]
  | @raise raw =>
    cases taken : s.port.accepts raw <;> simp [accepted?, delivered?, Loopback.raise, taken]
  | dropReleased => simp [accepted?, delivered?]
  | failArm | failReceive =>
    simp [accepted?, delivered?, Loopback.queueArmFailure, Loopback.queueReceiveFailure]
  | idle idle => simp [idlePassesNothing idle]

theorem countedShift (shift : Shift s action next) : s.port.disarms ≤ next.port.disarms := by
  cases shift with
  | stays lives account => exact Nat.le_of_eq account.disarms.symm
  | makes fresh lives unarmed port => simp [port]
  | spends here calls lives port => simp [port]

theorem countedRun (sound : Sound s) (actions : List Action) :
    s.port.disarms ≤ (s.run actions).port.disarms := by
  induction actions generalizing s with
  | nil => exact Nat.le_refl _
  | cons action rest ih =>
    exact Nat.le_trans (countedShift (stepShift sound action)) (ih (soundStep sound action))

theorem flowRun (sound : Sound s)
    (uncounted : (s.run actions).port.disarms = s.port.disarms) :
    s.port.pending ++ accepted (s.trace actions) =
      delivered (s.trace actions) ++ (s.run actions).port.pending := by
  induction actions generalizing s with
  | nil => simp [trace, accepted, delivered, run]
  | cons action rest ih =>
    have after := soundStep sound action
    have first := countedShift (stepShift sound action)
    have others := countedRun after rest
    change ((s.step action).2.2.run rest).port.disarms = s.port.disarms at uncounted
    have here := flowMove sound.exclusive (stepMove s action) (by omega)
    have there := ih after (by omega)
    simp only [trace, accepted, delivered, List.flatMap_cons]
    rw [← List.append_assoc, here, List.append_assoc, List.append_assoc]
    exact congrArg _ there

theorem armedUncounted (sound : Sound s) (first : s.life place = .armed mask)
    (last : (s.run actions).life place = .armed mask) :
    (s.run actions).port.disarms = s.port.disarms := by
  induction actions generalizing s with
  | nil => rfl
  | cons action rest ih =>
    have after := soundStep sound action
    cases stepShift sound action with
    | stays lives account => exact (ih after ((lives place).trans first) last).trans account.disarms
    | makes _ _ unarmed => exact absurd first (sound.exclusive.unarmed unarmed)
    | spends here calls lives =>
      have same := sound.exclusive.one place _ _ _ first here
      have spent : (s.step action).2.2.life place = .spent := by rw [lives, if_pos same]
      have stillSpent : (s.run (action :: rest)).life place = .spent := spentRun after spent rest
      rw [last] at stillSpent
      contradiction

theorem armingEmpty (sound : Sound s) (before : s.life place ≠ .armed mask)
    (after : (s.step action).2.2.life place = .armed mask) :
    (s.step action).2.2.port.pending = [] := by
  cases stepShift sound action with
  | stays lives => exact absurd ((lives place).symm.trans after) before
  | makes _ _ unarmed port =>
    simp only [port]
    exact Loopback.queuedUnarmed sound.exclusive.queued unarmed
  | spends here calls lives port => rw [port]

theorem armingFlow (sound : Sound s) {rest : List Action} (before : s.life place ≠ .armed mask)
    (first : (s.step action).2.2.life place = .armed mask)
    (last : ((s.step action).2.2.run rest).life place = .armed mask) :
    accepted ((s.step action).2.2.trace rest) =
      delivered ((s.step action).2.2.trace rest) ++ ((s.step action).2.2.run rest).port.pending := by
  have after := soundStep sound action
  have flow := flowRun after (armedUncounted after first last)
  rwa [armingEmpty sound before first, List.nil_append] at flow

def oldest (port : Loopback) : Answer × Loopback :=
  let asked := { port with receives := port.receives + 1 }
  match port.receiveFailures, port.pending with
  | error :: rest, _ => (.refused error, { asked with receiveFailures := rest })
  | [], raw :: rest => (.fault raw, { asked with pending := rest })
  | [], [] => (.timedOut, asked)

inductive ArmRefusal (s : PortUse) : ChannelFailure → PortUse → Prop
  | scripted {error : ChannelFailure} {rest : List ChannelFailure}
      (waiting : s.port.armFailures = error :: rest) :
      ArmRefusal s error { s with port := { s.port with armFailures := rest } }
  | busy {place : Place} {mask : Mask} (unscripted : s.port.armFailures = [])
      (armed : s.life place = .armed mask) :
      ArmRefusal s (.rejected "a loopback channel is already armed") s

-- Who is armed is told here by the lives of the channels, never by what the port itself holds.
structure Answers (s : PortUse) : Prop where
  raise : ∀ raw, ∃ taken,
    s.step (.signal (.raise raw)) = (.accepted taken, if taken then [] else [.dropped raw],
      if taken then { s with port := { s.port with pending := s.port.pending ++ [raw] } } else s) ∧
    (taken = true ↔ ∃ place mask, s.life place = .armed mask ∧ mask.includes raw.category = true)
  failReceive : ∀ error, s.step (.signal (.failReceive error)) = (.done, [],
    { s with port := { s.port with receiveFailures := s.port.receiveFailures ++ [error] } })
  failArm : ∀ error, s.step (.signal (.failArm error)) = (.done, [],
    { s with port := { s.port with armFailures := s.port.armFailures ++ [error] } })
  receive : ∀ place mask, s.life place = .armed mask →
    s.step place.receive = ((oldest s.port).1, [], { s with port := (oldest s.port).2 })
  disarm : ∀ place mask, s.life place = .armed mask →
    (s.step place.disarm).1 = .done ∧
      (∀ other, (s.step place.disarm).2.2.life other =
        if other = place then .spent else s.life other) ∧
      (s.step place.disarm).2.2.port =
        { s.port with armed := none, disarms := s.port.disarms + 1, pending := [] }
  stale : ∀ place channel, s.channel? place = some channel → channel.live = false →
    s.step place.receive = (.refused (.receive "channel is disarmed"), [], s) ∧
      s.step place.disarm = (.done, [], s)
  arm : ∀ mask, s.port.armFailures = [] → (∀ place mask', s.life place ≠ .armed mask') →
    s.step (.arm mask) = (.channel s.channels.length, [],
        { s with
          port := { s.port with armed := some mask, arms := s.port.arms + 1 },
          channels := s.channels ++ [⟨mask, true⟩] }) ∧
      (s.step (.arm mask)).2.2.life (.own s.channels.length) = .armed mask
  armScripted : ∀ mask error rest, s.port.armFailures = error :: rest →
    s.step (.arm mask) = (.refused error, [],
      { s with port := { s.port with armFailures := rest } })
  armBusy : ∀ mask place mask', s.port.armFailures = [] → s.life place = .armed mask' →
    s.step (.arm mask) = (.refused (.rejected "a loopback channel is already armed"), [], s)
  armRefused : ∀ mask error, (s.step (.arm mask)).1 = .refused error →
    ArmRefusal s error (s.step (.arm mask)).2.2

theorem acceptsLives (exclusive : Exclusive s) : s.port.accepts raw = true ↔
    ∃ place mask, s.life place = .armed mask ∧ mask.includes raw.category = true := by
  constructor
  · intro accepted
    cases armed : s.port.armed with
    | none =>
      rw [Loopback.acceptsUnarmed armed] at accepted
      contradiction
    | some mask =>
      rw [Loopback.acceptsArmed armed] at accepted
      obtain ⟨place, here⟩ := (exclusive.armed mask).mp armed
      exact ⟨place, mask, here, accepted⟩
  · rintro ⟨place, mask, here, included⟩
    have armed := (exclusive.armed mask).mpr ⟨place, here⟩
    rw [Loopback.acceptsArmed armed, included]

theorem receiveOldest (exclusive : Exclusive s) (armed : s.life place = .armed mask) :
    s.step place.receive = ((oldest s.port).1, [], { s with port := (oldest s.port).2 }) := by
  have busy := (exclusive.armed mask).mpr ⟨place, armed⟩
  rw [stepReceive (lifeArmed.mp armed), Loopback.receiveArmed busy exclusive.queued, oldest]
  split <;> simp only [received, *]

theorem armRefusal (exclusive : Exclusive s) (refused : (s.step (.arm mask)).1 = .refused error) :
    ArmRefusal s error (s.step (.arm mask)).2.2 := by
  simp only [step] at refused ⊢
  split at refused
  · contradiction
  · next answer =>
    cases refused
    obtain ⟨rest, scripted, rfl⟩ | ⟨unscripted, busy, rfl, rfl⟩ := Loopback.armRefused answer
    · exact .scripted scripted
    · obtain ⟨mask', busy⟩ := Option.isSome_iff_exists.mp busy
      obtain ⟨place, armed⟩ := (exclusive.armed mask').mp busy
      exact .busy unscripted armed

theorem disarmArmed (armed : s.life place = .armed mask) :
    (s.step place.disarm).1 = .done ∧
      (∀ other, (s.step place.disarm).2.2.life other =
        if other = place then .spent else s.life other) ∧
      (s.step place.disarm).2.2.port =
        { s.port with armed := none, disarms := s.port.disarms + 1, pending := [] } := by
  have here := lifeArmed.mp armed
  have live : (⟨mask, true⟩ : LoopbackChannel).live = true := rfl
  cases place with
  | own index =>
    have listed : s.channels[index]? = some ⟨mask, true⟩ := here
    simp only [Place.disarm, step, listed, Loopback.disarmLive live]
    exact ⟨rfl, fun other => lifeOwnSet listed, trivial⟩
  | watch index =>
    obtain ⟨watch, listed, same⟩ := Option.map_eq_some_iff.mp here
    simp only [Place.disarm, step, listed, same, Loopback.disarmLive live]
    exact ⟨rfl, fun other => lifeWatchSet listed, rfl⟩

theorem armUnarmed (exclusive : Exclusive s) (unscripted : s.port.armFailures = [])
    (nobody : ∀ place mask', s.life place ≠ .armed mask') :
    s.step (.arm mask) = (.channel s.channels.length, [],
      { s with
        port := { s.port with armed := some mask, arms := s.port.arms + 1 },
        channels := s.channels ++ [⟨mask, true⟩] }) := by
  have unarmed : s.port.armed = none := by
    refine Option.eq_none_iff_forall_ne_some.mpr fun mask' armed => ?_
    obtain ⟨place, here⟩ := (exclusive.armed mask').mp armed
    exact nobody place mask' here
  simp only [step, Loopback.armFree unscripted unarmed]

theorem armWhileArmed {mask' : Mask} (exclusive : Exclusive s)
    (unscripted : s.port.armFailures = []) (armed : s.life place = .armed mask') :
    s.step (.arm mask) =
      (.refused (.rejected "a loopback channel is already armed"), [], s) := by
  have busy := (exclusive.armed mask').mpr ⟨place, armed⟩
  simp only [step, Loopback.arm, unscripted, busy]

theorem answersSound (sound : Sound s) : Answers s where
  raise := by
    intro raw
    refine ⟨s.port.accepts raw, ?_, acceptsLives sound.exclusive⟩
    simp only [step, Loopback.raise, Loopback.raiseLog]
    split <;> rfl
  failReceive error := rfl
  failArm error := rfl
  receive place mask := receiveOldest sound.exclusive
  disarm place mask := disarmArmed
  stale := by
    intro place channel here spent
    refine ⟨?_, stepDisarmSpent here spent⟩
    rw [stepReceive here, Loopback.receiveSpent spent]
    rfl
  arm := by
    intro mask unscripted nobody
    have stepped : s.step (.arm mask) = _ := armUnarmed sound.exclusive unscripted nobody
    refine ⟨stepped, ?_⟩
    rw [stepped, lifeOwnAdded, if_pos rfl]
    rfl
  armScripted mask error rest scripted := by simp only [step, Loopback.arm, scripted]
  armBusy mask place mask' := armWhileArmed sound.exclusive
  armRefused mask error := armRefusal sound.exclusive

theorem deliveredInOrder (flags : Safeguards) (actions : List Action) :
    let s := (start flags).run actions
    ((start flags).port = ⟨[], none, 0, 0, 0, [], []⟩ ∧
      ∀ place, (start flags).life place = .unmade) ∧
    Exclusive s ∧
      (∀ raw ∈ s.port.pending,
        ∃ place mask, s.life place = .armed mask ∧ mask.includes raw.category = true) ∧
      Answers s ∧
      ∀ action rest place mask,
        let made := (s.step action).2.2
        s.life place ≠ .armed mask → made.life place = .armed mask →
        (made.run rest).life place = .armed mask →
        accepted (made.trace rest) =
          delivered (made.trace rest) ++ (made.run rest).port.pending := by
  intro s
  have sound : Sound s := soundRun (soundStart flags) actions
  have exclusive := sound.exclusive
  refine ⟨⟨rfl, unmadeStart⟩, exclusive, ?_, answersSound sound,
    fun action rest place mask => armingFlow sound⟩
  exact fun raw waiting => (acceptsLives exclusive).mp (exclusive.queued raw waiting)

end FaultWatch.PortUse
