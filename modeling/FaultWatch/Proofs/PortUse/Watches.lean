import FaultWatch.Proofs.PortUse.Exclusive
import FaultWatch.Proofs.SafeguardStore
import Mathlib.Data.List.Induction

/-! Watches alone on a port and a flag store. The holders of the store are the watches that live,
each keeps the flags of the start, and an armed port belongs to one of them. The flags last asked
for are installed for as long as a watch lives. A watch releases its channel once, whichever way
that comes, and after that it touches no other's. The main statement is `watchesComeAndGo`. -/
namespace FaultWatch.PortUse

variable {s next : PortUse} {action : Action} {actions : List Action} {answer : Answer}
  {first : Safeguards} {index other : Nat} {watch : Watch LoopbackChannel} {mask : Mask}

def liveWatches (s : PortUse) : Nat := s.watches.countP Option.isSome

def Action.flags? : Action → Option Safeguards
  | openWatch _ flags => some flags
  | _ => none

/-- The flags last asked for, whether the watch came about or not. -/
def requested (actions : List Action) : Option Safeguards :=
  (actions.filterMap Action.flags?).getLast?

structure Tended (first : Safeguards) (s : PortUse) : Prop where
  channels : s.channels = []
  holders : s.flags.holders = s.liveWatches
  kept : s.flags.kept = first
  saved : ∀ index watch, s.watch? index = some watch → watch.saved = first
  arms : s.port.arms = s.watches.length

theorem liveHeld (here : s.watch? index = some watch) : 0 < s.liveWatches :=
  List.countP_pos_iff.mpr ⟨some watch, List.mem_of_getElem? (watchListed here), rfl⟩

theorem liveDropped (here : s.watch? index = some watch) :
    (s.watches.set index none).countP Option.isSome = s.liveWatches - 1 := by
  obtain ⟨inside, same⟩ := List.getElem?_eq_some_iff.mp (watchListed here)
  simp [List.countP_set, inside, same, liveWatches]

theorem liveReplaced (here : s.watch? index = some watch) (after : Watch LoopbackChannel) :
    (s.watches.set index (some after)).countP Option.isSome = s.liveWatches := by
  obtain ⟨inside, same⟩ := List.getElem?_eq_some_iff.mp (watchListed here)
  have held := liveHeld here
  rw [List.countP_set inside, same]
  exact Nat.sub_add_cancel held

theorem tendedReplaced (tended : Tended first s) (here : s.watch? index = some watch)
    {after : Watch LoopbackChannel} (saved : after.saved = watch.saved) {port : Loopback}
    (arms : port.arms = s.port.arms) :
    Tended first ⟨port, s.flags, s.channels, s.watches.set index (some after)⟩ where
  channels := tended.channels
  holders := tended.holders.trans (liveReplaced here after).symm
  kept := tended.kept
  saved := by
    intro other watch' there
    rw [watchSet here] at there
    split at there
    · cases there
      exact saved.trans (tended.saved index watch here)
    · exact tended.saved other watch' there
  arms := by rw [arms, tended.arms, List.length_set]

theorem tendedDropped (tended : Tended first s) (here : s.watch? index = some watch)
    {port : Loopback} (arms : port.arms = s.port.arms) :
    Tended first ⟨port, s.flags.leave, s.channels, s.watches.set index none⟩ where
  channels := tended.channels
  holders := by
    rw [SafeguardStore.holdersLeave, tended.holders]
    exact (liveDropped here).symm
  kept := SafeguardStore.keptLeave.trans tended.kept
  saved := by
    intro other watch' there
    rw [watchSet here, Option.ite_none_left_eq_some] at there
    exact tended.saved other watch' there.2
  arms := by rw [arms, tended.arms, List.length_set]

theorem tendedOpened (tended : Tended first s) {flags : Safeguards} {channel : LoopbackChannel}
    {port : Loopback} (arms : port.arms = s.port.arms + 1) :
    Tended first
      ⟨port, s.flags.enter flags, s.channels,
        s.watches ++ [some ⟨channel, false, s.flags.kept⟩]⟩ where
  channels := tended.channels
  holders := by
    rw [SafeguardStore.holdersEnter, tended.holders, liveWatches, liveWatches, List.countP_append]
    rfl
  kept := SafeguardStore.keptEnter.trans tended.kept
  saved := by
    intro other watch' there
    rw [watchAdded] at there
    split at there
    · cases there
      exact tended.kept
    · exact tended.saved other watch' there
  arms := by rw [arms, tended.arms, List.length_append, List.length_singleton]

theorem tendedKept (tended : Tended first s) {port : Loopback} {flags : SafeguardStore}
    (arms : port.arms = s.port.arms) (holders : flags.holders = s.flags.holders)
    (kept : flags.kept = s.flags.kept) : Tended first ⟨port, flags, s.channels, s.watches⟩ where
  channels := tended.channels
  holders := holders.trans tended.holders
  kept := kept.trans tended.kept
  saved := tended.saved
  arms := arms.trans tended.arms

theorem tendedMove (tended : Tended first s) (notArmed : ∀ mask, action ≠ .arm mask)
    (move : Move s action answer next) : Tended first next := by
  cases move with
  | @arm mask => exact absurd rfl (notArmed mask)
  | armRefused answer => exact tendedKept tended (sameRefused answer).arms rfl rfl
  | openWatch answer =>
    obtain ⟨_, _, rfl⟩ := Loopback.armOk answer
    exact tendedOpened tended rfl
  | watchRefused answer =>
    exact tendedKept tended (sameRefused answer).arms (by simp) (by simp)
  | receive => exact tendedKept tended sameReceive.arms rfl rfl
  | raise => exact tendedKept tended sameRaise.arms rfl rfl
  | failArm | failReceive => exact tendedKept tended rfl rfl rfl
  | disarm here => simp [tended.channels] at here
  | watchChannelDisarm here | watchDisarm here =>
    refine tendedReplaced tended here ?_ Loopback.armsDisarm
    rfl
  | drop here => exact tendedDropped tended here Loopback.armsDisarm
  | dropReleased here => exact tendedDropped tended here rfl
  | idle => exact tended

theorem tendedStart : Tended first (start first) where
  channels := rfl
  holders := rfl
  kept := rfl
  saved := by simp [start, watch?]
  arms := rfl

theorem tendedRun (tended : Tended first s) (watchesOnly : ∀ mask, .arm mask ∉ actions) :
    Tended first (s.run actions) := by
  refine runKeeps tended fun s action member tended => ?_
  have notArmed : ∀ mask, action ≠ .arm mask := fun mask same => watchesOnly mask (same ▸ member)
  exact tendedMove tended notArmed (stepMove s action)

theorem watchArmed (here : s.watch? index = some watch) :
    s.life (.watch index) = .armed mask ↔ watch.channel = ⟨mask, true⟩ := by
  rw [lifeOfWatch here, lifeOfArmed]

theorem armedWatch (sound : Sound s) (tended : Tended first s) :
    s.port.armed = some mask ↔ ∃ index watch, s.watch? index = some watch ∧
      watch.released = false ∧ watch.channel = ⟨mask, true⟩ := by
  rw [sound.exclusive.armed]
  constructor
  · rintro ⟨place, armed⟩
    have here := lifeArmed.mp armed
    cases place with
    | own index => simp [channel?, tended.channels] at here
    | watch index =>
      obtain ⟨watch, there, same⟩ := Option.map_eq_some_iff.mp here
      refine ⟨index, watch, there, ?_, same⟩
      cases released : watch.released with
      | false => rfl
      | true =>
        have spent := sound.settled index watch there released
        rw [same] at spent
        contradiction
  · rintro ⟨index, watch, here, -, same⟩
    exact ⟨.watch index, (watchArmed here).mpr same⟩

theorem oneWatch (exclusive : Exclusive s) {watch' : Watch LoopbackChannel}
    (here : s.watch? index = some watch) (there : s.watch? other = some watch')
    (live : watch.channel.live = true) (live' : watch'.channel.live = true) : index = other := by
  have armed : s.life (.watch index) = .armed watch.channel.mask :=
    (watchArmed here).mpr (by rw [← live])
  have armed' : s.life (.watch other) = .armed watch'.channel.mask :=
    (watchArmed there).mpr (by rw [← live'])
  exact Place.watch.inj (exclusive.one _ _ _ _ armed armed')

theorem dueWatch (made : index < s.watches.length) :
    (s.life (.watch index)).due = if (s.watch? index).any (·.channel.live) then 1 else 0 := by
  have listed := List.getElem?_eq_getElem made
  cases kept : s.watches[index] with
  | none => simp [life, watch?, listed, kept, watchLife, Life.due]
  | some watch =>
    cases live : watch.channel.live <;>
      simp [life, watch?, listed, kept, watchLife, lifeOf, live, Life.due]

theorem watchDisarmed (settled : s.Settled) (here : s.watch? index = some watch) :
    (watch.disarm Loopback.port s.port).2.2 = (s.port.disarm watch.channel).2.2 := by
  rw [Watch.disarmPort]
  split
  · next released => rw [Loopback.disarmSpent (settled index watch here released)]
  · rfl

theorem dropSpent (settled : s.Settled) (here : s.watch? index = some watch)
    (spent : watch.channel.live = false) :
    (s.step (.dropWatch index)).2.2 =
      { s with flags := s.flags.leave, watches := s.watches.set index none } := by
  simp only [step, here, watchDisarmed settled here, Loopback.disarmSpent spent]

def routes (index : Nat) : List Action :=
  [.watchDisarm index, .watchChannelDisarm index, .dropWatch index]

theorem routeStep (settled : s.Settled) (here : s.watch? index = some watch)
    (route : action ∈ routes index) :
    (s.step action).2.2.port = (s.port.disarm watch.channel).2.2 ∧
      (s.step action).2.2.flags =
        if action = .dropWatch index then s.flags.leave else s.flags := by
  have disarmed := watchDisarmed settled here
  simp only [routes, List.mem_cons, List.not_mem_nil, or_false] at route
  obtain rfl | rfl | rfl := route
  · exact ⟨by simpa [step, here, setWatch] using disarmed, by simp [step, here, setWatch]⟩
  · exact ⟨by simp [step, here, setWatch], by simp [step, here, setWatch]⟩
  · exact ⟨by simpa [step, here] using disarmed, by simp [step, here]⟩

structure Opened (mask : Mask) (flags saved : Safeguards) (index : Nat) (s next : PortUse) :
    Prop where
  number : index = s.watches.length
  kept : saved = s.flags.kept
  installed : next.flags.current = flags
  holders : next.flags.holders = s.flags.holders + 1
  port : next.port = { s.port with armed := some mask, arms := s.port.arms + 1 }
  watches : next.watches = s.watches ++ [some ⟨⟨mask, true⟩, false, saved⟩]

theorem watchOpened {flags saved : Safeguards}
    (opened : (s.step (.openWatch mask flags)).1 = .watch index saved) :
    Opened mask flags saved index s (s.step (.openWatch mask flags)).2.2 := by
  obtain ⟨channel, port, answer, stepped⟩ | ⟨error, port, _, stepped⟩ :=
    openWatchCases s mask flags
  · obtain ⟨_, rfl, rfl⟩ := Loopback.armOk answer
    rw [stepped] at opened ⊢
    cases opened
    exact ⟨rfl, rfl, rfl, rfl, rfl, rfl⟩
  · rw [stepped] at opened
    contradiction

theorem watchNotOpened {flags : Safeguards} {error : ChannelFailure}
    (refused : (s.step (.openWatch mask flags)).1 = .refused error) :
    let next := (s.step (.openWatch mask flags)).2.2
    next.watches = s.watches ∧ next.flags.holders = s.flags.holders ∧
      next.port = { s.port with armFailures := s.port.armFailures.tail } := by
  obtain ⟨channel, port, _, stepped⟩ | ⟨error', port, answer, stepped⟩ :=
    openWatchCases s mask flags
  · rw [stepped] at refused
    contradiction
  · rw [stepped]
    refine ⟨rfl, by simp, ?_⟩
    obtain ⟨rest, scripted, rfl⟩ | ⟨unscripted, _, _, rfl⟩ := Loopback.armRefused answer
    · rw [scripted, List.tail_cons]
    · rw [unscripted, List.tail_nil, ← unscripted]

theorem openWatchFlags {flags : Safeguards}
    (held : 0 < (s.step (.openWatch mask flags)).2.2.flags.holders) :
    (s.step (.openWatch mask flags)).2.2.flags.current = flags := by
  obtain ⟨channel, port, _, stepped⟩ | ⟨error, port, _, stepped⟩ := openWatchCases s mask flags
  · rw [stepped]
    rfl
  · rw [stepped] at held ⊢
    rw [SafeguardStore.holdersLeave, SafeguardStore.holdersEnter, Nat.add_sub_cancel] at held
    rw [SafeguardStore.currentEnterLeave, if_neg (Nat.ne_of_gt held)]

theorem currentKept (notOpened : action.flags? = none) (move : Move s action answer next)
    (held : 0 < next.flags.holders) :
    next.flags.current = s.flags.current ∧ 0 < s.flags.holders := by
  cases move with
  | openWatch | watchRefused => contradiction
  | drop | dropReleased =>
    refine ⟨SafeguardStore.currentLeave held, ?_⟩
    rw [SafeguardStore.holdersLeave] at held
    omega
  | _ => exact ⟨rfl, held⟩

theorem currentRequested (held : 0 < ((start first).run actions).flags.holders) :
    requested actions = some ((start first).run actions).flags.current := by
  induction actions using List.reverseRecOn with
  | nil => contradiction
  | append_singleton earlier action ih =>
    have split : (start first).run (earlier ++ [action]) =
        (((start first).run earlier).step action).2.2 := by
      simp [run, List.foldl_append]
    rw [split] at held ⊢
    cases asked : action.flags? with
    | none =>
      obtain ⟨same, before⟩ := currentKept asked (stepMove _ action) held
      rw [same, ← ih before]
      simp [requested, asked]
    | some flags =>
      cases action with
      | openWatch mask flags' =>
        cases asked
        rw [openWatchFlags held]
        simp [requested, Action.flags?]
      | _ => contradiction

theorem armedHeld (sound : Sound s) (tended : Tended first s)
    (armed : s.port.armed = some mask) : 0 < s.liveWatches := by
  obtain ⟨index, watch, here, -⟩ := (armedWatch sound tended).mp armed
  exact liveHeld here

theorem noWatchFree (sound : Sound s) (tended : Tended first s) (nobody : s.liveWatches = 0) :
    s.port.armed = none ∧ s.port.pending = [] ∧ s.flags.current = first := by
  have unarmed : s.port.armed = none := by
    refine Option.eq_none_iff_forall_ne_some.mpr fun mask armed => ?_
    have held := armedHeld sound tended armed
    omega
  refine ⟨unarmed, Loopback.queuedUnarmed sound.exclusive.queued unarmed, ?_⟩
  exact (SafeguardStore.currentOfFree (tended.holders.trans nobody)).trans tended.kept

theorem releasesWatch (made : index < ((start first).run actions).watches.length) :
    releasesBy (.watch index) (start first) actions =
      if (((start first).run actions).watch? index).any (·.channel.live) then 0 else 1 := by
  have once := releasedOnce (soundStart first) (.watch index) actions
  rw [dueWatch made] at once
  have owed : ((start first).life (.watch index)).due = 1 := rfl
  split <;> simp_all

structure Lifecycle (first : Safeguards) (actions : List Action) (s : PortUse) : Prop where
  holders : s.flags.holders = s.liveWatches
  saved : ∀ index watch, s.watch? index = some watch →
    watch.saved = first ∧ s.step (.watchSaved index) = (.saved first, [], s)
  armed : ∀ mask, s.port.armed = some mask ↔ ∃ index watch, s.watch? index = some watch ∧
    watch.released = false ∧ watch.channel = ⟨mask, true⟩
  one : ∀ index other watch watch', s.watch? index = some watch → s.watch? other = some watch' →
    watch.channel.live = true → watch'.channel.live = true → index = other
  held : s.port.armed.isSome = true → 0 < s.flags.holders
  releases : ∀ index < s.watches.length, releasesBy (.watch index) (start first) actions =
    if (s.watch? index).any (·.channel.live) then 0 else 1
  counted : s.port.disarms + (if s.port.armed.isSome then 1 else 0) = s.watches.length
  dropped : ∀ index watch, s.watch? index = some watch →
    watch.released = true ∨ watch.channel.live = false →
    (s.step (.dropWatch index)).2.2 =
      { s with flags := s.flags.leave, watches := s.watches.set index none }
  opened : ∀ mask flags index saved, (s.step (.openWatch mask flags)).1 = .watch index saved →
    Opened mask flags saved index s (s.step (.openWatch mask flags)).2.2
  refused : ∀ mask flags error, (s.step (.openWatch mask flags)).1 = .refused error →
    let next := (s.step (.openWatch mask flags)).2.2
    next.watches = s.watches ∧ next.flags.holders = s.flags.holders ∧
      next.port = { s.port with armFailures := s.port.armFailures.tail }
  installed : 0 < s.liveWatches → requested actions = some s.flags.current
  routed : ∀ index watch, s.watch? index = some watch → ∀ action ∈ routes index,
    (s.step action).2.2.port =
        (if watch.channel.live then
          { s.port with armed := none, disarms := s.port.disarms + 1, pending := [] }
        else s.port) ∧
      (s.step action).2.2.flags = if action = .dropWatch index then s.flags.leave else s.flags
  free : s.liveWatches = 0 → s.port.armed = none ∧ s.port.pending = [] ∧ s.flags.current = first

theorem watchesComeAndGo (first : Safeguards) (actions : List Action)
    (watchesOnly : ∀ mask, .arm mask ∉ actions) :
    Lifecycle first actions ((start first).run actions) := by
  have sound : Sound ((start first).run actions) := soundRun (soundStart first) actions
  have tended : Tended first ((start first).run actions) := tendedRun tendedStart watchesOnly
  constructor
  case holders => exact tended.holders
  case saved =>
    intro index watch here
    have same := tended.saved index watch here
    exact ⟨same, by simp only [step, here, same]⟩
  case armed => exact fun mask => armedWatch sound tended
  case one => exact fun index other watch watch' => oneWatch sound.exclusive
  case held =>
    intro armed
    obtain ⟨mask, armed⟩ := Option.isSome_iff_exists.mp armed
    rw [tended.holders]
    exact armedHeld sound tended armed
  case releases => exact fun index => releasesWatch
  case counted => rw [← sound.exclusive.counts, tended.arms]
  case dropped =>
    rintro index watch here (released | spent)
    · exact dropSpent sound.settled here (sound.settled index watch here released)
    · exact dropSpent sound.settled here spent
  case opened => exact fun mask flags index saved => watchOpened
  case refused => exact fun mask flags error => watchNotOpened
  case installed =>
    intro held
    rw [← tended.holders] at held
    exact currentRequested held
  case routed =>
    intro index watch here action route
    obtain ⟨port, flags⟩ := routeStep sound.settled here route
    refine ⟨port.trans ?_, flags⟩
    split
    · next live => rw [Loopback.disarmLive live]
    · next spent => rw [Loopback.disarmSpent (Bool.eq_false_iff.mpr spent)]
  case free => exact noWatchFree sound tended

theorem secondWatchOutlivesFirst :
    let actions : List Action :=
      [.openWatch ⟨1⟩ ⟨false, true⟩, .watchChannelDisarm 0, .openWatch ⟨2⟩ ⟨true, false⟩,
        .watchDisarm 0, .dropWatch 0]
    let s := (start ⟨true, true⟩).run actions
    (∀ mask, .arm mask ∉ actions) ∧ Lifecycle ⟨true, true⟩ actions s ∧
      s.port.armed = some ⟨2⟩ ∧ s.flags.holders = 1 ∧ s.flags.current = ⟨true, false⟩ := by
  intro actions s
  have watchesOnly : ∀ mask, .arm mask ∉ actions := by simp [actions]
  have lifecycle : Lifecycle ⟨true, true⟩ actions s :=
    watchesComeAndGo ⟨true, true⟩ actions watchesOnly
  have current := lifecycle.installed (by decide)
  exact ⟨watchesOnly, lifecycle, by decide, by decide, (Option.some.inj current).symm⟩

end FaultWatch.PortUse
