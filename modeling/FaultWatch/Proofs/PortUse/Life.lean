import FaultWatch.Proofs.PortUse.Move

/-! The life of a channel. It is made armed and is spent for good by its first release, whichever
way that comes; the place where it is kept stays known when its watch is dropped. A call makes one
channel, spends one, or leaves all as they are, and the port's own account goes with it
(`stepShift`). -/
namespace FaultWatch.PortUse

inductive Life
  | unmade
  | armed (mask : Mask)
  | spent
  deriving DecidableEq, Repr

def lifeOf (channel : LoopbackChannel) : Life :=
  if channel.live then .armed channel.mask else .spent

def watchLife : Option (Watch LoopbackChannel) → Life
  | some watch => lifeOf watch.channel
  | none => .spent

def life (s : PortUse) : Place → Life
  | .own index => (s.channels[index]?.map lifeOf).getD .unmade
  | .watch index => (s.watches[index]?.map watchLife).getD .unmade

variable {s next : PortUse} {action : Action} {place other : Place} {mask : Mask} {index : Nat}
  {channel : LoopbackChannel} {watch : Watch LoopbackChannel} {port : Loopback}

theorem lifeOfSpent (spent : channel.live = false) : lifeOf channel = .spent := by
  simp [lifeOf, spent]

theorem lifeOfArmed : lifeOf channel = .armed mask ↔ channel = ⟨mask, true⟩ := by
  obtain ⟨mask, live⟩ := channel
  cases live <;> simp [lifeOf]

theorem lifeOfChannel (here : s.channel? place = some channel) : s.life place = lifeOf channel := by
  cases place with
  | own index => simp_all [channel?, life]
  | watch index =>
    obtain ⟨watch, listed, rfl⟩ := Option.map_eq_some_iff.mp here
    simp [life, watchListed listed, watchLife]

theorem lifeOfWatch (here : s.watch? index = some watch) :
    s.life (.watch index) = lifeOf watch.channel :=
  lifeOfChannel (watchChannel here)

theorem lifeArmed : s.life place = .armed mask ↔ s.channel? place = some ⟨mask, true⟩ := by
  constructor
  · intro armed
    cases place with
    | own index =>
      cases listed : s.channels[index]? with
      | none => simp [life, listed] at armed
      | some channel =>
        simp only [life, listed, Option.map_some, Option.getD_some, lifeOfArmed] at armed
        rw [channel?, listed, armed]
    | watch index =>
      cases listed : s.watches[index]? with
      | none => simp [life, listed] at armed
      | some kept =>
        cases kept with
        | none => simp [life, listed, watchLife] at armed
        | some watch =>
          simp only [life, listed, Option.map_some, Option.getD_some, watchLife, lifeOfArmed]
            at armed
          simp [channel?, watch?, listed, armed]
  · intro here
    rw [lifeOfChannel here, lifeOfArmed.mpr rfl]

section Lists

variable {channels : List LoopbackChannel} {watches : List (Option (Watch LoopbackChannel))}
  {flags : SafeguardStore} {kept : Option (Watch LoopbackChannel)}

theorem lifeOwnAdded : (⟨port, flags, s.channels ++ [channel], s.watches⟩ : PortUse).life other =
    if other = .own s.channels.length then lifeOf channel else s.life other := by
  cases other with
  | own index =>
    simp only [life, Slots.added, Place.own.injEq]
    split <;> rfl
  | watch index => simp [life]

theorem lifeWatchAdded : (⟨port, flags, s.channels, s.watches ++ [kept]⟩ : PortUse).life other =
    if other = .watch s.watches.length then watchLife kept else s.life other := by
  cases other with
  | own index => simp [life]
  | watch index =>
    simp only [life, Slots.added, Place.watch.injEq]
    split <;> rfl

theorem lifeOwnSet {old : LoopbackChannel} (here : s.channels[index]? = some old) :
    (⟨port, flags, s.channels.set index channel, s.watches⟩ : PortUse).life other =
      if other = .own index then lifeOf channel else s.life other := by
  cases other with
  | own index =>
    simp only [life, Slots.replaced here, Place.own.injEq]
    split <;> rfl
  | watch index => simp [life]

theorem lifeWatchSet (here : s.watch? index = some watch) :
    (⟨port, flags, s.channels, s.watches.set index kept⟩ : PortUse).life other =
      if other = .watch index then watchLife kept else s.life other := by
  cases other with
  | own index => simp [life]
  | watch index =>
    simp only [life, Slots.replaced (watchListed here), Place.watch.injEq]
    split <;> rfl

end Lists

structure SameAccount (port next : Loopback) : Prop where
  armed : next.armed = port.armed
  arms : next.arms = port.arms
  disarms : next.disarms = port.disarms

theorem sameReceive : SameAccount port (port.receive channel).2.2 := by
  unfold Loopback.receive
  split
  · dsimp only
    split
    · exact ⟨rfl, rfl, rfl⟩
    · split <;> exact ⟨rfl, rfl, rfl⟩
  · exact ⟨rfl, rfl, rfl⟩

theorem sameRaise {raw : Fault} : SameAccount port (port.raise raw) := by
  unfold Loopback.raise
  split <;> exact ⟨rfl, rfl, rfl⟩

theorem sameRefused {error : ChannelFailure} {after : Loopback}
    (refused : port.arm mask = (.error error, after)) : SameAccount port after := by
  obtain ⟨rest, _, rfl⟩ | ⟨_, _, _, rfl⟩ := Loopback.armRefused refused
  · exact ⟨rfl, rfl, rfl⟩
  · exact ⟨rfl, rfl, rfl⟩

inductive Shift (s : PortUse) (action : Action) (next : PortUse) : Prop
  | stays (lives : ∀ place, next.life place = s.life place) (account : SameAccount s.port next.port)
  | makes {place : Place} {mask : Mask} (fresh : s.life place = .unmade)
      (lives : ∀ other, next.life other = if other = place then .armed mask else s.life other)
      (unarmed : s.port.armed = none)
      (port : next.port = { s.port with armed := some mask, arms := s.port.arms + 1 })
  | spends {place : Place} {mask : Mask} (here : s.life place = .armed mask)
      (calls : action.on? = some place)
      (lives : ∀ other, next.life other = if other = place then .spent else s.life other)
      (port : next.port =
        { s.port with armed := none, disarms := s.port.disarms + 1, pending := [] })

-- The other way round fails: a channel can be released past the watch that keeps it.
def Settled (s : PortUse) : Prop :=
  ∀ index watch, s.watch? index = some watch → watch.released = true → watch.channel.live = false

theorem settledMove {answer : Answer} (settled : s.Settled) (made : Move s action answer next) :
    next.Settled := by
  cases made with
  | openWatch =>
    intro index watch here released
    rw [watchAdded] at here
    split at here
    · cases here
      contradiction
    · exact settled index watch here released
  | watchChannelDisarm listed | watchDisarm listed =>
    intro index watch here released
    rw [watchSet listed] at here
    split at here
    · cases here
      exact Loopback.disarmSpends
    · exact settled index watch here released
  | drop listed | dropReleased listed =>
    intro index watch here released
    rw [watchSet listed, Option.ite_none_left_eq_some] at here
    exact settled index watch here.2 released
  | _ => exact settled

theorem shiftMade {port : Loopback} (fresh : s.life place = .unmade)
    (answer : s.port.arm mask = (.ok channel, port))
    (lives : ∀ other, next.life other = if other = place then lifeOf channel else s.life other)
    (same : next.port = port) : Shift s action next := by
  obtain ⟨unarmed, rfl, rfl⟩ := Loopback.armOk answer
  exact .makes fresh lives unarmed same

theorem shiftReleased (here : s.life place = lifeOf channel) (calls : action.on? = some place)
    (lives : ∀ other, next.life other = if other = place then .spent else s.life other)
    (same : next.port = (s.port.disarm channel).2.2) : Shift s action next := by
  cases live : channel.live with
  | true =>
    rw [Loopback.disarmLive live] at same
    rw [lifeOf, if_pos live] at here
    exact .spends here calls lives same
  | false =>
    rw [Loopback.disarmSpent live] at same
    rw [lifeOfSpent live] at here
    refine .stays (fun other => ?_) (same ▸ ⟨rfl, rfl, rfl⟩)
    rw [lives]
    split
    · next same => rw [same, here]
    · rfl

theorem moveShift {answer : Answer} (settled : s.Settled) (made : Move s action answer next) :
    Shift s action next := by
  cases made with
  | arm answer => exact shiftMade (by simp [life]) answer (fun _ => lifeOwnAdded) rfl
  | openWatch answer => exact shiftMade (by simp [life]) answer (fun _ => lifeWatchAdded) rfl
  | armRefused answer | watchRefused answer => exact .stays (fun _ => rfl) (sameRefused answer)
  | receive => exact .stays (fun _ => rfl) sameReceive
  | raise => exact .stays (fun _ => rfl) sameRaise
  | failArm | failReceive | idle => exact .stays (fun _ => rfl) ⟨rfl, rfl, rfl⟩
  | disarm here =>
    refine shiftReleased (by simp [life, here]) rfl (fun _ => ?_) rfl
    rw [lifeOwnSet here, lifeOfSpent Loopback.disarmSpends]
  | watchChannelDisarm here | watchDisarm here =>
    refine shiftReleased (lifeOfWatch here) rfl (fun _ => ?_) rfl
    rw [lifeWatchSet here, watchLife, lifeOfSpent Loopback.disarmSpends]
  | drop here => exact shiftReleased (lifeOfWatch here) rfl (fun _ => lifeWatchSet here) rfl
  | @dropReleased index watch here released =>
    refine .stays (fun other => ?_) ⟨rfl, rfl, rfl⟩
    have spent := settled index watch here released
    rw [lifeWatchSet here, watchLife]
    split
    · next same => rw [same, lifeOfWatch here, lifeOfSpent spent]
    · rfl

end FaultWatch.PortUse
