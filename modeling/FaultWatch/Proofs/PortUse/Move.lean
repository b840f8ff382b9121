import FaultWatch.Proofs.Loopback
import FaultWatch.Proofs.Slots

/-! The moves of a port in use, one constructor for each thing that a call can do. A channel is kept
on its own or in a watch; both are reached by the place where it is kept. The main statement is
`stepMove`. -/
namespace FaultWatch.PortUse

inductive Place
  | own (index : Nat)
  | watch (index : Nat)
  deriving DecidableEq, Repr

def Place.receive : Place → Action
  | own index => .receive index
  | watch index => .watchReceive index

def Place.disarm : Place → Action
  | own index => .disarm index
  | watch index => .watchChannelDisarm index

def channel? (s : PortUse) : Place → Option LoopbackChannel
  | .own index => s.channels[index]?
  | .watch index => (s.watch? index).map Watch.channel

def Action.on? : Action → Option Place
  | mask index | receive index | disarm index => some (.own index)
  | dropWatch index | watchReceive index | watchDisarm index | watchChannelDisarm index
  | watchSaved index => some (.watch index)
  | arm _ | openWatch _ _ | signal _ => none

def Answer.isIdle : Answer → Bool
  | done | mask _ | saved _ | absent | accepted false => true
  | _ => false

inductive Move (s : PortUse) : Action → Answer → PortUse → Prop
  | arm {mask channel port} (answer : s.port.arm mask = (.ok channel, port)) :
      Move s (.arm mask) (.channel s.channels.length)
        { s with port, channels := s.channels ++ [channel] }
  | armRefused {mask error port} (answer : s.port.arm mask = (.error error, port)) :
      Move s (.arm mask) (.refused error) { s with port }
  | openWatch {mask flags channel port} (answer : s.port.arm mask = (.ok channel, port)) :
      Move s (.openWatch mask flags) (.watch s.watches.length s.flags.kept)
        { s with
          port, flags := s.flags.enter flags,
          watches := s.watches ++ [some ⟨channel, false, s.flags.kept⟩] }
  | watchRefused {mask flags error port} (answer : s.port.arm mask = (.error error, port)) :
      Move s (.openWatch mask flags) (.refused error)
        { s with port, flags := (s.flags.enter flags).leave }
  | receive {place channel} (here : s.channel? place = some channel) :
      Move s place.receive (received (s.port.receive channel).1)
        { s with port := (s.port.receive channel).2.2 }
  | disarm {index channel} (here : s.channels[index]? = some channel) :
      Move s (.disarm index) .done
        { s with
          port := (s.port.disarm channel).2.2,
          channels := s.channels.set index (s.port.disarm channel).2.1 }
  | watchChannelDisarm {index watch} (here : s.watch? index = some watch) :
      Move s (.watchChannelDisarm index) .done
        { s with
          port := (s.port.disarm watch.channel).2.2,
          watches := s.watches.set index
            (some { watch with channel := (s.port.disarm watch.channel).2.1 }) }
  | watchDisarm {index watch} (here : s.watch? index = some watch)
      (unreleased : watch.released = false) :
      Move s (.watchDisarm index) .done
        { s with
          port := (s.port.disarm watch.channel).2.2,
          watches := s.watches.set index
            (some ⟨(s.port.disarm watch.channel).2.1, true, watch.saved⟩) }
  | drop {index watch} (here : s.watch? index = some watch) (unreleased : watch.released = false) :
      Move s (.dropWatch index) (.accepted true)
        { s with
          port := (s.port.disarm watch.channel).2.2, flags := s.flags.leave,
          watches := s.watches.set index none }
  | dropReleased {index watch} (here : s.watch? index = some watch)
      (released : watch.released = true) :
      Move s (.dropWatch index) (.accepted true)
        { s with flags := s.flags.leave, watches := s.watches.set index none }
  | raise {raw} :
      Move s (.signal (.raise raw)) (.accepted (s.port.accepts raw))
        { s with port := s.port.raise raw }
  | failArm {error} :
      Move s (.signal (.failArm error)) .done { s with port := s.port.queueArmFailure error }
  | failReceive {error} :
      Move s (.signal (.failReceive error)) .done
        { s with port := s.port.queueReceiveFailure error }
  | idle {action answer} (idle : answer.isIdle = true) : Move s action answer s

variable {s : PortUse} {index number : Nat} {watch : Watch LoopbackChannel} {port : Loopback}
  {flags : SafeguardStore} {channels : List LoopbackChannel}
  {kept : Option (Watch LoopbackChannel)}

theorem watchListed (here : s.watch? index = some watch) : s.watches[index]? = some (some watch) :=
  Option.join_eq_some_iff.mp here

theorem watchChannel (here : s.watch? index = some watch) :
    s.channel? (.watch index) = some watch.channel := by
  simp [channel?, here]

theorem watchAdded : (⟨port, flags, channels, s.watches ++ [kept]⟩ : PortUse).watch? index =
    if index = s.watches.length then kept else s.watch? index := by
  rw [watch?, Slots.added]
  split <;> rfl

theorem watchSet (here : s.watch? number = some watch) :
    (⟨port, flags, channels, s.watches.set number kept⟩ : PortUse).watch? index =
      if index = number then kept else s.watch? index := by
  rw [watch?, Slots.replaced (watchListed here)]
  split <;> rfl

theorem stepReceive {place : Place} {channel : LoopbackChannel}
    (here : s.channel? place = some channel) :
    s.step place.receive =
      (received (s.port.receive channel).1, [],
        { s with port := (s.port.receive channel).2.2 }) := by
  cases place with
  | own index =>
    have listed : s.channels[index]? = some channel := here
    simp [Place.receive, step, listed, Slots.replacedSame listed]
  | watch index =>
    obtain ⟨watch, listed, rfl⟩ := Option.map_eq_some_iff.mp here
    simp [Place.receive, step, listed, setWatch, Slots.replacedSame (watchListed listed)]

theorem stepDisarmSpent {place : Place} {channel : LoopbackChannel}
    (here : s.channel? place = some channel) (spent : channel.live = false) :
    s.step place.disarm = (.done, [], s) := by
  cases place with
  | own index =>
    have listed : s.channels[index]? = some channel := here
    simp [Place.disarm, step, listed, Loopback.disarmSpent spent, released,
      Slots.replacedSame listed]
  | watch index =>
    obtain ⟨watch, listed, rfl⟩ := Option.map_eq_some_iff.mp here
    simp [Place.disarm, step, listed, Loopback.disarmSpent spent, released, setWatch,
      Slots.replacedSame (watchListed listed)]

theorem openWatchCases (s : PortUse) (mask : Mask) (flags : Safeguards) :
    (∃ channel port, s.port.arm mask = (.ok channel, port) ∧
      s.step (.openWatch mask flags) = (.watch s.watches.length s.flags.kept, [.armed mask],
        { s with
          port, flags := s.flags.enter flags,
          watches := s.watches ++ [some ⟨channel, false, s.flags.kept⟩] })) ∨
    ∃ error port, s.port.arm mask = (.error error, port) ∧
      s.step (.openWatch mask flags) = (.refused error, [],
        { s with port, flags := (s.flags.enter flags).leave }) := by
  cases answer : s.port.arm mask with
  | mk result port =>
    cases result with
    | ok channel =>
      exact .inl ⟨channel, port, rfl, by simp only [step, Watch.arm, Loopback.port, answer]⟩
    | error error =>
      exact .inr ⟨error, port, rfl, by simp only [step, Watch.arm, Loopback.port, answer]⟩

theorem stepMove (s : PortUse) (action : Action) :
    Move s action (s.step action).1 (s.step action).2.2 := by
  cases action with
  | arm mask =>
    simp only [step]
    split
    · next answer => exact .arm answer
    · next answer => exact .armRefused answer
  | openWatch mask flags =>
    obtain ⟨channel, port, answer, stepped⟩ | ⟨error, port, answer, stepped⟩ :=
      openWatchCases s mask flags
    · rw [stepped]
      exact .openWatch answer
    · rw [stepped]
      exact .watchRefused answer
  | receive index =>
    cases here : s.channels[index]? with
    | none => simpa [step, here] using (.idle rfl : Move s (.receive index) .absent s)
    | some channel =>
      have there : s.channel? (.own index) = some channel := here
      have stepped : s.step (.receive index) = _ := stepReceive there
      rw [stepped]
      exact .receive there
  | watchReceive index =>
    cases here : s.watch? index with
    | none => simpa [step, here] using (.idle rfl : Move s (.watchReceive index) .absent s)
    | some watch =>
      have stepped : s.step (.watchReceive index) = _ := stepReceive (watchChannel here)
      rw [stepped]
      exact .receive (watchChannel here)
  | disarm index =>
    simp only [step]
    split
    · next channel here =>
      simpa only [Loopback.disarmOk, released] using Move.disarm here
    · exact .idle rfl
  | watchChannelDisarm index =>
    simp only [step]
    split
    · next watch here =>
      simpa only [Loopback.disarmOk, released, setWatch] using Move.watchChannelDisarm here
    · exact .idle rfl
  | watchDisarm index =>
    simp only [step]
    split
    · next watch here =>
      cases before : watch.released with
      | false =>
        simpa [Watch.disarm, before, Loopback.port, Loopback.disarmOk, released, setWatch] using
          Move.watchDisarm here before
      | true =>
        have kept : s.watches.set index (some watch) = s.watches :=
          Slots.replacedSame (watchListed here)
        simpa [Watch.disarm, before, released, setWatch, kept] using
          (.idle rfl : Move s (.watchDisarm index) .done s)
    · exact .idle rfl
  | dropWatch index =>
    simp only [step]
    split
    · next watch here =>
      cases before : watch.released with
      | false => simpa [Watch.disarm, before, Loopback.port] using Move.drop here before
      | true => simpa [Watch.disarm, before] using Move.dropReleased here before
    · exact .idle rfl
  | signal signal =>
    cases signal with
    | raise raw => exact .raise
    | failArm error => exact .failArm
    | failReceive error => exact .failReceive
  | mask | watchSaved =>
    simp only [step]
    split <;> exact .idle rfl

end FaultWatch.PortUse
