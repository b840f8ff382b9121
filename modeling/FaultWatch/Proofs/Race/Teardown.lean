import FaultWatch.Catch.ScriptedPort
import FaultWatch.Proofs.Race.Holders
import FaultWatch.Proofs.Race.Release
import FaultWatch.Proofs.Race.Service

/-! What a call leaves behind, on whichever path it ends and whatever its port does. The port has
met what the deeds of the call tell, and nothing else: an armed channel is released once, when the
listener has ended, and after that only signals come. The caller has left the flag store as often as
it entered it, and nothing of this hangs on what the release answers. The main statement is
`tornDownOnEveryPath`. -/
namespace FaultWatch.Race

variable {σ χ ι α ε π : Type} {port : Port σ χ ι} {setup : Setup} {s : State σ χ α ε π}
  {events : List (Event ι α ε π)} {deeds : List (Deed σ χ ι α ε π)} {p : σ}
  {store : SafeguardStore}

theorem windowChannel {there opening closing next : State σ χ α ε π}
    {before during after : List (Deed σ χ ι α ε π)} {opened last : χ}
    {answer : Except ChannelFailure Unit}
    (window : Window deeds before during after opened last answer)
    (service : Service port setup (start p store) there opening closing next s before during after
      opened last answer) :
    channelAfter (before ++ .arm (.ok opened) :: during) = some last := by
  have unreleased : ∀ d ∈ before ++ .arm (.ok opened) :: during, d.isDisarm = false := by
    intro d member
    rcases List.mem_append.mp member with early | late
    · exact (window.once d (by simp [early])).2
    · rcases List.mem_cons.mp late with rfl | inside
      · rfl
      · exact (window.once d (by simp [inside])).2
  have reached := reachedJoin (service.earlier.move service.arming) service.meanwhile
  rw [← List.append_cons] at reached
  rw [← channelTold reached unreleased, service.released.1]

theorem tornDownOnEveryPath (ran : run port setup (start p store) events = some s)
    (complete : s.isOver = true) :
    let deeds := trace port setup (start p store) events
    (s.channel, s.port) = deeds.foldl (carry port setup.mask) (none, p) ∧
    ((∃ error, s.caller = .returned (.error (.registration error)) ∧
        .arm (.error error) ∈ deeds ∧ (∀ d ∈ deeds, d.isDisarm = false) ∧ .operate ∉ deeds ∧
        s.worker = .absent ∧
        ∃ here next before after, deeds = before ++ .arm (.error error) :: after ∧
          TurnedAway port setup (start p store) here next s before after error) ∨
      (∃ before during after opened last answer,
        Window deeds before during after opened last answer ∧
        channelAfter (before ++ .arm (.ok opened) :: during) = some last ∧
        s.listener = .ended ∧
        ∃ there opening closing next,
          Service port setup (start p store) there opening closing next s before during after
            opened last answer)) ∧
    (∀ others, othersAfter store.holders deeds = some others → s.flags.holders = others) ∧
    (store.holders = 0 → s.flags.holders = 0 → s.flags.current = store.current) ∧
    ∀ release, ∃ other,
      run (releasing port release) setup (start p store) events = some other ∧
      other.caller = s.caller := by
  intro deeds
  have reached : Reached port setup (start p store) s deeds :=
    reachedExact.mpr ⟨events, ran, rfl⟩
  refine ⟨carriedReached reached, ?_, ?_, ?_, releaseForgotten ran⟩
  · obtain ⟨error, here, listed⟩ | ⟨before, during, after, opened, last, answer, window⟩ :=
      overWindow reached complete
    · obtain ⟨refused, unreleased, idle, absent⟩ := turnedAwayIdle reached listed
      exact .inl ⟨error, here, refused, unreleased, idle, absent, turnedAwayCut reached listed⟩
    · obtain ⟨there, opening, closing, next, service⟩ := windowService reached window
      refine .inr ⟨before, during, after, opened, last, answer, window,
        windowChannel window service, joinedEnded reached ?_, there, opening, closing, next,
        service⟩
      rw [window.cut]
      simp [window.joined]
  · intro others matched
    have held := holdersTold reached matched
    obtain ⟨ending, here⟩ | ⟨reason, here⟩ := overCases complete
    · simpa [here, Caller.inside] using held
    · simpa [here, Caller.inside] using held
  · intro freeBefore freeAfter
    have kept := keptTold reached
    rwa [← SafeguardStore.currentOfFree freeAfter, start,
      ← SafeguardStore.currentOfFree freeBefore] at kept

def jammed : Stage := ⟨.fresh, some (.ofScript none (some (.release "gone")) [.timeout])⟩

def panicking : List (Event Loopback.Signal Unit Unit String) :=
  [.caller, .caller, .caller, .othersEnter .relaxed, .caller, .listener, .listener, .listener,
    .finish (.panicked "boom"), .worker, .caller, .caller, .listener, .caller, .caller, .caller,
    .caller, .caller]

theorem jammedReleaseTornDown :
    let setup := Setup.of [.syscall] .default
    let first : State Stage StageChannel Unit Unit String := start jammed (.holding .strict)
    ∃ s, run Stage.port setup first panicking = some s ∧
      s.ending? = some (.panic "boom") ∧ s.listener = .ended ∧ s.flags.holders = 1 ∧
      s.port.script.map ScriptedPort.disarms = some 1 ∧
      ∃ before closing left next, Reached Stage.port setup first closing before ∧
        closing.listener = .ended ∧ closing.channel = some .scripted ∧
        Stage.port.disarm .scripted closing.port = (.error (.release "gone"), left, next) := by
  intro setup first
  have asked : (trace Stage.port setup first panicking).filter Deed.isDisarm =
      [.disarm .scripted (.error (.release "gone"))] := rfl
  obtain ⟨s, ran, complete, returned, started, counted⟩ : ∃ s,
      run Stage.port setup first panicking = some s ∧
        s.isOver = true ∧ s.ending? = some (.panic "boom") ∧ s.worker ≠ .absent ∧
        s.port.script.map ScriptedPort.disarms = some 1 :=
    ⟨_, rfl, rfl, rfl, nofun, rfl⟩
  obtain ⟨_, torn, holders, _⟩ := tornDownOnEveryPath ran complete
  obtain ⟨_, _, _, _, _, idle, _⟩ |
    ⟨_, _, _, _, last, answer, window, _, ended, _, _, closing, next, service⟩ := torn
  · exact absurd idle started
  have mine : .disarm last answer ∈
      (trace Stage.port setup first panicking).filter Deed.isDisarm := by
    refine List.mem_filter.mpr ⟨?_, rfl⟩
    rw [window.cut]
    simp
  rw [asked, List.mem_singleton] at mine
  cases mine
  obtain ⟨held, left, released, _⟩ := service.released
  exact ⟨s, ran, returned, ended, holders 1 rfl, counted, _, closing, left, next.port,
    reachedJoin (service.earlier.move service.arming) service.meanwhile, service.ended, held,
    released⟩

end FaultWatch.Race
