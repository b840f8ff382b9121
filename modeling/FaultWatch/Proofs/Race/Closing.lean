import FaultWatch.Catch.ScriptedPort
import FaultWatch.Proofs.Race.Holders
import FaultWatch.Proofs.Race.Window

/-! The closing action of a call. A call that was refused its channel or its worker has none. Any
other runs it once: by then its token is set, its listener joined, its channel released and its hold
on the flag store given back, and nothing has been handed to its caller. The main statement is
`closesOnceTornDown`. -/
namespace FaultWatch.Race

variable {σ χ ι α ε π : Type} {port : Port σ χ ι} {setup : Setup} {s here next : State σ χ α ε π}
  {event : Event ι α ε π} {d : Deed σ χ ι α ε π} {events : List (Event ι α ε π)}
  {deeds before after : List (Deed σ χ ι α ε π)} {p : σ} {store : SafeguardStore}

theorem cancelledMove (made : Move port setup s event d next)
    (told : s.cancelled = true ∨ d = .cancel) : next.cancelled = true := by
  cases made with
  | cancel | selfCancel => rfl
  | _ => simpa [State.offer] using told

theorem cancelTold (reached : Reached port setup (start p store) s deeds)
    (told : .cancel ∈ deeds) : s.cancelled = true :=
  everSince (P := fun s => s.cancelled = true) reached told
    (fun made => cancelledMove made (.inr rfl)) fun made told => cancelledMove made (.inl told)

theorem closeScript (reached : Reached port setup (start p store) s deeds)
    (complete : s.isOver = true) :
    (s.worker = .absent ∧ .close ∉ deeds) ∨
      ∃ channel verdict last answer,
        deeds.filter Deed.isCaller =
          (raced channel (.decided verdict) ++ [.cancel, .join, .disarm last answer, .leave]) ++
            .close :: [.handBack] := by
  have script := callerScript reached
  have idle : (.operate ∉ deeds.filter Deed.isCaller ∧ .close ∉ deeds.filter Deed.isCaller) →
      s.worker = .absent ∧ .close ∉ deeds := by
    rintro ⟨unstarted, unclosed⟩
    rw [inScript rfl] at unstarted unclosed
    exact ⟨(operateFirst reached).mpr unstarted, unclosed⟩
  generalize deeds.filter Deed.isCaller = listed at script idle ⊢
  obtain ⟨ending, ended⟩ | ⟨reason, ended⟩ := overCases complete
  · rw [ended] at script
    cases script with
    | turnedAway => exact .inl (idle (by simp))
    | @returned channel verdict last answer =>
      exact .inr ⟨channel, verdict, last, answer, by simp⟩
  · rw [ended] at script
    cases script with
    | gaveUp => exact .inl (idle (by simp [raced, Outcome.deeds]))

/-- A run cut at its closing action. -/
structure Closing (port : Port σ χ ι) (setup : Setup) (first here next s : State σ χ α ε π)
    (before after : List (Deed σ χ ι α ε π)) : Prop where
  earlier : Reached port setup first here before
  made : Move port setup here .caller .close next
  later : Reached port setup next s after
  once : .close ∉ before ∧ .close ∉ after
  told : .cancel ∈ before
  joined : .join ∈ before
  released : ∃ last answer, .disarm last answer ∈ before
  left : .leave ∈ before
  returns : .handBack ∉ before ∧ .handBack ∈ after

theorem closeMove (made : Move port setup s event .close next) :
    event = .caller ∧ s.caller.inside = false ∧ s.ending? = none ∧ next.ending? = none := by
  cases made with
  | close here => simp [here, Caller.inside, State.ending?]

theorem scriptClosing (reached : Reached port setup (start p store) s deeds) {channel last : χ}
    {verdict : Verdict α ε π} {answer : Except ChannelFailure Unit}
    (listed : deeds.filter Deed.isCaller =
      (raced channel (.decided verdict) ++ [.cancel, .join, .disarm last answer, .leave]) ++
        .close :: [.handBack]) :
    ∃ here next before after, deeds = before ++ .close :: after ∧
      Closing port setup (start p store) here next s before after := by
  obtain ⟨before, after, rfl, atBefore, atAfter⟩ := cutFilter listed
  obtain ⟨here, event, next, earlier, made, later⟩ := reachedCut reached
  obtain ⟨rfl, _⟩ := closeMove made
  have mine : ∀ d ∈ raced channel (.decided verdict) ++
      [.cancel, .join, .disarm last answer, .leave], d ∈ before := by
    intro d member
    rw [← atBefore] at member
    exact (List.mem_filter.mp member).1
  refine ⟨here, next, before, after, rfl, earlier, made, later, ⟨?_, ?_⟩, mine _ (by simp),
    mine _ (by simp), ⟨last, answer, mine _ (by simp)⟩, mine _ (by simp), ?_, ?_⟩
  · rw [← inScript rfl, atBefore]
    simp [raced, Outcome.deeds]
  · rw [← inScript rfl, atAfter]
    simp
  · rw [← inScript rfl, atBefore]
    simp [raced, Outcome.deeds]
  · rw [← inScript rfl, atAfter]
    simp

theorem closesOnceTornDown (ran : run port setup (start p store) events = some s)
    (complete : s.isOver = true) :
    let deeds := trace port setup (start p store) events
    (∀ error, .arm (.error error) ∈ deeds → .close ∉ deeds) ∧
    (s.worker = .absent → .close ∉ deeds) ∧
    (s.worker ≠ .absent → ∃ here next before after, deeds = before ++ .close :: after ∧
      Closing port setup (start p store) here next s before after ∧
      here.cancelled = true ∧ here.listener = .ended ∧
      (∀ others, othersAfter store.holders before = some others → here.flags.holders = others) ∧
      here.ending? = none ∧ next.ending? = none) := by
  intro deeds
  have reached : Reached port setup (start p store) s deeds :=
    reachedExact.mpr ⟨events, ran, rfl⟩
  obtain ⟨unstarted, unclosed⟩ | ⟨channel, verdict, last, answer, listed⟩ :=
    closeScript reached complete
  · exact ⟨fun _ _ => unclosed, fun _ => unclosed, fun started => absurd unstarted started⟩
  obtain ⟨here, next, before, after, cut, closing⟩ := scriptClosing reached listed
  have started : s.worker ≠ .absent := by
    rw [ne_eq, operateFirst reached, ← inScript rfl, listed]
    simp [raced, Outcome.deeds]
  refine ⟨fun error refused => ?_, fun unstarted => absurd unstarted started, fun _ =>
    ⟨here, next, before, after, cut, closing, cancelTold closing.earlier closing.told,
      joinedEnded closing.earlier closing.joined, ?_, ?_⟩⟩
  · rw [← inScript rfl, listed] at refused
    simp [raced, Outcome.deeds] at refused
  · intro others matched
    have held := holdersTold closing.earlier matched
    rwa [(closeMove closing.made).2.1] at held
  · exact (closeMove closing.made).2.2

def stuck : Stage :=
  ⟨.fresh, some (.ofScript none (some (.release "busy")) [.fault ⟨.syscall, some 3, none⟩])⟩

def overtaken : List (Event Loopback.Signal Unit Unit String) :=
  [.caller, .caller, .caller, .caller, .listener, .listener, .listener, .listener, .caller, .caller,
    .caller, .caller, .caller, .finish (.panicked "late"), .caller, .worker, .caller]

theorem overtakenCloses :
    let first := start stuck (.holding .strict)
    ∃ s before after, run Stage.port (.of [.syscall] .default) first overtaken = some s ∧
      s.ending? = some (.error (.fault (.syscall ⟨3⟩))) ∧
      trace Stage.port (.of [.syscall] .default) first overtaken = before ++ .close :: after ∧
      (.close ∉ before ∧ .close ∉ after) ∧ .leave ∈ before ∧ .handBack ∈ after := by
  intro first
  obtain ⟨s, ran, complete, returned, started⟩ : ∃ s,
      run Stage.port (.of [.syscall] .default) first overtaken = some s ∧ s.isOver = true ∧
        s.ending? = some (.error (.fault (.syscall ⟨3⟩))) ∧ s.worker ≠ .absent :=
    ⟨_, rfl, rfl, rfl, nofun⟩
  obtain ⟨_, _, closes⟩ := closesOnceTornDown ran complete
  obtain ⟨here, next, before, after, cut, closing, _⟩ := closes started
  exact ⟨s, before, after, ran, returned, cut, closing.once, closing.left, closing.returns.2⟩

end FaultWatch.Race
