import FaultWatch.Proofs.Race.Deed

/-! The moves of a race, one constructor for each thing that a step can do, guards included. Main
statements: a step is exactly a move (`stepExact`), and the states that runs reach are exactly those
that moves reach, with the deeds of the run (`reachedExact`). -/
namespace FaultWatch.Race

variable {σ χ ι α ε π : Type}

inductive Move (port : Port σ χ ι) (setup : Setup) (s : State σ χ α ε π) :
    Event ι α ε π → Deed σ χ ι α ε π → State σ χ α ε π → Prop
  | enter (here : s.caller = .ready) :
      Move port setup s .caller .enter
        { s with flags := s.flags.enter setup.flags, caller := .entered }
  | arm {channel p} (here : s.caller = .entered)
      (answer : port.arm setup.mask s.port = (.ok channel, p)) :
      Move port setup s .caller (.arm (.ok channel))
        { s with
          port := p, channel := some channel, caller := .armed,
          log := s.log ++ [.armed setup.mask] }
  | armFailed {error p} (here : s.caller = .entered)
      (answer : port.arm setup.mask s.port = (.error error, p)) :
      Move port setup s .caller (.arm (.error error)) { s with port := p, caller := .refused error }
  | turnAway {error} (here : s.caller = .refused error) :
      Move port setup s .caller .leave
        { s with flags := s.flags.leave, caller := .returned (.error (.registration error)) }
  | listen (here : s.caller = .armed) :
      Move port setup s .caller .listen { s with listener := .polling, caller := .listening }
  | operate (here : s.caller = .listening) :
      Move port setup s .caller .operate { s with worker := .running, caller := .waiting }
  | refuse {reason} (here : s.caller = .listening) :
      Move port setup s (.refuseWorker reason) (.refuse reason)
        { s with caller := .settled (.unstarted reason) }
  | take {verdict rest} (here : s.caller = .waiting)
      (took : s.decision.take? = some (verdict, rest)) :
      Move port setup s .caller (.take verdict)
        { s with
          decision := rest, caller := .settled (.decided verdict),
          log := s.log ++ [.decided (winner verdict)] }
  | cancel {outcome} (here : s.caller = .settled outcome) :
      Move port setup s .caller .cancel { s with cancelled := true, caller := .stopping outcome }
  | join {outcome} (here : s.caller = .stopping outcome) (ended : s.listener = .ended) :
      Move port setup s .caller .join { s with caller := .joined outcome }
  | disarm {outcome channel answer after p} (here : s.caller = .joined outcome)
      (held : s.channel = some channel)
      (released : port.disarm channel s.port = (answer, after, p)) :
      Move port setup s .caller (.disarm channel answer)
        { s with
          port := p, channel := some after, caller := .released outcome,
          log := s.log ++ releaseLog answer }
  | leave {verdict} (here : s.caller = .released (.decided verdict)) :
      Move port setup s .caller .leave
        { s with
          flags := s.flags.leave, caller := .tornDown verdict, log := s.log ++ [.tornDown] }
  | giveUp {reason} (here : s.caller = .released (.unstarted reason)) :
      Move port setup s .caller .leave { s with flags := s.flags.leave, caller := .gaveUp reason }
  | close {verdict} (here : s.caller = .tornDown verdict) :
      Move port setup s .caller .close { s with caller := .closed verdict }
  | handBack {verdict} (here : s.caller = .closed verdict) :
      Move port setup s .caller .handBack
        { s with
          caller := .returned (verdict.ending setup.decoder),
          log := s.log ++ closingLog setup verdict }
  | stop (here : s.listener = .polling) (told : s.cancelled = true) :
      Move port setup s .listener (.poll true) { s with listener := .ended }
  | commit (here : s.listener = .polling) (untold : s.cancelled = false) :
      Move port setup s .listener (.poll false) { s with listener := .committed }
  | ask (here : s.listener = .committed) :
      Move port setup s .listener .ask { s with listener := .receiving }
  | hear {channel raw after p} (here : s.listener = .receiving) (held : s.channel = some channel)
      (answer : port.receive channel s.port = (.ok raw, after, p)) :
      Move port setup s .listener (.receive (.ok raw) after)
        { s with port := p, channel := some after, listener := .offering (.fault raw) }
  | timeOut {channel after p} (here : s.listener = .receiving) (held : s.channel = some channel)
      (answer : port.receive channel s.port = (.error .timedOut, after, p)) :
      Move port setup s .listener (.receive (.error .timedOut) after)
        { s with port := p, channel := some after, listener := .polling }
  | breakDown {channel error after p} (here : s.listener = .receiving)
      (held : s.channel = some channel)
      (answer : port.receive channel s.port = (.error (.failed error), after, p)) :
      Move port setup s .listener (.receive (.error (.failed error)) after)
        { s with port := p, channel := some after, listener := .offering (.listenerFailed error) }
  | offerHeard {verdict} (here : s.listener = .offering verdict) :
      Move port setup s .listener (.offerHeard verdict s.decision.accepts)
        { s.offer verdict with listener := .ended }
  | offerFinish {finish} (here : s.worker = .offering finish) :
      Move port setup s .worker (.offerFinish finish s.decision.accepts)
        { s.offer (.operation finish) with worker := .ended s.decision.accepts }
  | finish {finish} (here : s.worker = .running) :
      Move port setup s (.finish finish) (.finish finish) { s with worker := .offering finish }
  | selfCancel (here : s.worker ≠ .absent) :
      Move port setup s .cancel .selfCancel { s with cancelled := true }
  | signal {signal} :
      Move port setup s (.signal signal) (.signal signal s.port)
        { s with port := port.signal signal s.port }
  | othersEnter {flags} :
      Move port setup s (.othersEnter flags) (.othersEnter flags)
        { s with flags := s.flags.enter flags }
  | othersLeave :
      Move port setup s .othersLeave .othersLeave { s with flags := s.flags.leave }

variable {port : Port σ χ ι} {setup : Setup} {s next first : State σ χ α ε π}
  {event : Event ι α ε π}

theorem callerMove (ok : callerStep port setup s = some next) :
    ∃ d, callerDeed port setup s = some d ∧ Move port setup s .caller d next := by
  unfold callerStep at ok
  split at ok
  case h_1 here =>
    cases ok
    exact ⟨_, by simp only [callerDeed, here], .enter here⟩
  case h_2 here =>
    split at ok
    · next answer =>
      cases ok
      exact ⟨_, by simp only [callerDeed, here, answer], .arm here answer⟩
    · next answer =>
      cases ok
      exact ⟨_, by simp only [callerDeed, here, answer], .armFailed here answer⟩
  case h_3 here =>
    cases ok
    exact ⟨_, by simp only [callerDeed, here], .turnAway here⟩
  case h_4 here =>
    cases ok
    exact ⟨_, by simp only [callerDeed, here], .listen here⟩
  case h_5 here =>
    cases ok
    exact ⟨_, by simp only [callerDeed, here], .operate here⟩
  case h_6 here =>
    split at ok
    · next verdict rest took =>
      cases ok
      obtain ⟨value, found, same⟩ := Option.map_eq_some_iff.mp took
      cases same
      exact ⟨_, by simp only [callerDeed, here, found, Option.map_some], .take here took⟩
    · contradiction
  case h_7 here =>
    cases ok
    exact ⟨_, by simp only [callerDeed, here], .cancel here⟩
  case h_8 here =>
    split at ok
    · next ended =>
      cases ok
      exact ⟨_, by simp only [callerDeed, here], .join here ended⟩
    · contradiction
  case h_9 here =>
    split at ok
    · next channel held =>
      cases ok
      exact ⟨_, by simp only [callerDeed, here, held, Option.map_some], .disarm here held rfl⟩
    · contradiction
  case h_10 here =>
    cases ok
    exact ⟨_, by simp only [callerDeed, here], .leave here⟩
  case h_11 here =>
    cases ok
    exact ⟨_, by simp only [callerDeed, here], .giveUp here⟩
  case h_12 here =>
    cases ok
    exact ⟨_, by simp only [callerDeed, here], .close here⟩
  case h_13 here =>
    cases ok
    exact ⟨_, by simp only [callerDeed, here], .handBack here⟩
  all_goals contradiction

theorem listenerMove (ok : listenerStep port s = some next) :
    ∃ d, listenerDeed port s = some d ∧ Move port setup s .listener d next := by
  unfold listenerStep at ok
  split at ok
  case h_2 here =>
    cases ok
    by_cases told : s.cancelled = true
    · refine ⟨.poll true, by simp only [listenerDeed, here, told], ?_⟩
      rw [if_pos told]
      exact .stop here told
    · have untold := Bool.eq_false_iff.mpr told
      refine ⟨.poll false, by simp only [listenerDeed, here, untold], ?_⟩
      rw [if_neg told]
      exact .commit here untold
  case h_3 here =>
    cases ok
    exact ⟨_, by simp only [listenerDeed, here], .ask here⟩
  case h_4 here =>
    split at ok
    · next channel held =>
      split at ok
      · next answer =>
        cases ok
        exact ⟨_, by simp only [listenerDeed, here, held, Option.map_some, answer],
          .hear here held answer⟩
      · next answer =>
        cases ok
        exact ⟨_, by simp only [listenerDeed, here, held, Option.map_some, answer],
          .timeOut here held answer⟩
      · next answer =>
        cases ok
        exact ⟨_, by simp only [listenerDeed, here, held, Option.map_some, answer],
          .breakDown here held answer⟩
    · contradiction
  case h_5 here =>
    cases ok
    exact ⟨_, by simp only [listenerDeed, here], .offerHeard here⟩
  all_goals contradiction

theorem stepMove (ok : step port setup s event = some next) :
    ∃ d, deed port setup s event = some d ∧ Move port setup s event d next := by
  cases event with
  | caller => exact callerMove ok
  | listener => exact listenerMove ok
  | worker =>
    simp only [step, workerStep] at ok
    split at ok
    · next here =>
      cases ok
      exact ⟨_, by simp only [deed, workerDeed, here], .offerFinish here⟩
    · contradiction
  | refuseWorker reason =>
    simp only [step, refuseStep] at ok
    split at ok
    · next here =>
      cases ok
      exact ⟨_, rfl, .refuse here⟩
    · contradiction
  | finish finish =>
    simp only [step, finishStep] at ok
    split at ok
    · next here =>
      cases ok
      exact ⟨_, rfl, .finish here⟩
    · contradiction
  | cancel =>
    simp only [step, cancelStep] at ok
    split at ok
    · contradiction
    · next here =>
      cases ok
      exact ⟨_, rfl, .selfCancel here⟩
  | signal signal =>
    cases ok
    exact ⟨_, rfl, .signal⟩
  | othersEnter flags =>
    cases ok
    exact ⟨_, rfl, .othersEnter⟩
  | othersLeave =>
    cases ok
    exact ⟨_, rfl, .othersLeave⟩

theorem moveStep {d : Deed σ χ ι α ε π} (move : Move port setup s event d next) :
    step port setup s event = some next ∧ deed port setup s event = some d := by
  cases move with
  | take here took =>
    obtain ⟨value, found, same⟩ := Option.map_eq_some_iff.mp took
    cases same
    simp only [step, callerStep, deed, callerDeed, here, took, found, Option.map_some, and_self]
  | join here ended => simp only [step, callerStep, deed, callerDeed, here, ended, and_self]
  | arm here answer => simp only [step, callerStep, deed, callerDeed, here, answer, and_self]
  | armFailed here answer => simp only [step, callerStep, deed, callerDeed, here, answer, and_self]
  | disarm here held released =>
    simp only [step, callerStep, deed, callerDeed, here, held, released, Option.map_some, and_self]
  | stop here told => simp [step, listenerStep, deed, listenerDeed, here, told]
  | commit here untold => simp [step, listenerStep, deed, listenerDeed, here, untold]
  | ask here => simp only [step, listenerStep, deed, listenerDeed, here, and_self]
  | hear here held answer | timeOut here held answer | breakDown here held answer =>
    simp only [step, listenerStep, deed, listenerDeed, here, held, answer, Option.map_some,
      and_self]
  | offerHeard here => simp only [step, listenerStep, deed, listenerDeed, here, and_self]
  | offerFinish here => simp only [step, workerStep, deed, workerDeed, here, and_self]
  | refuse here => simp only [step, refuseStep, deed, here, and_self]
  | finish here => simp only [step, finishStep, deed, here, and_self]
  | selfCancel here => simp only [step, cancelStep, deed, and_self]
  | signal | othersEnter | othersLeave => exact ⟨rfl, rfl⟩
  | _ here => simp only [step, callerStep, deed, callerDeed, here, and_self]

theorem stepExact : step port setup s event = some next ↔
    ∃ d, deed port setup s event = some d ∧ Move port setup s event d next :=
  ⟨stepMove, fun ⟨_, _, move⟩ => (moveStep move).1⟩

inductive Touch (port : Port σ χ ι) (mask : Mask) : Deed σ χ ι α ε π → σ → σ → Prop
  | arm {p} : Touch port mask (.arm (port.arm mask p).1) p (port.arm mask p).2
  | receive {p} (channel : χ) :
      Touch port mask (.receive (port.receive channel p).1 (port.receive channel p).2.1) p
        (port.receive channel p).2.2
  | disarm {p} (channel : χ) :
      Touch port mask (.disarm channel (port.disarm channel p).1) p (port.disarm channel p).2.2
  | signal {p} (signal : ι) : Touch port mask (.signal signal p) p (port.signal signal p)
  | apart {p d} (off : d.onPort = false) : Touch port mask d p p

theorem moveTouch {d : Deed σ χ ι α ε π} (made : Move port setup s event d next) :
    Touch port setup.mask d s.port next.port := by
  cases made with
  | arm here answer | armFailed here answer =>
    have touch : Touch port setup.mask (_ : Deed σ χ ι α ε π) s.port _ := .arm
    rwa [answer] at touch
  | @hear channel _ _ _ here held answer | @timeOut channel _ _ here held answer
  | @breakDown channel _ _ _ here held answer =>
    have touch : Touch port setup.mask (_ : Deed σ χ ι α ε π) s.port _ := .receive channel
    rwa [answer] at touch
  | @disarm _ channel _ _ _ here held released =>
    have touch : Touch port setup.mask (_ : Deed σ χ ι α ε π) s.port _ := .disarm channel
    rwa [released] at touch
  | @signal signal => exact .signal signal
  | _ => exact .apart rfl

inductive Reached (port : Port σ χ ι) (setup : Setup) (first : State σ χ α ε π) :
    State σ χ α ε π → List (Deed σ χ ι α ε π) → Prop
  | start : Reached port setup first first []
  | move {s next event d deeds} (before : Reached port setup first s deeds)
      (made : Move port setup s event d next) : Reached port setup first next (deeds ++ [d])

theorem runCons {events : List (Event ι α ε π)} {last : State σ χ α ε π} :
    run port setup s (event :: events) = some last ↔
      ∃ next, step port setup s event = some next ∧ run port setup next events = some last :=
  Option.bind_eq_some_iff

theorem traceCons {events : List (Event ι α ε π)} {d : Deed σ χ ι α ε π}
    (move : Move port setup s event d next) :
    trace port setup s (event :: events) = d :: trace port setup next events := by
  simp [trace, moveStep move]

theorem runReached {events : List (Event ι α ε π)} {deeds}
    (reached : Reached port setup first s deeds) (ran : run port setup s events = some next) :
    Reached port setup first next (deeds ++ trace port setup s events) := by
  induction events generalizing s deeds with
  | nil =>
    cases ran
    simpa [trace] using reached
  | cons event rest ih =>
    obtain ⟨middle, ok, ran⟩ := runCons.mp ran
    obtain ⟨d, _, move⟩ := stepMove ok
    rw [traceCons move, List.append_cons]
    exact ih (.move reached move) ran

theorem runSnoc {events : List (Event ι α ε π)} {d : Deed σ χ ι α ε π}
    (ran : run port setup first events = some s) (move : Move port setup s event d next) :
    run port setup first (events ++ [event]) = some next ∧
      trace port setup first (events ++ [event]) = trace port setup first events ++ [d] := by
  induction events generalizing first with
  | nil =>
    cases ran
    exact ⟨runCons.mpr ⟨next, (moveStep move).1, rfl⟩, traceCons move⟩
  | cons head rest ih =>
    obtain ⟨middle, ok, ran⟩ := runCons.mp ran
    obtain ⟨_, _, headMove⟩ := stepMove ok
    have tail := ih ran
    refine ⟨runCons.mpr ⟨middle, ok, tail.1⟩, ?_⟩
    rw [List.cons_append, traceCons headMove, traceCons headMove, tail.2, List.cons_append]

theorem reachedRun {deeds} (reached : Reached port setup first s deeds) :
    ∃ events, run port setup first events = some s ∧ trace port setup first events = deeds := by
  induction reached with
  | start => exact ⟨[], rfl, rfl⟩
  | move before made ih =>
    obtain ⟨events, ran, told⟩ := ih
    have longer := runSnoc ran made
    exact ⟨_, longer.1, by rw [longer.2, told]⟩

theorem reachedExact {deeds} : Reached port setup first s deeds ↔
    ∃ events, run port setup first events = some s ∧ trace port setup first events = deeds := by
  constructor
  · exact reachedRun
  · rintro ⟨events, ran, told⟩
    simpa [told] using runReached .start ran

theorem reachedSplit {deeds before after}
    (reached : Reached port setup first s deeds) (split : deeds = before ++ after) :
    ∃ middle, Reached port setup first middle before ∧ Reached port setup middle s after := by
  induction reached generalizing after with
  | start =>
    obtain ⟨rfl, rfl⟩ := List.append_eq_nil_iff.mp split.symm
    exact ⟨first, .start, .start⟩
  -- The last deed of the run is the last of the second part, unless that one is empty.
  | @move s next event d deeds earlier made ih =>
    rcases List.eq_nil_or_concat after with rfl | ⟨start, last, rfl⟩
    · rw [List.append_nil] at split
      exact ⟨next, split ▸ .move earlier made, .start⟩
    · rw [List.concat_eq_append, ← List.append_assoc] at split
      obtain ⟨same, rfl⟩ := List.append_singleton_inj.mp split
      obtain ⟨middle, there, rest⟩ := ih same
      exact ⟨middle, there, by simpa [List.concat_eq_append] using rest.move made⟩

theorem reachedOne {d : Deed σ χ ι α ε π} (reached : Reached port setup first s [d]) :
    ∃ event, Move port setup first event d s := by
  obtain ⟨events, ran, told⟩ := reachedRun reached
  cases events with
  | nil => simp [trace] at told
  | cons event rest =>
    obtain ⟨middle, ok, ran⟩ := runCons.mp ran
    obtain ⟨found, _, move⟩ := stepMove ok
    rw [traceCons move] at told
    obtain ⟨rfl, empty⟩ := List.cons.inj told
    cases rest with
    | nil =>
      cases ran
      exact ⟨event, move⟩
    | cons other rest =>
      obtain ⟨_, ok, _⟩ := runCons.mp ran
      obtain ⟨_, _, move⟩ := stepMove ok
      simp [traceCons move] at empty

theorem reachedCut {d : Deed σ χ ι α ε π} {before after}
    (reached : Reached port setup first s (before ++ d :: after)) :
    ∃ here event there, Reached port setup first here before ∧
      Move port setup here event d there ∧ Reached port setup there s after := by
  obtain ⟨here, earlier, rest⟩ := reachedSplit reached rfl
  obtain ⟨there, one, later⟩ := reachedSplit rest List.singleton_append.symm
  obtain ⟨event, made⟩ := reachedOne one
  exact ⟨here, event, there, earlier, made, later⟩

theorem reachedJoin {after : List (Deed σ χ ι α ε π)} (there : Reached port setup first s deeds)
    (later : Reached port setup s next after) : Reached port setup first next (deeds ++ after) := by
  induction later with
  | start => simpa using there
  | move before made ih =>
    rw [← List.append_assoc]
    exact .move ih made

theorem everSince {P : State σ χ α ε π → Prop} {d : Deed σ χ ι α ε π}
    (reached : Reached port setup first s deeds) (listed : d ∈ deeds)
    (brings : ∀ {s next event}, Move port setup s event d next → P next)
    (keeps : ∀ {s next event e}, Move port setup s event e next → P s → P next) : P s := by
  induction reached with
  | start => contradiction
  | move before made ih =>
    rcases List.mem_append.mp listed with old | new
    · exact keeps made (ih old)
    · cases List.mem_singleton.mp new
      exact brings made

end FaultWatch.Race
