import FaultWatch.Proofs.Race.Sides

/-! The shape of a call that is over. Either arming failed and nothing else was done, or there is
one window: it opens with the arm, closes with the one release of the same channel, and the listener
is at work within it only. -/
namespace FaultWatch.Race

variable {σ χ ι α ε π : Type}

/-- The deeds of a call, cut at its arm and at its release. -/
structure Window (deeds before during after : List (Deed σ χ ι α ε π)) (opened last : χ)
    (answer : Except ChannelFailure Unit) : Prop where
  cut : deeds = before ++ .arm (.ok opened) :: (during ++ .disarm last answer :: after)
  once : ∀ d ∈ before ++ during ++ after, d.isArm = false ∧ d.isDisarm = false
  silentBefore : ∀ d ∈ before, d.isListener = false
  silentAfter : ∀ d ∈ after, d.isListener = false
  joined : .join ∈ during

variable {port : Port σ χ ι} {setup : Setup} {s next first : State σ χ α ε π}
  {event : Event ι α ε π} {d : Deed σ χ ι α ε π} {deeds : List (Deed σ χ ι α ε π)} {p : σ}
  {store : SafeguardStore}

theorem uncutFilter {part : List (Deed σ χ ι α ε π)}
    (uncut : ∀ d ∈ part.filter Deed.isCaller, d.isArm = false ∧ d.isDisarm = false) :
    ∀ d ∈ part, d.isArm = false ∧ d.isDisarm = false := by
  intro d member
  by_cases own : d.isCaller = true
  · exact uncut d ((inScript own).mpr member)
  · exact Deed.cutsAreCallers (Bool.eq_false_iff.mpr own)

theorem channelTold (reached : Reached port setup (start p store) s deeds)
    (held : ∀ d ∈ deeds, d.isDisarm = false) : s.channel = channelAfter deeds := by
  induction reached with
  | start => rfl
  | @move s next event d deeds before made ih =>
    have earlier := ih fun d member => held d (List.mem_append_left _ member)
    have kept := held d (by simp)
    rw [channelAfter, filterMapSnoc]
    cases made with
    | disarm => contradiction
    | arm | hear | timeOut | breakDown => simp [Deed.channel?]
    | _ => simpa [Deed.channel?, State.offer, channelAfter] using earlier

theorem overCases (complete : s.isOver = true) :
    (∃ ending, s.caller = .returned ending) ∨ ∃ reason, s.caller = .gaveUp reason := by
  cases here : s.caller with
  | returned ending => exact .inl ⟨ending, rfl⟩
  | gaveUp reason => exact .inr ⟨reason, rfl⟩
  | _ => simp [State.isOver, here] at complete

theorem overScript (reached : Reached port setup (start p store) s deeds)
    (complete : s.isOver = true) :
    (∃ error, s.caller = .returned (.error (.registration error)) ∧
        deeds.filter Deed.isCaller = [.enter, .arm (.error error), .leave]) ∨
      ∃ opened last answer tail, ∃ outcome : Outcome α ε π,
        deeds.filter Deed.isCaller =
          [.enter] ++ .arm (.ok opened) ::
            ((.listen :: (outcome.deeds ++ [.cancel, .join])) ++ .disarm last answer :: tail) ∧
        (tail = [.leave] ∨ tail = [.leave, .close, .handBack]) := by
  have script := callerScript reached
  generalize deeds.filter Deed.isCaller = listed at script ⊢
  obtain ⟨ending, here⟩ | ⟨reason, here⟩ := overCases complete
  · rw [here] at script
    cases script with
    | turnedAway => exact .inl ⟨_, here, rfl⟩
    | @returned channel verdict last answer =>
      exact .inr ⟨channel, last, answer, _, .decided verdict, by simp [raced], .inr rfl⟩
  · rw [here] at script
    cases script with
    | @gaveUp channel reason last answer =>
      exact .inr ⟨channel, last, answer, _, .unstarted reason, by simp [raced], .inl rfl⟩

theorem turnedAwayIdle {error : ChannelFailure}
    (reached : Reached port setup (start p store) s deeds)
    (listed : deeds.filter Deed.isCaller = [.enter, .arm (.error error), .leave]) :
    .arm (.error error) ∈ deeds ∧ (∀ d ∈ deeds, d.isDisarm = false) ∧ .operate ∉ deeds ∧
      s.worker = .absent := by
  have idle : .operate ∉ deeds := fun there => by simpa [listed] using (inScript rfl).mpr there
  refine ⟨(inScript rfl).mp (by simp [listed]), ?_, idle, (operateFirst reached).mpr idle⟩
  intro d member
  rw [← Bool.not_eq_true]
  intro released
  cases d with
  | disarm channel answer =>
    have mine := (inScript rfl).mpr member
    simp [listed] at mine
  | _ => contradiction

theorem cutFilter {deeds front back : List (Deed σ χ ι α ε π)}
    (listed : deeds.filter Deed.isCaller = front ++ d :: back) :
    ∃ before after, deeds = before ++ d :: after ∧ before.filter Deed.isCaller = front ∧
      after.filter Deed.isCaller = back := by
  obtain ⟨left, right, rfl, atLeft, atRight⟩ := List.filter_eq_append_iff.mp listed
  obtain ⟨gap, after, rfl, silent, _, atAfter⟩ := List.filter_eq_cons_iff.mp atRight
  refine ⟨left ++ gap, after, by simp, ?_, atAfter⟩
  rw [List.filter_append, atLeft, List.filter_eq_nil_iff.mpr silent, List.append_nil]

theorem overWindow (reached : Reached port setup (start p store) s deeds)
    (complete : s.isOver = true) :
    (∃ error, s.caller = .returned (.error (.registration error)) ∧
        deeds.filter Deed.isCaller = [.enter, .arm (.error error), .leave]) ∨
      ∃ before during after opened last answer,
        Window deeds before during after opened last answer := by
  refine (overScript reached complete).imp_right ?_
  rintro ⟨opened, last, answer, tail, outcome, listed, ends⟩
  obtain ⟨before, rest, rfl, atBefore, listed⟩ := cutFilter listed
  obtain ⟨during, after, rfl, atDuring, atAfter⟩ := cutFilter listed
  have joined : .join ∈ during := (inScript rfl).mp (by rw [atDuring]; simp)
  refine ⟨before, during, after, opened, last, answer, rfl, ?_, ?_, ?_, joined⟩
  · apply uncutFilter
    rw [List.filter_append, List.filter_append, atBefore, atDuring, atAfter]
    obtain rfl | rfl := ends <;> cases outcome <;>
      simp [Outcome.deeds, Deed.isArm, Deed.isDisarm]
  · obtain ⟨middle, there, _⟩ := reachedSplit reached rfl
    refine (listenerSilent there (.inl rfl) fun listed => ?_).2
    simpa [atBefore] using (inScript rfl).mpr listed
  · have cut : before ++ .arm (.ok opened) :: (during ++ .disarm last answer :: after) =
        (before ++ .arm (.ok opened) :: (during ++ [.disarm last answer])) ++ after := by simp
    obtain ⟨middle, there, later⟩ := reachedSplit reached cut
    have ended := joinedEnded there (by simp [joined])
    refine (listenerSilent later (.inr ended) fun listed => ?_).2
    have mine := (inScript rfl).mpr listed
    rw [atAfter] at mine
    obtain rfl | rfl := ends <;> simp at mine

end FaultWatch.Race
