import FaultWatch.Proofs.Race.Queue

/-! One winner decides a call. What the caller gets is told by the first offer alone, which is how
the operation ended or what the listener heard; an offer that comes later is refused, and nothing
but the thread that made it takes notice. The main statement is `firstOfferDecides`. -/
namespace FaultWatch.Race

variable {σ χ ι α ε π : Type}

inductive Decides (decoder : Decoder) (deeds : List (Deed σ χ ι α ε π)) :
    Verdict α ε π → Ending α ε π → Prop
  | value {value} (ended : finished deeds = [.returned value]) :
      Decides decoder deeds (.operation (.returned value)) (.value value)
  | error {error} (ended : finished deeds = [.failed error]) :
      Decides decoder deeds (.operation (.failed error)) (.error (.operation error))
  | panic {payload} (ended : finished deeds = [.panicked payload]) :
      Decides decoder deeds (.operation (.panicked payload)) (.panic payload)
  | fault {raw fault} (got : heard deeds = [.fault raw])
      (known : decoder.decode? raw = some fault) :
      Decides decoder deeds (.fault raw) (.error (.fault fault))
  | unrecognized {raw} (got : heard deeds = [.fault raw]) (unknown : decoder.decode? raw = none) :
      Decides decoder deeds (.fault raw) (.error (.unrecognized raw))
  | broken {error} (got : heard deeds = [.listenerFailed error]) :
      Decides decoder deeds (.listenerFailed error) (.error (.registration error))

variable {port : Port σ χ ι} {setup : Setup} {s next : State σ χ α ε π} {event : Event ι α ε π}
  {d : Deed σ χ ι α ε π} {deeds : List (Deed σ χ ι α ε π)} {verdict : Verdict α ε π}
  {ending : Ending α ε π} {p : σ} {store : SafeguardStore}

theorem offerRefused (made : Move port setup s event d next)
    (refused : d.offer? = some (verdict, false)) :
    next = { s with listener := next.listener, worker := next.worker } := by
  have closed : s.decision.accepts = false → s.decision.decided = true := by
    simp [Decision.accepts]
  cases made with
  | offerHeard | offerFinish =>
    simp only [Deed.offer?, Option.some.injEq, Prod.mk.injEq] at refused
    simp only [State.offer, Decision.offerDecided (closed refused.2)]
  | _ => contradiction

theorem offerOrigin (reached : Reached port setup (start p store) s deeds) {accepted : Bool}
    (offered : (verdict, accepted) ∈ offers deeds) :
    heard deeds = [verdict] ∨
      ∃ finish, verdict = .operation finish ∧ finished deeds = [finish] := by
  obtain ⟨d, member, told⟩ := List.mem_filterMap.mp offered
  cases d with
  | offerHeard =>
    cases told
    exact .inl ((listenerHearing reached).offered (List.mem_filterMap.mpr ⟨_, member, rfl⟩))
  | offerFinish finish =>
    cases told
    exact .inr ⟨finish, rfl,
      (workerWorking reached).offered (List.mem_filterMap.mpr ⟨_, member, rfl⟩)⟩
  | _ => contradiction

theorem heardReceived (got : verdict ∈ heard deeds) :
    (∃ raw, verdict = .fault raw) ∨ ∃ error, verdict = .listenerFailed error := by
  obtain ⟨d, _, told⟩ := List.mem_filterMap.mp got
  cases d with
  | receive answer channel =>
    cases answer with
    | ok raw => exact .inl ⟨raw, (Option.some.inj told).symm⟩
    | error failure =>
      cases failure with
      | timedOut => contradiction
      | failed error => exact .inr ⟨error, (Option.some.inj told).symm⟩
  | _ => contradiction

theorem decidesOffer (reached : Reached port setup (start p store) s deeds) {accepted : Bool}
    (offered : (verdict, accepted) ∈ offers deeds) (decoder : Decoder) :
    Decides decoder deeds verdict (verdict.ending decoder) := by
  obtain got | ⟨finish, rfl, ended⟩ := offerOrigin reached offered
  · have there : verdict ∈ heard deeds := by simp [got]
    obtain ⟨raw, rfl⟩ | ⟨error, rfl⟩ := heardReceived there
    · cases known : decoder.decode? raw with
      | some fault => simpa [Verdict.ending, CatchFailure.ofFault, known] using .fault got known
      | none => simpa [Verdict.ending, CatchFailure.ofFault, known] using .unrecognized got known
    · exact .broken got
  · cases finish with
    | returned value => exact .value ended
    | failed error => exact .error ended
    | panicked payload => exact .panic ended

theorem returnedHow (reached : Reached port setup (start p store) s deeds)
    (returned : s.ending? = some ending) :
    (∃ error, ending = .error (.registration error) ∧
        deeds.filter Deed.isCaller = [.enter, .arm (.error error), .leave]) ∨
      ∃ verdict, .take verdict ∈ deeds ∧ ending = verdict.ending setup.decoder := by
  have script := callerScript reached
  have mine : ∀ verdict, .take verdict ∈ deeds.filter Deed.isCaller → .take verdict ∈ deeds :=
    fun verdict => (inScript rfl).mp
  unfold State.ending? at returned
  split at returned
  · next here =>
    cases returned
    rw [here] at script
    generalize deeds.filter Deed.isCaller = listed at script mine ⊢
    cases script with
    | turnedAway => exact .inl ⟨_, rfl, rfl⟩
    | @returned channel verdict =>
      exact .inr ⟨verdict, mine verdict (by simp [raced, Outcome.deeds]), rfl⟩
  · contradiction

theorem endingOver (returned : s.ending? = some ending) : s.isOver = true := by
  unfold State.ending? at returned
  split at returned
  · next here => simp [State.isOver, here]
  · contradiction

theorem tookFirst (reached : Reached port setup (start p store) s deeds)
    (took : .take verdict ∈ deeds) :
    ∃ later, offers deeds = (verdict, true) :: later ∧ ∀ offer ∈ later, offer.2 = false :=
  Decision.takenIsFirst (cellTold reached) (List.mem_filterMap.mpr ⟨_, took, rfl⟩)

theorem tookWindow (reached : Reached port setup (start p store) s deeds)
    (complete : s.isOver = true) (took : .take verdict ∈ deeds) :
    ∃ before during after opened last answer,
      Window deeds before during after opened last answer := by
  obtain ⟨error, _, listed⟩ | window := overWindow reached complete
  · have mine := (inScript rfl).mpr took
    simp [listed] at mine
  · exact window

theorem filterMapPart {β : Type} {f : Deed σ χ ι α ε π → Option β}
    {part : List (Deed σ χ ι α ε π)} (inside : ∀ d ∈ part, d ∈ deeds)
    (nothing : deeds.filterMap f = []) : part.filterMap f = [] :=
  List.filterMap_eq_nil_iff.mpr fun d member =>
    List.filterMap_eq_nil_iff.mp nothing d (inside d member)

section Loopback

variable {p : Loopback} {s : State Loopback LoopbackChannel α ε π}
  {deeds : List (LoopbackDeed α ε π)} {events : List (Event Loopback.Signal α ε π)}

theorem quietHearsNothing (reached : Reached Loopback.port setup (start p store) s deeds)
    (queued : p.Queued) (complete : s.isOver = true) (took : .take verdict ∈ deeds)
    (unraised : accepted deeds = []) (unfailing : p.receiveFailures = [] ∧ scripted deeds = []) :
    heard deeds = [] := by
  obtain ⟨before, during, after, opened, last, answer, window⟩ := tookWindow reached complete took
  obtain ⟨_, _, ⟨same, _⟩, ⟨unread, faults⟩, ⟨unused, failures⟩, _⟩ :=
    windowFed reached queued window
  obtain ⟨rfl, _⟩ := window
  have unraisedThere : accepted during = [] :=
    filterMapPart (fun d member => by simp [member]) unraised
  have unfailingThere : scripted (before ++ during) = [] := by
    refine filterMapPart (fun d member => ?_) unfailing.2
    rcases List.mem_append.mp member with member | member <;> simp [member]
  rw [unraisedThere] at faults
  rw [unfailing.1, unfailingThere] at failures
  have noFault := (List.append_eq_nil_iff.mp faults.symm).1
  have noFailure := (List.append_eq_nil_iff.mp failures.symm).1
  rw [same, List.eq_nil_iff_forall_not_mem]
  intro verdict member
  obtain ⟨raw, rfl⟩ | ⟨error, rfl⟩ := heardReceived member
  · exact absurd (List.filterMap_eq_nil_iff.mp noFault _ member) (by simp [Verdict.fault?])
  · exact absurd (List.filterMap_eq_nil_iff.mp noFailure _ member) (by simp [Verdict.failure?])

theorem firstOfferDecides {ending : Ending α ε π} (used : PortUse.Reaches p)
    (ran : run Loopback.port setup (start p store) events = some s)
    (started : s.worker ≠ .absent) (returned : s.ending? = some ending) :
    let deeds := trace Loopback.port setup (start p store) events
    ∃ verdict later,
      offers deeds = (verdict, true) :: later ∧ (∀ offer ∈ later, offer.2 = false) ∧
      Decides setup.decoder deeds verdict ending ∧
      (accepted deeds = [] → p.receiveFailures = [] ∧ scripted deeds = [] →
        ∃ finish, verdict = .operation finish) ∧
      ∀ earlier event rest here next loser, events = earlier ++ event :: rest →
        run Loopback.port setup (start p store) earlier = some here →
        step Loopback.port setup here event = some next →
        (deed Loopback.port setup here event).bind Deed.offer? = some (loser, false) →
        next = { here with listener := next.listener, worker := next.worker } := by
  intro deeds
  have reached : Reached Loopback.port setup (start p store) s deeds :=
    reachedExact.mpr ⟨events, ran, rfl⟩
  obtain ⟨error, _, listed⟩ | ⟨verdict, took, rfl⟩ := returnedHow reached returned
  · exact absurd (turnedAwayIdle reached listed).2.2.2 started
  obtain ⟨later, first, lost⟩ := tookFirst reached took
  have offered : (verdict, true) ∈ offers deeds := by simp [first]
  refine ⟨verdict, later, first, lost, decidesOffer reached offered _, ?_, ?_⟩
  · intro unraised unfailing
    obtain got | ⟨finish, same, _⟩ := offerOrigin reached offered
    · rw [quietHearsNothing reached (PortUse.queuedReaches used) (endingOver returned) took unraised
        unfailing] at got
      contradiction
    · exact ⟨finish, same⟩
  · intro earlier event rest here next loser _ _ stepped refused
    obtain ⟨d, done, made⟩ := stepMove stepped
    rw [done, Option.bind_some] at refused
    exact offerRefused made refused

def outlived : List (Event Loopback.Signal Nat Unit Unit) :=
  [.caller, .caller, .caller, .caller, .signal (.raise ⟨.syscall, some 3, none⟩), .listener,
    .listener, .listener, .listener, .finish (.returned 7), .worker, .caller, .caller, .caller,
    .caller, .caller, .caller, .caller]

theorem outlivedRefused :
    let first := start Loopback.fresh (.holding .strict)
    ∃ s verdict later, run Loopback.port (.of [.syscall] .default) first outlived = some s ∧
      s.ending? = some (.error (.fault (.syscall ⟨3⟩))) ∧
      offers (trace Loopback.port (.of [.syscall] .default) first outlived) =
        (verdict, true) :: later ∧
      ∀ offer ∈ later, offer.2 = false := by
  obtain ⟨s, ran, started, returned⟩ : ∃ s,
      run Loopback.port (.of [.syscall] .default) (start Loopback.fresh (.holding .strict))
          outlived = some s ∧
        s.worker ≠ .absent ∧ s.ending? = some (.error (.fault (.syscall ⟨3⟩))) :=
    ⟨_, rfl, nofun, rfl⟩
  obtain ⟨verdict, later, first, lost, _⟩ :=
    firstOfferDecides ⟨.strict, [], rfl⟩ ran started returned
  exact ⟨s, verdict, later, ran, returned, first, lost⟩

end Loopback

end FaultWatch.Race
