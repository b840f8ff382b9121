import FaultWatch.Proofs.Race.Closing

/-! The token of a call. While the operation leaves its token alone, only the caller sets it, and
only with a verdict in hand, so nobody is told to stop before there is a winner. A set token stays
set. From then on the listener makes just the moves that `Listener.remaining` counts, and among
them at most the one receive that it was committed to (`Listener.pledged`); it can always make the
next, so it comes to its end. The main statement is `stopsOnceDecided`. -/
namespace FaultWatch.Race

variable {σ χ ι α ε π : Type}

def Listener.remaining : Listener α ε π → Nat
  | .committed => 3
  | .receiving => 2
  | .polling => 1
  | .offering _ => 1
  | .absent => 0
  | .ended => 0

def Listener.pledged : Listener α ε π → Nat
  | .committed => 1
  | _ => 0

def Deed.isAsk : Deed σ χ ι α ε π → Bool
  | ask => true
  | _ => false

variable {port : Port σ χ ι} {setup : Setup} {s next first : State σ χ α ε π}
  {event : Event ι α ε π} {d : Deed σ χ ι α ε π} {events : List (Event ι α ε π)}
  {deeds after : List (Deed σ χ ι α ε π)} {p : σ} {store : SafeguardStore}

theorem tracedMove (ran : run port setup s events = some next)
    (traced : d ∈ trace port setup s events) :
    ∃ event ∈ events, ∃ here there, Move port setup here event d there := by
  induction events generalizing s with
  | nil => contradiction
  | cons event rest ih =>
    obtain ⟨middle, ok, ran⟩ := runCons.mp ran
    obtain ⟨done, _, made⟩ := stepMove ok
    rw [traceCons made] at traced
    rcases List.mem_cons.mp traced with rfl | later
    · exact ⟨event, by simp, s, middle, made⟩
    · obtain ⟨other, member, found⟩ := ih ran later
      exact ⟨other, List.mem_cons_of_mem _ member, found⟩

theorem tracedRefusal {reason : String} (ran : run port setup s events = some next)
    (traced : .refuse reason ∈ trace port setup s events) : .refuseWorker reason ∈ events := by
  obtain ⟨event, member, here, there, made⟩ := tracedMove ran traced
  cases made
  exact member

theorem tracedSelfCancel (ran : run port setup s events = some next)
    (traced : .selfCancel ∈ trace port setup s events) : .cancel ∈ events := by
  obtain ⟨event, member, here, there, made⟩ := tracedMove ran traced
  cases made
  exact member

theorem cancelledTold (reached : Reached port setup (start p store) s deeds)
    (told : s.cancelled = true) : .cancel ∈ deeds ∨ .selfCancel ∈ deeds := by
  induction reached with
  | start => contradiction
  | move before made ih =>
    cases made with
    | cancel | selfCancel => simp
    | _ =>
      have earlier := ih (by simpa [State.offer] using told)
      exact earlier.imp (List.mem_append_left _) (List.mem_append_left _)

/-! By the script a caller sets the token only once it has armed, started both sides and got the
outcome that it goes on with. -/

theorem cancelScript (reached : Reached port setup (start p store) s deeds)
    (told : .cancel ∈ deeds) :
    ∃ channel outcome, ∀ d ∈ raced channel outcome, d ∈ deeds := by
  have script := callerScript reached
  have mine := (inScript rfl).mpr told
  have kept : ∀ d ∈ deeds.filter Deed.isCaller, d ∈ deeds := fun d member =>
    (List.mem_filter.mp member).1
  generalize s.caller = caller at script
  generalize deeds.filter Deed.isCaller = listed at script mine kept
  cases script with
  | @settled channel outcome => cases outcome <;> simp [raced, Outcome.deeds] at mine
  | @stopping channel outcome | @joined channel outcome | @released channel outcome =>
    exact ⟨channel, outcome, fun d member => kept d (List.mem_append_left _ member)⟩
  | @tornDown channel verdict | @closed channel verdict | @returned channel verdict =>
    exact ⟨channel, .decided verdict, fun d member => kept d (List.mem_append_left _ member)⟩
  | @gaveUp channel reason =>
    exact ⟨channel, .unstarted reason, fun d member => kept d (List.mem_append_left _ member)⟩
  | _ => simp at mine

theorem cancelledDecided (reached : Reached port setup (start p store) s deeds)
    (manned : ∀ reason, .refuse reason ∉ deeds) (told : .cancel ∈ deeds) :
    s.isDecided = true ∧ ∃ verdict, (verdict, true) ∈ offers deeds := by
  obtain ⟨channel, outcome, there⟩ := cancelScript reached told
  cases outcome with
  | unstarted reason => exact absurd (there _ (by simp [raced, Outcome.deeds])) (manned reason)
  | decided verdict =>
    have took : .take verdict ∈ deeds := there _ (by simp [raced, Outcome.deeds])
    have taken : verdict ∈ deeds.filterMap Deed.take? := List.mem_filterMap.mpr ⟨_, took, rfl⟩
    obtain ⟨later, first, _⟩ := Decision.takenIsFirst (cellTold reached) taken
    exact ⟨Decision.takenDecided (cellTold reached) taken, verdict, by simp [first]⟩

theorem overCancelled (reached : Reached port setup (start p store) s deeds)
    (complete : s.isOver = true) (started : s.worker ≠ .absent) : s.cancelled = true := by
  obtain ⟨error, _, listed⟩ | ⟨opened, last, answer, tail, outcome, listed, _⟩ :=
    overScript reached complete
  · exact absurd (turnedAwayIdle reached listed).2.2.2 started
  · refine cancelTold reached ((inScript rfl).mp ?_)
    rw [listed]
    simp

theorem cancelledRun (later : Reached port setup s next after) (told : s.cancelled = true) :
    next.cancelled = true := by
  induction later with
  | start => exact told
  | move before made ih => exact cancelledMove made (.inl ih)

theorem listenTold (reached : Reached port setup first s deeds) (listed : .listen ∈ deeds) :
    s.listener ≠ .absent := by
  refine everSince (P := fun s => s.listener ≠ .absent) reached listed (fun made => ?_)
    fun made there => ?_
  · cases made
    simp
  · cases made <;> simp_all [State.offer]

theorem armTold {channel : χ} (reached : Reached port setup first s deeds)
    (armed : .arm (.ok channel) ∈ deeds) : s.channel.isSome = true := by
  refine everSince (P := fun s => s.channel.isSome = true) reached armed (fun made => ?_)
    fun made there => ?_
  · cases made
    rfl
  · cases made <;> simp_all [State.offer]

theorem remainingMove (made : Move port setup s event d next) (told : s.cancelled = true)
    (unlisted : d ≠ .listen) :
    [d].countP Deed.isListener + next.listener.remaining = s.listener.remaining ∧
      [d].countP Deed.isAsk + next.listener.pledged = s.listener.pledged := by
  cases made with
  | listen => contradiction
  | commit here untold => rw [told] at untold; contradiction
  | stop here | ask here | hear here | timeOut here | breakDown here | offerHeard here =>
    simp [here, Deed.isListener, Deed.isAsk, Listener.remaining, Listener.pledged, List.countP_cons]
  | _ => simp [Deed.isListener, Deed.isAsk, State.offer]

theorem remainingRun (earlier : Reached port setup (start p store) s deeds)
    (later : Reached port setup s next after) (told : s.cancelled = true)
    (listed : .listen ∈ deeds) :
    after.countP Deed.isListener + next.listener.remaining = s.listener.remaining ∧
      after.countP Deed.isAsk + next.listener.pledged = s.listener.pledged := by
  induction later with
  | start => simp
  | @move here next event d after before made ih =>
    have there := reachedJoin earlier before
    have unlisted : d ≠ .listen := by
      rintro rfl
      exact listenTold there (List.mem_append_left _ listed) (listenFirst there made).1
    have one := remainingMove made (cancelledRun before told) unlisted
    rw [List.countP_append, List.countP_append]
    omega

theorem remainingNext (told : s.cancelled = true) (held : s.channel.isSome = true)
    {rest : Nat} (remaining : s.listener.remaining = rest + 1) :
    ∃ there, step port setup s .listener = some there ∧ there.cancelled = true ∧
      there.channel.isSome = true ∧ there.listener ≠ .absent ∧
      there.listener.remaining = rest := by
  obtain ⟨channel, holds⟩ := Option.isSome_iff_exists.mp held
  have moved {d : Deed σ χ ι α ε π} {next : State σ χ α ε π}
      (move : Move port setup s .listener d next) : step port setup s .listener = some next :=
    (moveStep move).1
  cases here : s.listener with
  | absent | ended =>
    rw [here] at remaining
    contradiction
  | polling =>
    rw [here] at remaining
    exact ⟨_, moved (.stop here told), told, held, nofun, Nat.succ.inj remaining⟩
  | committed =>
    rw [here] at remaining
    exact ⟨_, moved (.ask here), told, held, nofun, Nat.succ.inj remaining⟩
  | offering verdict =>
    rw [here] at remaining
    exact ⟨_, moved (.offerHeard here), told, held, nofun, Nat.succ.inj remaining⟩
  | receiving =>
    rw [here] at remaining
    have left := Nat.succ.inj remaining
    rcases answer : port.receive channel s.port with ⟨(_ | error) | raw, after, p⟩
    · exact ⟨_, moved (.timeOut here holds answer), told, rfl, nofun, left⟩
    · exact ⟨_, moved (.breakDown here holds answer), told, rfl, nofun, left⟩
    · exact ⟨_, moved (.hear here holds answer), told, rfl, nofun, left⟩

theorem listenerEnds (told : s.cancelled = true) (held : s.channel.isSome = true)
    (present : s.listener ≠ .absent) :
    ∃ last, run port setup s (List.replicate s.listener.remaining .listener) = some last ∧
      last.listener = .ended := by
  generalize remaining : s.listener.remaining = count
  induction count generalizing s with
  | zero =>
    refine ⟨s, rfl, ?_⟩
    cases here : s.listener with
    | ended => rfl
    | absent => exact absurd here present
    | _ => simp [here, Listener.remaining] at remaining
  | succ rest ih =>
    obtain ⟨there, moved, told, held, present, remaining⟩ := remainingNext told held remaining
    obtain ⟨last, ran, ended⟩ := ih told held present remaining
    exact ⟨last, runCons.mpr ⟨there, moved, ran⟩, ended⟩

theorem stopsOnceDecided (ran : run port setup (start p store) events = some s)
    (polite : .cancel ∉ events) (manned : ∀ reason, .refuseWorker reason ∉ events) :
    let deeds := trace port setup (start p store) events
    (s.cancelled = true → s.isDecided = true ∧ ∃ verdict, (verdict, true) ∈ offers deeds) ∧
    (s.isOver = true → s.worker ≠ .absent → s.cancelled = true) ∧
    ∀ rest next, s.cancelled = true → run port setup s rest = some next →
      let after := trace port setup s rest
      next.cancelled = true ∧
      after.countP Deed.isAsk ≤ s.listener.pledged ∧
      after.countP Deed.isListener + next.listener.remaining = s.listener.remaining ∧
      ∃ last, run port setup next (List.replicate next.listener.remaining .listener) = some last ∧
        last.listener = .ended := by
  intro deeds
  have reached : Reached port setup (start p store) s deeds := reachedExact.mpr ⟨events, ran, rfl⟩
  have cancels : s.cancelled = true → .cancel ∈ deeds := by
    intro told
    exact (cancelledTold reached told).resolve_right fun own => polite (tracedSelfCancel ran own)
  refine ⟨fun told => ?_, overCancelled reached, ?_⟩
  · exact cancelledDecided reached (fun reason refused => manned reason (tracedRefusal ran refused))
      (cancels told)
  · intro rest next told went after
    have later : Reached port setup s next after := reachedExact.mpr ⟨rest, went, rfl⟩
    have whole := reachedJoin reached later
    obtain ⟨channel, outcome, there⟩ := cancelScript reached (cancels told)
    have armed : .arm (.ok channel) ∈ deeds := there _ (by simp [raced])
    have listed : .listen ∈ deeds := there _ (by simp [raced])
    have still := cancelledRun later told
    obtain ⟨moves, asks⟩ := remainingRun reached later told listed
    refine ⟨still, by omega, moves, listenerEnds still ?_ ?_⟩
    · exact armTold whole (List.mem_append_left _ armed)
    · exact listenTold whole (List.mem_append_left _ listed)

def beaten : List (Event Loopback.Signal Nat Unit Unit) :=
  [.caller, .caller, .caller, .caller, .finish (.returned 7), .worker, .listener, .caller, .caller]

theorem beatenStops :
    let first := start Loopback.fresh (.holding .strict)
    let setup := Setup.of [.syscall] .default
    ∃ s next last, run Loopback.port setup first beaten = some s ∧ s.listener = .committed ∧
      s.isDecided = true ∧ run Loopback.port setup s [.listener, .listener] = some next ∧
      (trace Loopback.port setup s [.listener, .listener]).countP Deed.isAsk ≤ 1 ∧
      run Loopback.port setup next [.listener] = some last ∧ last.listener = .ended := by
  intro first setup
  obtain ⟨s, ran, told, committed, next, went, polls⟩ : ∃ s,
      run Loopback.port setup first beaten = some s ∧ s.cancelled = true ∧
        s.listener = .committed ∧
        ∃ next, run Loopback.port setup s [.listener, .listener] = some next ∧
          next.listener = .polling :=
    ⟨_, rfl, rfl, rfl, _, rfl, rfl⟩
  obtain ⟨decided, _, stops⟩ := stopsOnceDecided ran (by simp [beaten]) (by simp [beaten])
  obtain ⟨_, asks, _, last, ends, ended⟩ := stops _ _ told went
  rw [polls] at ends
  rw [committed] at asks
  exact ⟨s, next, last, ran, committed, (decided told).1, went, asks, ends, ended⟩

end FaultWatch.Race
