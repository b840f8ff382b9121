import FaultWatch.Proofs.Race.Window

/-! What the deeds of a race make of its port. A deed tells what a thread meant to do; here the port
and the channel of every state are those that the deeds before it bring about, each by the port's
own operation (`carriedReached`). A call that is over is cut at its arm and at its release, with the
states on both sides; one that was turned away is cut at the arm that failed. -/
namespace FaultWatch.Race

variable {σ χ ι α ε π : Type}

/-- The channel and the port after a deed. -/
def carry (port : Port σ χ ι) (mask : Mask) (held : Option χ × σ) :
    Deed σ χ ι α ε π → Option χ × σ
  | .arm _ =>
    match port.arm mask held.2 with
    | (.ok channel, p) => (some channel, p)
    | (.error _, p) => (held.1, p)
  | .receive _ _ =>
    match held.1 with
    | some channel => ((port.receive channel held.2).2).map some id
    | none => held
  | .disarm channel _ => ((port.disarm channel held.2).2).map some id
  | .signal given _ => (held.1, port.signal given held.2)
  | _ => held

def Deed.signal? : Deed σ χ ι α ε π → Option ι
  | signal given _ => some given
  | _ => none

def signalled (port : Port σ χ ι) (p : σ) (deeds : List (Deed σ χ ι α ε π)) : σ :=
  (deeds.filterMap Deed.signal?).foldl (fun p given => port.signal given p) p

structure TurnedAway (port : Port σ χ ι) (setup : Setup) (first here next s : State σ χ α ε π)
    (before after : List (Deed σ χ ι α ε π)) (error : ChannelFailure) : Prop where
  earlier : Reached port setup first here before
  arming : Move port setup here .caller (.arm (.error error)) next
  refused : port.arm setup.mask here.port = (.error error, next.port)
  later : Reached port setup next s after
  untouched : here.port = signalled port first.port before ∧
    s.port = signalled port next.port after ∧ s.channel = first.channel

/-- A run cut at its arm and at its release, with what was asked of the port there. -/
structure Service (port : Port σ χ ι) (setup : Setup)
    (first there opening closing next s : State σ χ α ε π)
    (before during after : List (Deed σ χ ι α ε π)) (opened last : χ)
    (answer : Except ChannelFailure Unit) : Prop where
  earlier : Reached port setup first there before
  arming : Move port setup there .caller (.arm (.ok opened)) opening
  armed : port.arm setup.mask there.port = (.ok opened, opening.port) ∧
    opening.channel = some opened
  meanwhile : Reached port setup opening closing during
  ended : closing.listener = .ended
  releasing : Move port setup closing .caller (.disarm last answer) next
  released : closing.channel = some last ∧ ∃ left,
    port.disarm last closing.port = (answer, left, next.port) ∧ next.channel = some left
  later : Reached port setup next s after
  untouched : there.port = signalled port first.port before ∧
    s.port = signalled port next.port after ∧ s.channel = next.channel

variable {port : Port σ χ ι} {setup : Setup} {s next first : State σ χ α ε π}
  {event : Event ι α ε π} {d : Deed σ χ ι α ε π}
  {deeds before during after : List (Deed σ χ ι α ε π)} {p : σ} {store : SafeguardStore}
  {mask : Mask} {held : Option χ × σ} {error : ChannelFailure} {opened last : χ}
  {answer : Except ChannelFailure Unit}

theorem carriedMove (made : Move port setup s event d next) :
    (next.channel, next.port) = carry port setup.mask (s.channel, s.port) d := by
  cases made with
  | arm here answer | armFailed here answer => simp only [carry, answer]
  | hear here held answer | timeOut here held answer | breakDown here held answer =>
    simp [carry, held, answer]
  | disarm here held released => simp [carry, released]
  | _ => rfl

theorem carriedReached (reached : Reached port setup first s deeds) :
    (s.channel, s.port) = deeds.foldl (carry port setup.mask) (first.channel, first.port) := by
  induction reached with
  | start => rfl
  | move before made ih =>
    rw [List.foldl_append, ← ih, List.foldl_cons, List.foldl_nil, carriedMove made]

theorem carrySilent (uncut : ∀ d ∈ deeds, d.isArm = false ∧ d.isDisarm = false)
    (silent : ∀ d ∈ deeds, d.isListener = false) :
    deeds.foldl (carry port mask) held = (held.1, signalled port held.2 deeds) := by
  induction deeds generalizing held with
  | nil => rfl
  | cons d rest ih =>
    rw [List.foldl_cons, ih (fun d member => uncut d (List.mem_cons_of_mem _ member))
      fun d member => silent d (List.mem_cons_of_mem _ member)]
    have cuts := uncut d List.mem_cons_self
    have hears := silent d List.mem_cons_self
    cases d with
    | arm | disarm => simp [Deed.isArm, Deed.isDisarm] at cuts
    | receive => contradiction
    | _ => rfl

theorem untouchedReached (reached : Reached port setup first s deeds)
    (uncut : ∀ d ∈ deeds, d.isArm = false ∧ d.isDisarm = false)
    (silent : ∀ d ∈ deeds, d.isListener = false) :
    s.port = signalled port first.port deeds ∧ s.channel = first.channel := by
  have carried := carriedReached reached
  rw [carrySilent uncut silent] at carried
  exact (Prod.mk.inj carried).symm

theorem windowService (reached : Reached port setup (start p store) s deeds)
    (window : Window deeds before during after opened last answer) :
    ∃ there opening closing next, Service port setup (start p store) there opening closing next s
      before during after opened last answer := by
  obtain ⟨rfl, once, silentBefore, silentAfter, joined⟩ := window
  obtain ⟨there, _, opening, earlier, arming, rest⟩ := reachedCut reached
  obtain ⟨closing, _, next, meanwhile, releasing, later⟩ := reachedCut rest
  have ended : closing.listener = .ended :=
    joinedEnded (reachedJoin (earlier.move arming) meanwhile) (by simp [joined])
  have untouchedBefore := untouchedReached earlier (fun d member => once d (by simp [member]))
    silentBefore
  have untouchedAfter := untouchedReached later (fun d member => once d (by simp [member]))
    silentAfter
  have untouched := And.intro untouchedBefore.1 untouchedAfter
  refine ⟨there, opening, closing, next, ?_⟩
  cases arming with
  | arm here armed =>
    cases releasing with
    | disarm joined held released =>
      exact ⟨earlier, .arm here armed, ⟨armed, rfl⟩, meanwhile, ended,
        .disarm joined held released, ⟨held, _, released, rfl⟩, later, untouched⟩

theorem turnedAwayCut (reached : Reached port setup (start p store) s deeds)
    (listed : deeds.filter Deed.isCaller = [.enter, .arm (.error error), .leave]) :
    ∃ here next before after, deeds = before ++ .arm (.error error) :: after ∧
      TurnedAway port setup (start p store) here next s before after error := by
  rw [← List.singleton_append] at listed
  obtain ⟨before, after, rfl, atBefore, atAfter⟩ := cutFilter listed
  obtain ⟨here, event, next, earlier, arming, later⟩ := reachedCut reached
  have unlisted : .listen ∉ before ++ .arm (.error error) :: after := by
    rw [← inScript rfl, listed]
    simp
  have silent := (listenerSilent reached (.inl rfl) unlisted).2
  have untouchedBefore := untouchedReached earlier
    (uncutFilter (by simp [atBefore, Deed.isArm, Deed.isDisarm]))
    fun d member => silent d (by simp [member])
  have untouchedAfter := untouchedReached later
    (uncutFilter (by simp [atAfter, Deed.isArm, Deed.isDisarm]))
    fun d member => silent d (by simp [member])
  refine ⟨here, next, before, after, rfl, ?_⟩
  cases arming with
  | armFailed entered refused =>
    exact ⟨earlier, .armFailed entered refused, refused, later, untouchedBefore.1,
      untouchedAfter.1, untouchedAfter.2.trans untouchedBefore.2⟩

end FaultWatch.Race
