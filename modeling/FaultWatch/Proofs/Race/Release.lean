import FaultWatch.Proofs.Race.Move

/-! What a release answers does not matter to the call. Two runs of the same events, on ports that
differ in their release alone, are the same up to the release, and after it agree in all but the
port, the channel and the log. The main statement is `releaseForgotten`. -/
namespace FaultWatch.Race

variable {σ χ ι α ε π : Type}

def releasing (port : Port σ χ ι) (release : χ → σ → Except ChannelFailure Unit × χ × σ) :
    Port σ χ ι :=
  { port with disarm := release }

def Caller.isPast : Caller α ε π → Bool
  | released _ | tornDown _ | closed _ | returned _ | gaveUp _ => true
  | _ => false

inductive Agree : State σ χ α ε π → State σ χ α ε π → Prop
  | same {s} (joined : ∀ outcome, s.caller = .joined outcome → s.listener = .ended) : Agree s s
  | past {s : State σ χ α ε π} {port channel log} (past : s.caller.isPast = true)
      (ended : s.listener = .ended) : Agree s { s with port, channel, log }

variable {port : Port σ χ ι} {release : χ → σ → Except ChannelFailure Unit × χ × σ}
  {setup : Setup} {s t next last : State σ χ α ε π} {event : Event ι α ε π}
  {d : Deed σ χ ι α ε π} {p : σ} {store : SafeguardStore}

theorem Agree.caller (agree : Agree s t) : t.caller = s.caller := by
  cases agree <;> rfl

theorem joinedMove (joined : ∀ outcome, s.caller = .joined outcome → s.listener = .ended)
    (made : Move port setup s event d next) :
    ∀ outcome, next.caller = .joined outcome → next.listener = .ended := by
  intro outcome there
  cases made with
  | join here ended => exact ended
  | stop | offerHeard => rfl
  | commit here | ask here | hear here | timeOut here | breakDown here =>
    have ended := joined outcome there
    rw [here] at ended
    contradiction
  | offerFinish | finish | selfCancel | signal | othersEnter | othersLeave =>
    exact joined outcome there
  | _ => contradiction

theorem moveElsewhere (made : Move port setup s event d next) (kept : d.isDisarm = false) :
    Move (releasing port release) setup s event d next := by
  cases made with
  | disarm => contradiction
  | signal => exact .signal
  | othersEnter => exact .othersEnter
  | othersLeave => exact .othersLeave
  | _ => constructor <;> assumption

theorem agreeMove (agree : Agree s t) (made : Move port setup s event d next) :
    ∃ d' next', Move (releasing port release) setup t event d' next' ∧ Agree next next' := by
  cases agree with
  | same joined =>
    by_cases kept : d.isDisarm = false
    · exact ⟨d, next, moveElsewhere made kept, .same (joinedMove joined made)⟩
    · cases made with
      -- The two ports part here. The listener has ended, so nobody asks them again.
      | @disarm outcome channel answer after p here held released =>
        exact ⟨_, _, .disarm here held rfl, .past rfl (joined outcome here)⟩
      | _ => simp [Deed.isDisarm] at kept
  | past past ended =>
    cases made with
    | leave here => exact ⟨_, _, .leave here, .past rfl ended⟩
    | giveUp here => exact ⟨_, _, .giveUp here, .past rfl ended⟩
    | close here => exact ⟨_, _, .close here, .past rfl ended⟩
    | handBack here => exact ⟨_, _, .handBack here, .past rfl ended⟩
    | offerFinish here => exact ⟨_, _, .offerFinish here, .past past ended⟩
    | finish here => exact ⟨_, _, .finish here, .past past ended⟩
    | selfCancel here => exact ⟨_, _, .selfCancel here, .past past ended⟩
    | signal => exact ⟨_, _, .signal, .past past ended⟩
    | othersEnter => exact ⟨_, _, .othersEnter, .past past ended⟩
    | othersLeave => exact ⟨_, _, .othersLeave, .past past ended⟩
    | stop here | commit here | ask here | hear here | timeOut here | breakDown here
    | offerHeard here =>
      rw [here] at ended
      contradiction
    | _ here =>
      rw [here] at past
      contradiction

theorem agreeRun {events : List (Event ι α ε π)} (agree : Agree s t)
    (ran : run port setup s events = some last) :
    ∃ last', run (releasing port release) setup t events = some last' ∧ Agree last last' := by
  induction events generalizing s t with
  | nil =>
    cases ran
    exact ⟨t, rfl, agree⟩
  | cons event rest ih =>
    obtain ⟨next, ok, ran⟩ := runCons.mp ran
    obtain ⟨d, _, made⟩ := stepMove ok
    obtain ⟨d', next', made', agree'⟩ := agreeMove agree made
    obtain ⟨last', ran', still⟩ := ih agree' ran
    exact ⟨last', runCons.mpr ⟨next', (moveStep made').1, ran'⟩, still⟩

theorem releaseForgotten {events : List (Event ι α ε π)}
    (ran : run port setup (start p store) events = some s)
    (release : χ → σ → Except ChannelFailure Unit × χ × σ) :
    ∃ other, run (releasing port release) setup (start p store) events = some other ∧
      other.caller = s.caller := by
  have fresh : Agree (start p store : State σ χ α ε π) (start p store) :=
    .same fun outcome here => by contradiction
  obtain ⟨other, ranOther, agree⟩ := agreeRun fresh ran
  exact ⟨other, ranOther, agree.caller⟩

end FaultWatch.Race
