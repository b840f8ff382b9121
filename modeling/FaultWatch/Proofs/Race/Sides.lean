import FaultWatch.Proofs.Race.Script
import FaultWatch.Proofs.Decision

/-! The two sides of a race and the cell between them. The listener hears at most one thing and
offers just that; the worker offers the one end of its operation; the caller takes the first offer.
Before the caller starts it and after the caller joined it the listener does nothing. -/
namespace FaultWatch.Race

variable {σ χ ι α ε π : Type}

inductive Hearing : Listener α ε π → List (Verdict α ε π) → List (Verdict α ε π) → Prop
  | absent : Hearing .absent [] []
  | polling : Hearing .polling [] []
  | committed : Hearing .committed [] []
  | receiving : Hearing .receiving [] []
  | offering {verdict} : Hearing (.offering verdict) [verdict] []
  | stopped : Hearing .ended [] []
  | ended {verdict} : Hearing .ended [verdict] [verdict]

inductive Working : Worker α ε π → List (Finish α ε π) → List (Finish α ε π) → Prop
  | absent : Working .absent [] []
  | running : Working .running [] []
  | offering {finish} : Working (.offering finish) [finish] []
  | ended {finish accepted} : Working (.ended accepted) [finish] [finish]

theorem Hearing.offered {listener : Listener α ε π} {told offered : List (Verdict α ε π)} {verdict}
    (hearing : Hearing listener told offered) (made : verdict ∈ offered) : told = [verdict] := by
  cases hearing with
  | ended => rw [List.mem_singleton.mp made]
  | _ => contradiction

theorem Working.offered {worker : Worker α ε π} {ended offered : List (Finish α ε π)} {finish}
    (working : Working worker ended offered) (made : finish ∈ offered) : ended = [finish] := by
  cases working with
  | ended => rw [List.mem_singleton.mp made]
  | _ => contradiction

variable {port : Port σ χ ι} {setup : Setup} {s next first : State σ χ α ε π}
  {event : Event ι α ε π} {d : Deed σ χ ι α ε π} {deeds : List (Deed σ χ ι α ε π)} {p : σ}
  {store : SafeguardStore}

def Deed.heardOffer? : Deed σ χ ι α ε π → Option (Verdict α ε π)
  | offerHeard verdict _ => some verdict
  | _ => none

def Deed.finishOffer? : Deed σ χ ι α ε π → Option (Finish α ε π)
  | offerFinish ending _ => some ending
  | _ => none

theorem inScript (own : d.isCaller = true) : d ∈ deeds.filter Deed.isCaller ↔ d ∈ deeds := by
  simp [own]

theorem listenerMoves (move : Move port setup s event d next) (own : d.isListener = true) :
    s.listener ≠ .absent ∧ s.listener ≠ .ended := by
  cases move with
  | stop here | commit here | ask here | hear here | timeOut here | breakDown here
  | offerHeard here => simp [here]
  | _ => contradiction

theorem listenerKept (move : Move port setup s event d next) (others : d.isListener = false)
    (unlisted : d ≠ .listen) : next.listener = s.listener := by
  cases move with
  | listen => contradiction
  | stop | commit | ask | hear | timeOut | breakDown | offerHeard => contradiction
  | _ => rfl

theorem listenerSilent (reached : Reached port setup first s deeds)
    (still : first.listener = .absent ∨ first.listener = .ended) (unlisted : .listen ∉ deeds) :
    s.listener = first.listener ∧ ∀ d ∈ deeds, d.isListener = false := by
  induction reached with
  | start => exact ⟨rfl, by simp⟩
  | @move s next event d deeds before made ih =>
    rw [List.mem_append, not_or] at unlisted
    obtain ⟨same, silent⟩ := ih unlisted.1
    -- By the induction it stands where it stood, and there it cannot move.
    have others : d.isListener = false := by
      rw [← Bool.not_eq_true]
      intro own
      have moving := listenerMoves made own
      rw [same] at moving
      exact still.elim moving.1 moving.2
    have kept := listenerKept made others (by rintro rfl; simp at unlisted)
    refine ⟨kept.trans same, ?_⟩
    intro other member
    rcases List.mem_append.mp member with old | new
    · exact silent other old
    · cases List.mem_singleton.mp new
      exact others

theorem armedFresh (reached : Reached port setup (start p store) s deeds)
    (here : s.caller = .armed) (own : d.isCaller = true) (there : d ∈ deeds) :
    d = .enter ∨ ∃ channel, d = .arm (.ok channel) := by
  have script := callerScript reached
  have mine := (inScript own).mpr there
  generalize deeds.filter Deed.isCaller = listed at script mine
  rw [here] at script
  cases script with
  | @armed channel =>
    have listed : d = .enter ∨ d = .arm (.ok channel) := by simpa using mine
    exact listed.imp_right fun same => ⟨channel, same⟩

theorem listenFirst (reached : Reached port setup (start p store) s deeds)
    (made : Move port setup s event .listen next) : s.listener = .absent ∧ .join ∉ deeds := by
  cases made with
  | listen here =>
    constructor
    · refine (listenerSilent reached (.inl rfl) ?_).1
      intro there
      simpa using armedFresh reached here rfl there
    · intro there
      simpa using armedFresh reached here rfl there

theorem joinedEnded (reached : Reached port setup (start p store) s deeds)
    (joined : .join ∈ deeds) : s.listener = .ended := by
  induction reached with
  | start => contradiction
  | @move s next event d deeds before made ih =>
    rcases List.mem_append.mp joined with old | new
    · have ended := ih old
      have others : d.isListener = false := by
        rw [← Bool.not_eq_true]
        intro own
        exact (listenerMoves made own).2 ended
      refine (listenerKept made others ?_).trans ended
      rintro rfl
      exact (listenFirst before made).2 old
    · cases List.mem_singleton.mp new
      cases made with
      | join here ended => exact ended

theorem hearingMove {told offered : List (Verdict α ε π)}
    (hearing : Hearing s.listener told offered) (made : Move port setup s event d next)
    (fresh : d = .listen → s.listener = .absent) :
    Hearing next.listener (told ++ d.heard?.toList) (offered ++ d.heardOffer?.toList) := by
  cases made with
  | listen here => rw [fresh rfl] at hearing; cases hearing; exact .polling
  | stop here => rw [here] at hearing; cases hearing; exact .stopped
  | commit here => rw [here] at hearing; cases hearing; exact .committed
  | ask here => rw [here] at hearing; cases hearing; exact .receiving
  | hear here => rw [here] at hearing; cases hearing; exact .offering
  | timeOut here => rw [here] at hearing; cases hearing; exact .polling
  | breakDown here => rw [here] at hearing; cases hearing; exact .offering
  | offerHeard here => rw [here] at hearing; cases hearing; exact .ended
  | _ => simpa [Deed.heard?, Deed.heardOffer?, State.offer] using hearing

theorem listenerHearing (reached : Reached port setup (start p store) s deeds) :
    Hearing s.listener (heard deeds) (deeds.filterMap Deed.heardOffer?) := by
  induction reached with
  | start => exact .absent
  | move before made ih =>
    rw [heardSnoc, filterMapSnoc]
    exact hearingMove ih made fun same => (listenFirst before (same ▸ made)).1

theorem operateFirst (reached : Reached port setup (start p store) s deeds) :
    s.worker = .absent ↔ .operate ∉ deeds := by
  induction reached with
  | start => simp [start]
  | move before made ih =>
    cases made <;> simp_all [State.offer]

theorem operateOnce (reached : Reached port setup (start p store) s deeds)
    (made : Move port setup s event .operate next) : s.worker = .absent := by
  cases made with
  | operate here =>
    refine (operateFirst reached).mpr fun there => ?_
    have script := callerScript reached
    have mine := (inScript rfl).mpr there
    generalize deeds.filter Deed.isCaller = listed at script mine
    rw [here] at script
    cases script with
    | listening => simp at mine

theorem workingMove {ended offered : List (Finish α ε π)} (working : Working s.worker ended offered)
    (made : Move port setup s event d next) (fresh : d = .operate → s.worker = .absent) :
    Working next.worker (ended ++ d.finish?.toList) (offered ++ d.finishOffer?.toList) := by
  cases made with
  | operate here => rw [fresh rfl] at working; cases working; exact .running
  | finish here => rw [here] at working; cases working; exact .offering
  | offerFinish here => rw [here] at working; cases working; exact .ended
  | _ => simpa [Deed.finish?, Deed.finishOffer?, State.offer] using working

theorem workerWorking (reached : Reached port setup (start p store) s deeds) :
    Working s.worker (finished deeds) (deeds.filterMap Deed.finishOffer?) := by
  induction reached with
  | start => exact .absent
  | move before made ih =>
    rw [finishedSnoc, filterMapSnoc]
    exact workingMove ih made fun same => operateOnce before (same ▸ made)

theorem cellTold (reached : Reached port setup (start p store) s deeds) :
    s.decision.Told (offers deeds) (deeds.filterMap Deed.take?) := by
  induction reached with
  | start => exact .blank
  | move before made ih =>
    rw [offersSnoc, filterMapSnoc]
    cases made with
    | take here took => simpa [Deed.take?, Deed.offer?] using Decision.toldTake ih took
    | offerHeard | offerFinish =>
      simpa [Deed.take?, Deed.offer?, State.offer] using Decision.toldOffer ih _
    | _ => simpa [Deed.take?, Deed.offer?, State.offer] using ih

end FaultWatch.Race
