import FaultWatch.Proofs.Race.Move
import FaultWatch.Proofs.SafeguardStore

/-! Who is inside the flag store in the course of a call. The caller is inside from its entering to
its leaving, whatever happens in between, and on top of it whoever of the others is; the flags that
the last one brings back stay the same throughout. -/
namespace FaultWatch.Race

variable {σ χ ι α ε π : Type}

def Caller.inside : Caller α ε π → Bool
  | ready | tornDown _ | closed _ | returned _ | gaveUp _ => false
  | _ => true

variable {port : Port σ χ ι} {setup : Setup} {s next first : State σ χ α ε π}
  {event : Event ι α ε π} {d : Deed σ χ ι α ε π} {deeds : List (Deed σ χ ι α ε π)} {p : σ}
  {store : SafeguardStore} {others later : Nat}

theorem holdersMove (held : s.flags.holders = others + s.caller.inside.toNat)
    (made : Move port setup s event d next) (matched : d.others? others = some later) :
    next.flags.holders = later + next.caller.inside.toNat := by
  cases made with
  | othersEnter =>
    cases matched
    simp only [SafeguardStore.holdersEnter]
    omega
  | othersLeave =>
    simp only [Deed.others?, Option.ite_none_left_eq_some, Option.some.injEq] at matched
    simp only [SafeguardStore.holdersLeave]
    omega
  | stop | commit | ask | hear | timeOut | breakDown | offerHeard | offerFinish | finish
  | selfCancel | signal =>
    cases matched
    exact held
  | _ here =>
    cases matched
    simp [held, here, Caller.inside]

theorem holdersTold (reached : Reached port setup (start p store) s deeds)
    (matched : othersAfter store.holders deeds = some others) :
    s.flags.holders = others + s.caller.inside.toNat := by
  induction reached generalizing others with
  | start =>
    cases matched
    rfl
  | move before made ih =>
    rw [othersSnoc] at matched
    obtain ⟨earlier, there, step⟩ := Option.bind_eq_some_iff.mp matched
    exact holdersMove (ih there) made step

theorem keptMove (made : Move port setup s event d next) : next.flags.kept = s.flags.kept := by
  cases made with
  | enter | othersEnter => exact SafeguardStore.keptEnter
  | turnAway | leave | giveUp | othersLeave => exact SafeguardStore.keptLeave
  | _ => rfl

theorem keptTold (reached : Reached port setup first s deeds) :
    s.flags.kept = first.flags.kept := by
  induction reached with
  | start => rfl
  | move before made ih => exact (keptMove made).trans ih

end FaultWatch.Race
