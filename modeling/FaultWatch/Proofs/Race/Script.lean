import FaultWatch.Proofs.Race.Move

/-! What the caller has done by each of its program points. Its own deeds follow one script: it
enters, arms, starts both sides, takes a verdict, stops, joins, releases, leaves, closes and hands
back. It departs from the script only where arming fails or the worker is refused. The main
statement is `callerScript`; the facts about one deed are read off it. -/
namespace FaultWatch.Race

variable {σ χ ι α ε π : Type}

def Outcome.deeds : Outcome α ε π → List (Deed σ χ ι α ε π)
  | .decided verdict => [.operate, .take verdict]
  | .unstarted reason => [.refuse reason]

def raced (channel : χ) (outcome : Outcome α ε π) : List (Deed σ χ ι α ε π) :=
  [.enter, .arm (.ok channel), .listen] ++ outcome.deeds

inductive Script (setup : Setup) : Caller α ε π → List (Deed σ χ ι α ε π) → Prop
  | ready : Script setup .ready []
  | entered : Script setup .entered [.enter]
  | refused {error} : Script setup (.refused error) [.enter, .arm (.error error)]
  | turnedAway {error} :
      Script setup (.returned (.error (.registration error)))
        [.enter, .arm (.error error), .leave]
  | armed {channel} : Script setup .armed [.enter, .arm (.ok channel)]
  | listening {channel} : Script setup .listening [.enter, .arm (.ok channel), .listen]
  | waiting {channel} : Script setup .waiting [.enter, .arm (.ok channel), .listen, .operate]
  | settled {channel outcome} : Script setup (.settled outcome) (raced channel outcome)
  | stopping {channel outcome} :
      Script setup (.stopping outcome) (raced channel outcome ++ [.cancel])
  | joined {channel outcome} :
      Script setup (.joined outcome) (raced channel outcome ++ [.cancel, .join])
  | released {channel outcome last answer} :
      Script setup (.released outcome)
        (raced channel outcome ++ [.cancel, .join, .disarm last answer])
  | tornDown {channel verdict last answer} :
      Script setup (.tornDown verdict)
        (raced channel (.decided verdict) ++ [.cancel, .join, .disarm last answer, .leave])
  | closed {channel verdict last answer} :
      Script setup (.closed verdict)
        (raced channel (.decided verdict) ++ [.cancel, .join, .disarm last answer, .leave, .close])
  | returned {channel verdict last answer} :
      Script setup (.returned (verdict.ending setup.decoder))
        (raced channel (.decided verdict) ++
          [.cancel, .join, .disarm last answer, .leave, .close, .handBack])
  | gaveUp {channel reason last answer} :
      Script setup (.gaveUp reason)
        (raced channel (.unstarted reason) ++ [.cancel, .join, .disarm last answer, .leave])

variable {port : Port σ χ ι} {setup : Setup} {s next : State σ χ α ε π} {event : Event ι α ε π}
  {d : Deed σ χ ι α ε π} {deeds mine : List (Deed σ χ ι α ε π)} {p : σ} {store : SafeguardStore}

theorem scriptMove (script : Script setup s.caller mine) (move : Move port setup s event d next) :
    Script setup next.caller (mine ++ [d].filter Deed.isCaller) := by
  cases move with
  | enter here => rw [here] at script; cases script; exact .entered
  | arm here => rw [here] at script; cases script; exact .armed
  | armFailed here => rw [here] at script; cases script; exact .refused
  | turnAway here => rw [here] at script; cases script; exact .turnedAway
  | listen here => rw [here] at script; cases script; exact .listening
  | operate here => rw [here] at script; cases script; exact .waiting
  | refuse here => rw [here] at script; cases script; exact .settled
  | take here => rw [here] at script; cases script; exact .settled
  | cancel here => rw [here] at script; cases script; exact .stopping
  | join here =>
    rw [here] at script
    cases script
    rw [List.append_assoc]
    exact .joined
  | disarm here =>
    rw [here] at script
    cases script
    rw [List.append_assoc]
    exact .released
  | leave here =>
    rw [here] at script
    cases script
    rw [List.append_assoc]
    exact .tornDown
  | giveUp here =>
    rw [here] at script
    cases script
    rw [List.append_assoc]
    exact .gaveUp
  | close here =>
    rw [here] at script
    cases script
    rw [List.append_assoc]
    exact .closed
  | handBack here =>
    rw [here] at script
    cases script
    rw [List.append_assoc]
    exact .returned
  | _ => simpa [Deed.isCaller, State.offer] using script

theorem callerScript (reached : Reached port setup (start p store) s deeds) :
    Script setup s.caller (deeds.filter Deed.isCaller) := by
  induction reached with
  | start => exact .ready
  | move before made ih =>
    rw [List.filter_append]
    exact scriptMove ih made

end FaultWatch.Race
