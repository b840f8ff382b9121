import FaultWatch.Catch.Race

/-! What the steps of a race do, one deed a step. A deed names what its thread did to the shared
state and carries the answer it got, so that the trace of a run tells who held, armed, received,
offered and released what, and in which order. It is read off the state before the step. What a deed
makes of the state after it is told by the moves, and of the port by `carry`. A signal carries the
port that it met. -/
namespace FaultWatch.Race

inductive Deed (σ χ ι α ε π : Type)
  | enter
  | arm (answer : Except ChannelFailure χ)
  | listen
  | operate
  | refuse (reason : String)
  | take (verdict : Verdict α ε π)
  | cancel
  | join
  | disarm (channel : χ) (answer : Except ChannelFailure Unit)
  | leave
  | close
  | handBack
  | poll (cancelled : Bool)
  | ask
  | receive (answer : Except ReceiveFailure Fault) (channel : χ)
  | offerHeard (verdict : Verdict α ε π) (accepted : Bool)
  | finish (finish : Finish α ε π)
  | offerFinish (finish : Finish α ε π) (accepted : Bool)
  | selfCancel
  | signal (signal : ι) (met : σ)
  | othersEnter (flags : Safeguards)
  | othersLeave

def verdictOf {α ε π : Type} : Except ReceiveFailure Fault → Option (Verdict α ε π)
  | .ok raw => some (.fault raw)
  | .error .timedOut => none
  | .error (.failed error) => some (.listenerFailed error)

namespace Deed

variable {σ χ ι α ε π : Type}

def isCaller : Deed σ χ ι α ε π → Bool
  | enter | arm _ | listen | operate | refuse _ | take _ | cancel | join | disarm _ _ | leave
  | close | handBack => true
  | _ => false

def isListener : Deed σ χ ι α ε π → Bool
  | poll _ | ask | receive _ _ | offerHeard _ _ => true
  | _ => false

def isArm : Deed σ χ ι α ε π → Bool
  | arm _ => true
  | _ => false

def isDisarm : Deed σ χ ι α ε π → Bool
  | disarm _ _ => true
  | _ => false

def onPort : Deed σ χ ι α ε π → Bool
  | arm _ | disarm _ _ | receive _ _ | signal _ _ => true
  | _ => false

def channel? : Deed σ χ ι α ε π → Option χ
  | arm (.ok channel) => some channel
  | receive _ channel => some channel
  | _ => none

def take? : Deed σ χ ι α ε π → Option (Verdict α ε π)
  | take verdict => some verdict
  | _ => none

def heard? : Deed σ χ ι α ε π → Option (Verdict α ε π)
  | receive answer _ => verdictOf answer
  | _ => none

def finish? : Deed σ χ ι α ε π → Option (Finish α ε π)
  | .finish ending => some ending
  | _ => none

def offer? : Deed σ χ ι α ε π → Option (Verdict α ε π × Bool)
  | offerHeard verdict accepted => some (verdict, accepted)
  | offerFinish ending accepted => some (.operation ending, accepted)
  | _ => none

theorem cutsAreCallers {d : Deed σ χ ι α ε π} (other : d.isCaller = false) :
    d.isArm = false ∧ d.isDisarm = false := by
  cases d <;> first | exact ⟨rfl, rfl⟩ | contradiction

theorem hearersListen {d : Deed σ χ ι α ε π} (other : d.isListener = false) : d.heard? = none := by
  cases d <;> first | rfl | contradiction

end Deed

variable {σ χ ι α ε π : Type}

theorem filterMapSnoc {β : Type} {f : Deed σ χ ι α ε π → Option β}
    {deeds : List (Deed σ χ ι α ε π)} {d : Deed σ χ ι α ε π} :
    (deeds ++ [d]).filterMap f = deeds.filterMap f ++ (f d).toList := by
  cases found : f d <;> simp [found]

def offers (deeds : List (Deed σ χ ι α ε π)) : List (Verdict α ε π × Bool) :=
  deeds.filterMap Deed.offer?

def heard (deeds : List (Deed σ χ ι α ε π)) : List (Verdict α ε π) := deeds.filterMap Deed.heard?

def finished (deeds : List (Deed σ χ ι α ε π)) : List (Finish α ε π) :=
  deeds.filterMap Deed.finish?

theorem offersSnoc {deeds : List (Deed σ χ ι α ε π)} {d : Deed σ χ ι α ε π} :
    offers (deeds ++ [d]) = offers deeds ++ d.offer?.toList := filterMapSnoc

theorem heardSnoc {deeds : List (Deed σ χ ι α ε π)} {d : Deed σ χ ι α ε π} :
    heard (deeds ++ [d]) = heard deeds ++ d.heard?.toList := filterMapSnoc

theorem finishedSnoc {deeds : List (Deed σ χ ι α ε π)} {d : Deed σ χ ι α ε π} :
    finished (deeds ++ [d]) = finished deeds ++ d.finish?.toList := filterMapSnoc

def channelAfter (deeds : List (Deed σ χ ι α ε π)) : Option χ :=
  (deeds.filterMap Deed.channel?).getLast?

def Deed.others? (inside : Nat) : Deed σ χ ι α ε π → Option Nat
  | othersEnter _ => some (inside + 1)
  | othersLeave => if inside = 0 then none else some (inside - 1)
  | _ => some inside

def othersAfter (inside : Nat) (deeds : List (Deed σ χ ι α ε π)) : Option Nat :=
  deeds.foldlM Deed.others? inside

theorem othersSnoc {inside : Nat} {deeds : List (Deed σ χ ι α ε π)} {d : Deed σ χ ι α ε π} :
    othersAfter inside (deeds ++ [d]) = (othersAfter inside deeds).bind d.others? := by
  simp [othersAfter, List.foldlM_append]

def callerDeed (port : Port σ χ ι) (setup : Setup) (s : State σ χ α ε π) :
    Option (Deed σ χ ι α ε π) :=
  match s.caller with
  | .ready => some .enter
  | .entered => some (.arm (port.arm setup.mask s.port).1)
  | .refused _ => some .leave
  | .armed => some .listen
  | .listening => some .operate
  | .waiting => s.decision.value.map .take
  | .settled _ => some .cancel
  | .stopping _ => some .join
  | .joined _ => s.channel.map fun channel => .disarm channel (port.disarm channel s.port).1
  | .released _ => some .leave
  | .tornDown _ => some .close
  | .closed _ => some .handBack
  | .returned _ => none
  | .gaveUp _ => none

def listenerDeed (port : Port σ χ ι) (s : State σ χ α ε π) : Option (Deed σ χ ι α ε π) :=
  match s.listener with
  | .absent => none
  | .polling => some (.poll s.cancelled)
  | .committed => some .ask
  | .receiving => s.channel.map fun channel =>
    .receive (port.receive channel s.port).1 (port.receive channel s.port).2.1
  | .offering verdict => some (.offerHeard verdict s.decision.accepts)
  | .ended => none

def workerDeed (s : State σ χ α ε π) : Option (Deed σ χ ι α ε π) :=
  match s.worker with
  | .offering finish => some (.offerFinish finish s.decision.accepts)
  | _ => none

def deed (port : Port σ χ ι) (setup : Setup) (s : State σ χ α ε π) :
    Event ι α ε π → Option (Deed σ χ ι α ε π)
  | .caller => callerDeed port setup s
  | .listener => listenerDeed port s
  | .worker => workerDeed s
  | .refuseWorker reason => some (.refuse reason)
  | .finish finish => some (.finish finish)
  | .cancel => some .selfCancel
  | .signal signal => some (.signal signal s.port)
  | .othersEnter flags => some (.othersEnter flags)
  | .othersLeave => some .othersLeave

def trace (port : Port σ χ ι) (setup : Setup) (s : State σ χ α ε π) :
    List (Event ι α ε π) → List (Deed σ χ ι α ε π)
  | [] => []
  | event :: rest =>
    match step port setup s event with
    | some next => (deed port setup s event).toList ++ trace port setup next rest
    | none => []

end FaultWatch.Race
