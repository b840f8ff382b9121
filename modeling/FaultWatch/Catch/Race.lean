import FaultWatch.Catch.Ending
import FaultWatch.Catch.SafeguardStore
import FaultWatch.Catch.Settings
import FaultWatch.Catch.Decision
import FaultWatch.Log

/-! One catch call as a machine of three threads over shared state: the caller, the listener and the
worker that runs the operation. Each thread has a program point and one next move; an event names
the thread that moves, lets the operation finish, or is something others do to the port or to the
flag store. A list of events is an interleaving, and an event that is not enabled ends the run.

The caller enters the flag store, arms, starts both sides and waits for a verdict. With one it sets
the token, joins the listener, releases the channel, leaves the flag store, runs the closing action
and returns. If the system refuses it a worker, it does the same without a verdict, and there is no
closing action. The listener asks the token before each receive. The operation holds the token too,
and may set it by itself. A call is over when it has given an ending, or has given up for want of a
worker. -/
namespace FaultWatch.Race

structure Setup where
  mask : Mask
  flags : Safeguards
  decoder : Decoder
  deriving DecidableEq, Repr

def Setup.of (categories : List Category) (settings : Settings) : Setup :=
  ⟨Mask.ofCategories categories, settings.flags, Decoder.choose settings.family⟩

inductive Outcome (α ε π : Type)
  | decided (verdict : Verdict α ε π)
  | unstarted (reason : String)
  deriving DecidableEq, Repr

inductive Caller (α ε π : Type)
  | ready
  | entered
  | refused (error : ChannelFailure)
  | armed
  | listening
  | waiting
  | settled (outcome : Outcome α ε π)
  | stopping (outcome : Outcome α ε π)
  | joined (outcome : Outcome α ε π)
  | released (outcome : Outcome α ε π)
  | tornDown (verdict : Verdict α ε π)
  | closed (verdict : Verdict α ε π)
  | returned (ending : Ending α ε π)
  | gaveUp (reason : String)
  deriving DecidableEq, Repr

inductive Listener (α ε π : Type)
  | absent
  | polling
  | committed
  | receiving
  | offering (verdict : Verdict α ε π)
  | ended
  deriving DecidableEq, Repr

inductive Worker (α ε π : Type)
  | absent
  | running
  | offering (finish : Finish α ε π)
  | ended (accepted : Bool)
  deriving DecidableEq, Repr

structure State (σ χ α ε π : Type) where
  port : σ
  flags : SafeguardStore
  channel : Option χ
  decision : Decision (Verdict α ε π)
  cancelled : Bool
  caller : Caller α ε π
  listener : Listener α ε π
  worker : Worker α ε π
  log : List LogRecord
  deriving DecidableEq, Repr

inductive Event (ι α ε π : Type)
  | caller
  | listener
  | worker
  | refuseWorker (reason : String)
  | finish (finish : Finish α ε π)
  | cancel
  | signal (signal : ι)
  | othersEnter (flags : Safeguards)
  | othersLeave
  deriving DecidableEq, Repr

variable {σ χ ι α ε π : Type}

def start (port : σ) (flags : SafeguardStore) : State σ χ α ε π :=
  ⟨port, flags, none, .undecided, false, .ready, .absent, .absent, []⟩

def winner : Verdict α ε π → Side
  | .operation _ => .operation
  | .fault _ => .listener
  | .listenerFailed _ => .listener

def closingLog (setup : Setup) : Verdict α ε π → List LogRecord
  | .fault raw =>
    match setup.decoder.decode? raw with
    | some fault => [.caught fault]
    | none => [.caughtUnknown raw]
  | _ => []

def releaseLog : Except ChannelFailure Unit → List LogRecord
  | .ok _ => [.disarming]
  | .error error => [.disarming, .releaseFailed error]

def State.offer (s : State σ χ α ε π) (verdict : Verdict α ε π) : State σ χ α ε π :=
  { s with decision := s.decision.offer verdict }

def callerStep (port : Port σ χ ι) (setup : Setup) (s : State σ χ α ε π) :
    Option (State σ χ α ε π) :=
  match s.caller with
  | .ready => some { s with flags := s.flags.enter setup.flags, caller := .entered }
  | .entered =>
    match port.arm setup.mask s.port with
    | (.ok channel, p) =>
      some { s with
        port := p, channel := some channel, caller := .armed, log := s.log ++ [.armed setup.mask] }
    | (.error error, p) => some { s with port := p, caller := .refused error }
  | .refused error =>
    some { s with flags := s.flags.leave, caller := .returned (.error (.registration error)) }
  | .armed => some { s with listener := .polling, caller := .listening }
  | .listening => some { s with worker := .running, caller := .waiting }
  | .waiting =>
    match s.decision.take? with
    | some (verdict, rest) =>
      some { s with
        decision := rest, caller := .settled (.decided verdict),
        log := s.log ++ [.decided (winner verdict)] }
    | none => none
  | .settled outcome => some { s with cancelled := true, caller := .stopping outcome }
  | .stopping outcome =>
    match s.listener with
    | .ended => some { s with caller := .joined outcome }
    | _ => none
  | .joined outcome =>
    match s.channel with
    | some channel =>
      match port.disarm channel s.port with
      | (result, channel, p) =>
        some { s with
          port := p, channel := some channel, caller := .released outcome,
          log := s.log ++ releaseLog result }
    | none => none
  | .released (.decided verdict) =>
    some { s with
      flags := s.flags.leave, caller := .tornDown verdict, log := s.log ++ [.tornDown] }
  | .released (.unstarted reason) =>
    some { s with flags := s.flags.leave, caller := .gaveUp reason }
  | .tornDown verdict => some { s with caller := .closed verdict }
  | .closed verdict =>
    some { s with
      caller := .returned (verdict.ending setup.decoder), log := s.log ++ closingLog setup verdict }
  | .returned _ => none
  | .gaveUp _ => none

def listenerStep (port : Port σ χ ι) (s : State σ χ α ε π) : Option (State σ χ α ε π) :=
  match s.listener with
  | .absent => none
  | .polling => some { s with listener := if s.cancelled then .ended else .committed }
  | .committed => some { s with listener := .receiving }
  | .receiving =>
    match s.channel with
    | some channel =>
      match port.receive channel s.port with
      | (.ok raw, channel, p) =>
        some { s with port := p, channel := some channel, listener := .offering (.fault raw) }
      | (.error .timedOut, channel, p) =>
        some { s with port := p, channel := some channel, listener := .polling }
      | (.error (.failed error), channel, p) =>
        some { s with
          port := p, channel := some channel, listener := .offering (.listenerFailed error) }
    | none => none
  | .offering verdict => some { s.offer verdict with listener := .ended }
  | .ended => none

def workerStep (s : State σ χ α ε π) : Option (State σ χ α ε π) :=
  match s.worker with
  | .offering finish =>
    some { s.offer (.operation finish) with worker := .ended s.decision.accepts }
  | _ => none

def finishStep (finish : Finish α ε π) (s : State σ χ α ε π) : Option (State σ χ α ε π) :=
  match s.worker with
  | .running => some { s with worker := .offering finish }
  | _ => none

def refuseStep (reason : String) (s : State σ χ α ε π) : Option (State σ χ α ε π) :=
  match s.caller with
  | .listening => some { s with caller := .settled (.unstarted reason) }
  | _ => none

def cancelStep (s : State σ χ α ε π) : Option (State σ χ α ε π) :=
  match s.worker with
  | .absent => none
  | _ => some { s with cancelled := true }

def step (port : Port σ χ ι) (setup : Setup) (s : State σ χ α ε π) :
    Event ι α ε π → Option (State σ χ α ε π)
  | .caller => callerStep port setup s
  | .listener => listenerStep port s
  | .worker => workerStep s
  | .refuseWorker reason => refuseStep reason s
  | .finish finish => finishStep finish s
  | .cancel => cancelStep s
  | .signal signal => some { s with port := port.signal signal s.port }
  | .othersEnter flags => some { s with flags := s.flags.enter flags }
  | .othersLeave => some { s with flags := s.flags.leave }

def run (port : Port σ χ ι) (setup : Setup) (s : State σ χ α ε π) :
    List (Event ι α ε π) → Option (State σ χ α ε π)
  | [] => some s
  | event :: rest => (step port setup s event).bind fun next => run port setup next rest

/-- Plays events as far as they are enabled, leaving out those that are not. -/
def play (port : Port σ χ ι) (setup : Setup) (s : State σ χ α ε π)
    (events : List (Event ι α ε π)) : State σ χ α ε π :=
  events.foldl (fun s event => (step port setup s event).getD s) s

def State.ending? (s : State σ χ α ε π) : Option (Ending α ε π) :=
  match s.caller with
  | .returned ending => some ending
  | _ => none

def State.isOver (s : State σ χ α ε π) : Bool := s.caller matches .returned _ | .gaveUp _

def State.isDecided (s : State σ χ α ε π) : Bool := s.decision.decided

end FaultWatch.Race
