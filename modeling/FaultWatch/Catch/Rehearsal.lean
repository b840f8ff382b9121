import FaultWatch.Catch.Settings
import FaultWatch.Catch.Race
import FaultWatch.Catch.ScriptedPort

/-! Catch calls whose race has one verdict. The operation is a list of steps, and the listener moves
first: before the operation starts and after each of its steps it receives whatever is there for it.
So it wins as soon as something is deliverable, and the operation runs no further step; otherwise
the operation wins with the ending it was given. Each call is a run of the race machine. A step may
itself be a whole call, made from the worker.

A call through the process-wide store keeps only the timeout of its settings. Of the two stores of a
world the one in use comes first; the other waits in the frame of the call. A script tells its
receives only if it decides the race. -/
namespace FaultWatch.Rehearsal

inductive Entry
  | closing
  | plain
  | process
  deriving DecidableEq, Repr

inductive PortChoice
  | shared
  | own
  | scripted (script : ScriptedPort)
  deriving DecidableEq, Repr

structure Setup (α : Type) where
  entry : Entry
  port : PortChoice
  categories : List Category
  settings : Settings
  before : List Loopback.Signal
  finish : Finish α String String

inductive Step (α : Type)
  | observe
  | signal (signal : Loopback.Signal)
  | nested (setup : Setup α) (steps : List (Step α))

structure Snapshot where
  armed : Option Mask
  arms : Nat
  disarms : Nat
  pending : Nat
  flags : Safeguards
  holders : Nat
  deriving DecidableEq, Repr

def Snapshot.of (port : Loopback) (store : SafeguardStore) : Snapshot :=
  ⟨port.armed, port.arms, port.disarms, port.pending.length, store.current, store.holders⟩

structure ScriptReport where
  asked : List Mask
  disarms : Nat
  receives : Option Nat
  deriving DecidableEq, Repr

structure Report (α : Type) where
  before : List (Option Bool)
  ending : Option (Ending α String String)
  closing : Option Snapshot
  log : List LogRecord
  state : Snapshot
  script : Option ScriptReport

inductive StepReport (α : Type)
  | observed (snapshot : Snapshot) (cancelled : Bool) (worker : String)
  | signalled (accepted : Option Bool)
  | nested (report : Report α) (steps : Option (List (StepReport α)))

structure World where
  loopback : Loopback
  flags : SafeguardStore
  idle : SafeguardStore
  onProcess : Bool
  deriving DecidableEq, Repr

namespace World

def start (flags : Safeguards) : World :=
  ⟨.fresh, .holding flags, .holding .strict, false⟩

def use (process : Bool) (w : World) : World :=
  if w.onProcess = process then w
  else { w with flags := w.idle, idle := w.flags, onProcess := process }

end World

def accepted? (port : Loopback) : Loopback.Signal → Option Bool
  | .raise raw => some (port.accepts raw)
  | _ => none

def sendAll (port : Loopback) : List Loopback.Signal → List (Option Bool) × Loopback
  | [] => ([], port)
  | signal :: rest =>
    let (results, last) := sendAll (port.signal signal) rest
    (accepted? port signal :: results, last)

variable {α : Type}

namespace Setup

def effective (setup : Setup α) : Settings :=
  if setup.entry = .process then { Settings.default with timeout := setup.settings.timeout }
  else setup.settings

def race (setup : Setup α) : Race.Setup := .of setup.categories setup.effective

def stage (setup : Setup α) (port : Loopback) : Stage :=
  match setup.port with
  | .scripted script => ⟨port, some script⟩
  | _ => ⟨port, none⟩

def startPort (setup : Setup α) (w : World) : Loopback :=
  if setup.port = PortChoice.own then .fresh else w.loopback

end Setup

abbrev Machine (α : Type) := Race.State Stage StageChannel α String String

abbrev Move (α : Type) := Race.Event Loopback.Signal α String String

def play (setup : Setup α) (s : Machine α) (events : List (Move α)) : Machine α :=
  Race.play Stage.port setup.race s events

structure Frame (α : Type) where
  setup : Setup α
  machine : Machine α
  idle : SafeguardStore
  onProcess : Bool

namespace Frame

def snapshot (f : Frame α) : Snapshot := .of f.machine.port.loopback f.machine.flags

def world (f : Frame α) : World := ⟨f.machine.port.loopback, f.machine.flags, f.idle, f.onProcess⟩

def withWorld (f : Frame α) (w : World) : Frame α :=
  { f with
    machine := { f.machine with
      port := { f.machine.port with loopback := w.loopback }, flags := w.flags }
    idle := w.idle }

def play (f : Frame α) (events : List (Move α)) : Frame α :=
  { f with machine := Rehearsal.play f.setup f.machine events }

/-- How many moves a polling listener makes by itself: three for a receive that times out, four
for one that answers, two to wait for a late reply. -/
def dueMoves (f : Frame α) : Nat :=
  match f.machine.listener, f.machine.channel, f.machine.port.script with
  | .polling, some (.loopback channel), _ =>
    match (f.machine.port.loopback.receive channel).1 with
    | .error .timedOut => 0
    | _ => 4
  | .polling, some .scripted, some script =>
    3 * (script.replies.takeWhile (· = .timeout)).length +
      match ScriptedPort.firstReply? script.replies with
      | some reply => if reply.isPrompt then 4 else 2
      | none => 0
  | _, _, _ => 0

def serve (f : Frame α) : Frame α := f.play (List.replicate f.dueMoves .listener)

def begin (f : Frame α) : Frame α :=
  (f.play [.caller, .caller, .caller, .caller]).serve

def isRefused (f : Frame α) : Bool := f.machine.caller matches .refused _ | .returned _

def settle (f : Frame α) : Frame α :=
  f.play
    [.finish f.setup.finish, .worker, .caller, .caller, .listener, .listener, .caller, .caller,
      .caller]

def finish (f : Frame α) : Frame α := f.play [.caller, .caller]

def scriptReport (f : Frame α) : Option ScriptReport :=
  match f.setup.port, f.machine.port.script with
  | .scripted script, some played =>
    some ⟨played.asked, played.disarms,
      if ScriptedPort.winsBy script.replies then some played.receives else none⟩
  | _, _ => none

end Frame

def callWith (setup : Setup α) (operate : Frame α → List (StepReport α) × Frame α) (w : World) :
    Report α × Option (List (StepReport α)) × World :=
  let entered := w.use (setup.entry = .process || w.onProcess)
  let (before, port) := sendAll (setup.startPort entered) setup.before
  let opening : Frame α :=
    ⟨setup, Race.start (setup.stage port) entered.flags, entered.idle, entered.onProcess⟩
  let begun := opening.begin
  let (steps, operated) :=
    if begun.isRefused then (none, begun)
    else
      let (steps, operated) := operate begun
      (some steps, operated)
  let settled := operated.settle
  let done := settled.finish
  let left := { done.world with
    loopback := if setup.port = PortChoice.own then w.loopback else done.world.loopback }
  (⟨before, done.machine.ending?,
    if begun.isRefused || setup.entry ≠ .closing then none else some settled.snapshot,
    done.machine.log, done.snapshot, done.scriptReport⟩, steps, left.use w.onProcess)

mutual

def perform (f : Frame α) : Step α → StepReport α × Frame α
  | .observe =>
    (.observed f.snapshot f.machine.cancelled f.setup.effective.workerName, f)
  | .signal signal =>
    (.signalled (accepted? f.machine.port.loopback signal), f.play [.signal signal])
  | .nested setup steps =>
    let (report, inner, w) := callWith setup (fun g => performAll g steps) f.world
    (.nested report inner, f.withWorld w)

def performAll (f : Frame α) : List (Step α) → List (StepReport α) × Frame α
  | [] => ([], f)
  | step :: rest =>
    if f.machine.isDecided then ([], f)
    else
      let (report, g) := perform f step
      let (reports, last) := performAll g.serve rest
      (report :: reports, last)

end

structure Call (α : Type) where
  setup : Setup α
  steps : List (Step α)

def Call.run (call : Call α) (w : World) : (Report α × Option (List (StepReport α))) × World :=
  let (report, steps, w) := callWith call.setup (fun f => performAll f call.steps) w
  ((report, steps), w)

def runAll (w : World) : List (Call α) → List (Report α × Option (List (StepReport α)))
  | [] => []
  | call :: rest =>
    let (result, next) := call.run w
    result :: runAll next rest

end FaultWatch.Rehearsal
