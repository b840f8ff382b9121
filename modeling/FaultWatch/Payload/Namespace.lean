import FaultWatch.Text.Hyphenated
import FaultWatch.Json.Read

/-! The subsystems that record a reason for an exit or a guard, numbered from zero. -/
namespace FaultWatch

inductive Namespace
  | invalid
  | jetsam
  | signal
  | codeSigning
  | hangTracer
  | test
  | dyld
  | libXpc
  | objC
  | exec
  | springBoard
  | tcc
  | reportCrash
  | coreAnimation
  | aggregated
  | runningBoard
  | assertiond
  | skywalk
  | settings
  | libSystem
  | foundation
  | watchdog
  | metal
  | watchKit
  | guard
  | analytics
  | sandbox
  | security
  | endpointSecurity
  | pacException
  | bluetoothChip
  deriving DecidableEq, Repr

namespace Namespace

def all : List Namespace :=
  [invalid, jetsam, signal, codeSigning, hangTracer, test, dyld, libXpc, objC, exec, springBoard,
    tcc, reportCrash, coreAnimation, aggregated, runningBoard, assertiond, skywalk, settings,
    libSystem, foundation, watchdog, metal, watchKit, guard, analytics, sandbox, security,
    endpointSecurity, pacException, bluetoothChip]

def number (n : Namespace) : Nat := n.ctorIdx

def ofNumber? (n : UInt64) : Option Namespace := all[n.toNat]?

def title : Namespace → String
  | invalid => "Invalid"
  | jetsam => "Jetsam"
  | signal => "Signal"
  | codeSigning => "CodeSigning"
  | hangTracer => "HangTracer"
  | test => "Test"
  | dyld => "Dyld"
  | libXpc => "LibXpc"
  | objC => "ObjC"
  | exec => "Exec"
  | springBoard => "SpringBoard"
  | tcc => "Tcc"
  | reportCrash => "ReportCrash"
  | coreAnimation => "CoreAnimation"
  | aggregated => "Aggregated"
  | runningBoard => "RunningBoard"
  | assertiond => "Assertiond"
  | skywalk => "Skywalk"
  | settings => "Settings"
  | libSystem => "LibSystem"
  | foundation => "Foundation"
  | watchdog => "Watchdog"
  | metal => "Metal"
  | watchKit => "WatchKit"
  | guard => "Guard"
  | analytics => "Analytics"
  | sandbox => "Sandbox"
  | security => "Security"
  | endpointSecurity => "EndpointSecurity"
  | pacException => "PacException"
  | bluetoothChip => "BluetoothChip"

def name (n : Namespace) : String := String.ofList (Text.hyphenated n.title.toList)

def toJson (n : Namespace) : Json := .string n.name

def ofJson? (j : Json) : Option Namespace := j.named? all name

end Namespace
end FaultWatch
