import FaultWatch.Payload.BadAccess
import FaultWatch.Payload.BadInstruction
import FaultWatch.Payload.Arithmetic
import FaultWatch.Payload.Breakpoint
import FaultWatch.Payload.Software
import FaultWatch.Payload.Syscall
import FaultWatch.Payload.Crash
import FaultWatch.Payload.Resource
import FaultWatch.Payload.Guard
import FaultWatch.Payload.Corpse

/-! A fault that has been understood: one payload per category. As JSON it is an object with the
category's name and the payload; the array of the two is read as well. In the array the category is
its bare name. -/
namespace FaultWatch

inductive Diagnosis
  | badAccess (info : BadAccess)
  | badInstruction (info : BadInstruction)
  | arithmetic (info : Arithmetic)
  | emulation (info : Emulation)
  | software (info : Software)
  | breakpoint (info : Breakpoint)
  | syscall (info : Syscall)
  | kernelSyscall (info : Syscall)
  | rpcAlert (info : RpcAlert)
  | crash (info : Crash)
  | resourceLimit (info : Resource)
  | guardViolation (info : Guard)
  | corpseNotify (info : Corpse)
  deriving DecidableEq, Repr

namespace Diagnosis

def category : Diagnosis → Category
  | badAccess _ => .badAccess
  | badInstruction _ => .badInstruction
  | arithmetic _ => .arithmetic
  | emulation _ => .emulation
  | software _ => .software
  | breakpoint _ => .breakpoint
  | syscall _ => .syscall
  | kernelSyscall _ => .kernelSyscall
  | rpcAlert _ => .rpcAlert
  | crash _ => .crash
  | resourceLimit _ => .resourceLimit
  | guardViolation _ => .guardViolation
  | corpseNotify _ => .corpseNotify

def payloadTerm : Diagnosis → Term
  | badAccess info => info.term
  | badInstruction info => info.term
  | arithmetic info => info.term
  | emulation info => info.term
  | software info => info.term
  | breakpoint info => info.term
  | syscall info => info.term
  | kernelSyscall info => info.term
  | rpcAlert info => info.term
  | crash info => info.term
  | resourceLimit info => info.term
  | guardViolation info => info.term
  | corpseNotify info => info.term

def payloadJson : Diagnosis → Json
  | badAccess info => info.toJson
  | badInstruction info => info.toJson
  | arithmetic info => info.toJson
  | emulation info => info.toJson
  | software info => info.toJson
  | breakpoint info => info.toJson
  | syscall info => info.toJson
  | kernelSyscall info => info.toJson
  | rpcAlert info => info.toJson
  | crash info => info.toJson
  | resourceLimit info => info.toJson
  | guardViolation info => info.toJson
  | corpseNotify info => info.toJson

def sentence : Diagnosis → List Char
  | badAccess info => "bad access: ".toList ++ info.term.text
  | badInstruction info => "bad instruction: ".toList ++ info.term.text
  | arithmetic info => "arithmetic fault: ".toList ++ info.term.text
  | emulation info => "emulation: ".toList ++ info.term.text
  | software info => "software exception: ".toList ++ info.term.text
  | breakpoint info => "breakpoint: ".toList ++ info.term.text
  | syscall info => "syscall ".toList ++ Text.signedDecimal info.number.toInt
  | kernelSyscall info => "kernel syscall ".toList ++ Text.signedDecimal info.number.toInt
  | rpcAlert info => "rpc alert for pid ".toList ++ Text.signedDecimal info.pid.toInt
  | crash info => "crash: ".toList ++ info.term.text
  | resourceLimit info => "resource limit: ".toList ++ info.term.text
  | guardViolation info => "guard violation: ".toList ++ info.term.text
  | corpseNotify info => "corpse notify: ".toList ++ info.term.text

def toJson (fault : Diagnosis) : Json :=
  .object [("category", fault.category.toJson), ("info", fault.payloadJson)]

def ofPayload? (category : Category) (payload : Json) : Option Diagnosis :=
  match category with
  | .badAccess => (BadAccess.ofJson? payload).map badAccess
  | .badInstruction => (BadInstruction.ofJson? payload).map badInstruction
  | .arithmetic => (Arithmetic.ofJson? payload).map arithmetic
  | .emulation => (Emulation.ofJson? payload).map emulation
  | .software => (Software.ofJson? payload).map software
  | .breakpoint => (Breakpoint.ofJson? payload).map breakpoint
  | .syscall => (Syscall.ofJson? payload).map syscall
  | .kernelSyscall => (Syscall.ofJson? payload).map kernelSyscall
  | .rpcAlert => (RpcAlert.ofJson? payload).map rpcAlert
  | .crash => (Crash.ofJson? payload).map crash
  | .resourceLimit => (Resource.ofJson? payload).map resourceLimit
  | .guardViolation => (Guard.ofJson? payload).map guardViolation
  | .corpseNotify => (Corpse.ofJson? payload).map corpseNotify

def ofJson? : Json → Option Diagnosis
  | .array [.string name, payload] => do ofPayload? (← Category.ofJson? (.string name)) payload
  | .array _ => none
  | j => do
    let [category, payload] ← j.members? ["category", "info"] | none
    ofPayload? (← Json.required Category.ofJson? category) (← payload)

end Diagnosis
end FaultWatch
