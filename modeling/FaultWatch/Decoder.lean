import FaultWatch.Fault
import FaultWatch.Diagnosis

/-! From a fault as delivered to its diagnosis. Four categories are raised by the processor and need
its family; the others decode alike everywhere. System calls need the code word only, all else
needs both words. Words that fit no layout decode to nothing. -/
namespace FaultWatch

structure Decoder where
  family : Option Family
  deriving DecidableEq, Repr

namespace Decoder

def host : Decoder := ⟨some .host⟩

def choose (family : Option Family) : Decoder :=
  match family with
  | some f => ⟨some f⟩
  | none => host

def decodeWords? (decoder : Decoder) (category : Category) (code subcode : Int64) :
    Option Diagnosis :=
  match category with
  | .badAccess => do return .badAccess (← BadAccess.decode? (← decoder.family) code subcode)
  | .badInstruction => do
    return .badInstruction (← BadInstruction.decode? (← decoder.family) code subcode)
  | .arithmetic => do return .arithmetic (← Arithmetic.decode? (← decoder.family) code subcode)
  | .breakpoint => do return .breakpoint (← Breakpoint.decode? (← decoder.family) code subcode)
  | .emulation => some (.emulation ⟨code, subcode⟩)
  | .software => (Software.decode? code subcode).map .software
  | .syscall => some (.syscall ⟨code⟩)
  | .kernelSyscall => some (.kernelSyscall ⟨code⟩)
  | .rpcAlert => (RpcAlert.decode? code subcode).map .rpcAlert
  | .crash => some (.crash (Crash.ofWord code.toUInt64))
  | .resourceLimit => (Resource.decode? code subcode).map .resourceLimit
  | .guardViolation => (Guard.decode? code subcode).map .guardViolation
  | .corpseNotify => (Corpse.decode? code subcode).map .corpseNotify

def decode? (decoder : Decoder) (raw : Fault) : Option Diagnosis :=
  match raw.category, raw.code, raw.subcode with
  | .syscall, some code, none => some (.syscall ⟨code⟩)
  | .kernelSyscall, some code, none => some (.kernelSyscall ⟨code⟩)
  | category, some code, some subcode => decoder.decodeWords? category code subcode
  | _, _, _ => none

end Decoder
end FaultWatch
