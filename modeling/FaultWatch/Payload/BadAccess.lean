import FaultWatch.Family
import FaultWatch.Term
import FaultWatch.Json.Read

/-! Illegal memory accesses. Each family names a few codes of its own; the others, up to the highest
kernel return code, are faults of virtual memory and carry that return code. A named code is never
reported as such a fault. -/
namespace FaultWatch

def kernReturnMax : Int := 0x100

inductive BadAccess.Cause
  | vmFault (kernReturn : Int32)
  | dataAlignment
  | dataDebug
  | stackPointerAlignment
  | swapInstruction
  | pointerAuthentication
  | fpuSegmentOverrun
  | generalProtection
  deriving DecidableEq, Repr

structure BadAccess where
  cause : BadAccess.Cause
  address : UInt64
  deriving DecidableEq, Repr

namespace BadAccess
namespace Cause

def named? (family : Family) (code : Int) : Option Cause :=
  match family, code with
  | .arm64, 0x101 => some dataAlignment
  | .arm64, 0x102 => some dataDebug
  | .arm64, 0x103 => some stackPointerAlignment
  | .arm64, 0x104 => some swapInstruction
  | .arm64, 0x105 => some pointerAuthentication
  | .x86, 5 => some fpuSegmentOverrun
  | .x86, 13 => some generalProtection
  | _, _ => none

def ofCode? (family : Family) (code : Int) : Option Cause :=
  match named? family code with
  | some cause => some cause
  | none => if 0 ≤ code ∧ code ≤ kernReturnMax then some (vmFault (Int32.ofInt code)) else none

def bare : List Cause :=
  [dataAlignment, dataDebug, stackPointerAlignment, swapInstruction, pointerAuthentication,
    fpuSegmentOverrun, generalProtection]

def title : Cause → String
  | vmFault _ => "VmFault"
  | dataAlignment => "DataAlignment"
  | dataDebug => "DataDebug"
  | stackPointerAlignment => "StackPointerAlignment"
  | swapInstruction => "SwapInstruction"
  | pointerAuthentication => "PointerAuthentication"
  | fpuSegmentOverrun => "FpuSegmentOverrun"
  | generalProtection => "GeneralProtection"

def term : Cause → Term
  | vmFault n => .record "VmFault" [("kern_return", .number n.toInt)]
  | cause => .name cause.title

def toJson : Cause → Json
  | vmFault n => .object [("VmFault", .object [("kern_return", .number n.toInt)])]
  | cause => .string cause.title

def ofJson? (j : Json) : Option Cause :=
  match j.choice? with
  | some ("VmFault", some body) => do
    let [kernReturn] ← body.members? ["kern_return"] | none
    return vmFault (← Json.required Json.int32? kernReturn)
  | _ => j.named? bare title

end Cause

def decode? (family : Family) (code subcode : Int64) : Option BadAccess :=
  (Cause.ofCode? family code.toInt).map fun cause => ⟨cause, subcode.toUInt64⟩

def term (info : BadAccess) : Term :=
  .record "BadAccessInfo" [("code", info.cause.term), ("address", .number info.address.toNat)]

def toJson (info : BadAccess) : Json :=
  .object [("code", info.cause.toJson), ("address", .number info.address.toNat)]

def ofJson? (j : Json) : Option BadAccess := do
  let [cause, address] ← j.fields? ["code", "address"] | none
  return ⟨← Json.required Cause.ofJson? cause, ← Json.required Json.uint64? address⟩

end BadAccess
end FaultWatch
