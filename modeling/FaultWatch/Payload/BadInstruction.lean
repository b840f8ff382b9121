import FaultWatch.Payload.BadAccess

/-! Illegal instructions. The subcode is the instruction word on arm64 and an address on x86. Only
x86 reports page faults, by the kernel return code. -/
namespace FaultWatch

inductive BadInstruction.Cause
  | undefined
  | invalidOpcode
  | invalidTss
  | segmentNotPresent
  | stackFault
  | pageFault (kernReturn : Int32)
  deriving DecidableEq, Repr

structure BadInstruction where
  family : Family
  cause : BadInstruction.Cause
  subcode : UInt64
  deriving DecidableEq, Repr

namespace BadInstruction
namespace Cause

def named? (family : Family) (code : Int) : Option Cause :=
  match family, code with
  | .arm64, 1 => some undefined
  | .x86, 1 => some invalidOpcode
  | .x86, 10 => some invalidTss
  | .x86, 11 => some segmentNotPresent
  | .x86, 12 => some stackFault
  | _, _ => none

def ofCode? (family : Family) (code : Int) : Option Cause :=
  match named? family code with
  | some cause => some cause
  | none =>
    if family = .x86 ∧ 0 ≤ code ∧ code ≤ kernReturnMax then some (pageFault (Int32.ofInt code))
    else none

def bare : List Cause := [undefined, invalidOpcode, invalidTss, segmentNotPresent, stackFault]

def title : Cause → String
  | undefined => "Undefined"
  | invalidOpcode => "InvalidOpcode"
  | invalidTss => "InvalidTss"
  | segmentNotPresent => "SegmentNotPresent"
  | stackFault => "StackFault"
  | pageFault _ => "PageFault"

def term : Cause → Term
  | pageFault n => .record "PageFault" [("kern_return", .number n.toInt)]
  | cause => .name cause.title

def toJson : Cause → Json
  | pageFault n => .object [("PageFault", .object [("kern_return", .number n.toInt)])]
  | cause => .string cause.title

def ofJson? (j : Json) : Option Cause :=
  match j.choice? with
  | some ("PageFault", some body) => do
    let [kernReturn] ← body.members? ["kern_return"] | none
    return pageFault (← Json.required Json.int32? kernReturn)
  | _ => j.named? bare title

end Cause

def instruction? (info : BadInstruction) : Option UInt64 :=
  if info.family = .arm64 then some info.subcode else none

def address? (info : BadInstruction) : Option UInt64 :=
  if info.family = .x86 then some info.subcode else none

def decode? (family : Family) (code subcode : Int64) : Option BadInstruction :=
  (Cause.ofCode? family code.toInt).map fun cause => ⟨family, cause, subcode.toUInt64⟩

def term (info : BadInstruction) : Term :=
  .record "BadInstructionInfo"
    [("arch", .name info.family.title), ("code", info.cause.term),
      ("subcode", .number info.subcode.toNat)]

def toJson (info : BadInstruction) : Json :=
  .object
    [("arch", info.family.toJson), ("code", info.cause.toJson),
      ("subcode", .number info.subcode.toNat)]

def ofJson? (j : Json) : Option BadInstruction := do
  let [family, cause, subcode] ← j.fields? ["arch", "code", "subcode"] | none
  return ⟨← Json.required Family.ofJson? family, ← Json.required Cause.ofJson? cause,
    ← Json.required Json.uint64? subcode⟩

end BadInstruction
end FaultWatch
