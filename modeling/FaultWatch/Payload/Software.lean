import FaultWatch.Term
import FaultWatch.Json.Read

/-! Exceptions raised by software, and emulation traps, whose words carry no further structure.
Codes of 16 bits are left to the hardware. -/
namespace FaultWatch

inductive Software.Cause
  | hardware (code : UInt16)
  | badSyscall
  | badPipe
  | abort
  | signal
  deriving DecidableEq, Repr

structure Software where
  cause : Software.Cause
  subcode : UInt64
  deriving DecidableEq, Repr

structure Emulation where
  code : Int64
  subcode : Int64
  deriving DecidableEq, Repr

namespace Software
namespace Cause

def ofCode? (code : Int) : Option Cause :=
  match code with
  | 0x10000 => some badSyscall
  | 0x10001 => some badPipe
  | 0x10002 => some abort
  | 0x10003 => some signal
  | n => if 0 ≤ n ∧ n ≤ 0xffff then some (hardware (UInt16.ofNat n.toNat)) else none

def bare : List Cause := [badSyscall, badPipe, abort, signal]

def title : Cause → String
  | hardware _ => "Hardware"
  | badSyscall => "BadSyscall"
  | badPipe => "BadPipe"
  | abort => "Abort"
  | signal => "Signal"

def term : Cause → Term
  | hardware code => .applied "Hardware" (.number code.toNat)
  | cause => .name cause.title

def toJson : Cause → Json
  | hardware code => .object [("Hardware", .number code.toNat)]
  | cause => .string cause.title

def ofJson? (j : Json) : Option Cause :=
  match j.choice? with
  | some ("Hardware", some body) => body.uint16?.map hardware
  | _ => j.named? bare title

end Cause

def signal? (info : Software) : Option UInt64 :=
  if info.cause = .signal then some info.subcode else none

def decode? (code subcode : Int64) : Option Software :=
  (Cause.ofCode? code.toInt).map fun cause => ⟨cause, subcode.toUInt64⟩

def term (info : Software) : Term :=
  .record "SoftwareInfo" [("code", info.cause.term), ("subcode", .number info.subcode.toNat)]

def toJson (info : Software) : Json :=
  .object [("code", info.cause.toJson), ("subcode", .number info.subcode.toNat)]

def ofJson? (j : Json) : Option Software := do
  let [cause, subcode] ← j.fields? ["code", "subcode"] | none
  return ⟨← Json.required Cause.ofJson? cause, ← Json.required Json.uint64? subcode⟩

end Software

namespace Emulation

def term (info : Emulation) : Term :=
  .record "EmulationInfo"
    [("code", .number info.code.toInt), ("subcode", .number info.subcode.toInt)]

def toJson (info : Emulation) : Json :=
  .object [("code", .number info.code.toInt), ("subcode", .number info.subcode.toInt)]

def ofJson? (j : Json) : Option Emulation := do
  let [code, subcode] ← j.fields? ["code", "subcode"] | none
  return ⟨← Json.required Json.int64? code, ← Json.required Json.int64? subcode⟩

end Emulation
end FaultWatch
