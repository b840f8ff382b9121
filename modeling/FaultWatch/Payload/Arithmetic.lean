import FaultWatch.Family
import FaultWatch.Term
import FaultWatch.Json.Read

/-! Arithmetic faults. The subcode is the instruction word on arm64 and a control register on
x86. -/
namespace FaultWatch

inductive Arithmetic.Cause
  | undefined
  | invalidOperation
  | divideByZero
  | overflow
  | underflow
  | inexact
  | denormalInput
  | noFpu
  | fpuError
  | simdError
  deriving DecidableEq, Repr

structure Arithmetic where
  family : Family
  cause : Arithmetic.Cause
  subcode : UInt64
  deriving DecidableEq, Repr

namespace Arithmetic
namespace Cause

def ofCode? (family : Family) (code : Int) : Option Cause :=
  match family, code with
  | .arm64, 0 => some undefined
  | .arm64, 1 => some invalidOperation
  | .arm64, 2 => some divideByZero
  | .arm64, 3 => some overflow
  | .arm64, 4 => some underflow
  | .arm64, 5 => some inexact
  | .arm64, 6 => some denormalInput
  | .x86, 1 => some divideByZero
  | .x86, 2 => some overflow
  | .x86, 3 => some noFpu
  | .x86, 5 => some fpuError
  | .x86, 8 => some simdError
  | _, _ => none

def all : List Cause :=
  [undefined, invalidOperation, divideByZero, overflow, underflow, inexact, denormalInput, noFpu,
    fpuError, simdError]

def title : Cause → String
  | undefined => "Undefined"
  | invalidOperation => "InvalidOperation"
  | divideByZero => "DivideByZero"
  | overflow => "Overflow"
  | underflow => "Underflow"
  | inexact => "Inexact"
  | denormalInput => "DenormalInput"
  | noFpu => "NoFpu"
  | fpuError => "FpuError"
  | simdError => "SimdError"

end Cause

def instruction? (info : Arithmetic) : Option UInt64 :=
  if info.family = .arm64 then some info.subcode else none

def controlStatus? (info : Arithmetic) : Option UInt64 :=
  if info.family = .x86 then some info.subcode else none

def decode? (family : Family) (code subcode : Int64) : Option Arithmetic :=
  (Cause.ofCode? family code.toInt).map fun cause => ⟨family, cause, subcode.toUInt64⟩

def term (info : Arithmetic) : Term :=
  .record "ArithmeticInfo"
    [("arch", .name info.family.title), ("code", .name info.cause.title),
      ("subcode", .number info.subcode.toNat)]

def toJson (info : Arithmetic) : Json :=
  .object
    [("arch", info.family.toJson), ("code", .string info.cause.title),
      ("subcode", .number info.subcode.toNat)]

def ofJson? (j : Json) : Option Arithmetic := do
  let [family, cause, subcode] ← j.fields? ["arch", "code", "subcode"] | none
  return ⟨← Json.required Family.ofJson? family,
    ← Json.required (Json.named? Cause.all Cause.title) cause,
    ← Json.required Json.uint64? subcode⟩

end Arithmetic
end FaultWatch
