import FaultWatch.Category
import FaultWatch.Payload.Fields
import FaultWatch.Term

/-! Abnormal exits. The code word packs what ended the process into its low 32 bits; the upper half
is ignored when it is read and zero when it is written. -/
namespace FaultWatch

structure Crash where
  originalException : UInt8
  originalCode : UInt32
  signal : UInt8
  deriving DecidableEq, Repr

namespace Crash

def ofWord (word : UInt64) : Crash :=
  ⟨(originalExceptionField.extract word).toUInt8, (originalCodeField.extract word).toUInt32,
    (signalField.extract word).toUInt8⟩

def toWord (info : Crash) : UInt64 :=
  signalField.insert
    (originalCodeField.insert
      (originalExceptionField.insert 0 info.originalException.toUInt64)
      info.originalCode.toUInt64)
    info.signal.toUInt64

def originalCategory? (info : Crash) : Option Category :=
  Category.ofNumber? info.originalException.toNat

def term (info : Crash) : Term :=
  .record "CrashInfo"
    [("original_exception", .number info.originalException.toNat),
      ("original_code", .number info.originalCode.toNat), ("signal", .number info.signal.toNat)]

def toJson (info : Crash) : Json :=
  .object
    [("original_exception", .number info.originalException.toNat),
      ("original_code", .number info.originalCode.toNat), ("signal", .number info.signal.toNat)]

def ofJson? (j : Json) : Option Crash := do
  let [exception, code, signal] ←
    j.fields? ["original_exception", "original_code", "signal"] | none
  return ⟨← Json.required Json.uint8? exception, ← Json.required Json.uint32? code,
    ← Json.required Json.uint8? signal⟩

end Crash
end FaultWatch
