import FaultWatch.Term
import FaultWatch.Json.Read

/-! Intercepted system calls, and alerts raised against a process, which all carry one code. -/
namespace FaultWatch

structure Syscall where
  number : Int64
  deriving DecidableEq, Repr

structure RpcAlert where
  pid : Int64
  deriving DecidableEq, Repr

namespace Syscall

def term (info : Syscall) : Term := .record "SyscallInfo" [("number", .number info.number.toInt)]

def toJson (info : Syscall) : Json := .object [("number", .number info.number.toInt)]

def ofJson? (j : Json) : Option Syscall := do
  let [number] ← j.fields? ["number"] | none
  return ⟨← Json.required Json.int64? number⟩

end Syscall

namespace RpcAlert

def alertCode : Int64 := 0xff000001

def decode? (code subcode : Int64) : Option RpcAlert :=
  if code = alertCode then some ⟨subcode⟩ else none

def term (info : RpcAlert) : Term := .record "RpcAlertInfo" [("pid", .number info.pid.toInt)]

def toJson (info : RpcAlert) : Json := .object [("pid", .number info.pid.toInt)]

def ofJson? (j : Json) : Option RpcAlert := do
  let [pid] ← j.fields? ["pid"] | none
  return ⟨← Json.required Json.int64? pid⟩

end RpcAlert
end FaultWatch
