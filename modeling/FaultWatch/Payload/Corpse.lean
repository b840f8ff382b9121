import FaultWatch.Category
import FaultWatch.Payload.Resource
import FaultWatch.Payload.Guard

/-! Notices of a corpse. The code is the number of the category that ended the process; the subcode
is that category's code word, with no subcode of its own, or for a crash a packed reason. -/
namespace FaultWatch

inductive Corpse
  | crash (space : Namespace) (reason : UInt64)
  | resource (info : Resource)
  | guard (info : Guard)
  deriving DecidableEq, Repr

namespace Corpse

def crashOfWord? (word : UInt64) : Option Corpse :=
  (Namespace.ofNumber? (namespaceField.extract word)).map fun space =>
    crash space (reasonField.extract word)

def decode? (code subcode : Int64) : Option Corpse :=
  match Category.ofNumber? code.toInt with
  | some .crash => crashOfWord? subcode.toUInt64
  | some .resourceLimit => (Resource.decode? subcode 0).map resource
  | some .guardViolation => (Guard.decode? subcode 0).map guard
  | _ => none

def term : Corpse → Term
  | crash space reason =>
    .record "Crash" [("namespace", .name space.title), ("reason", .number reason.toNat)]
  | resource info => .applied "Resource" info.term
  | guard info => .applied "Guard" info.term

def toJson : Corpse → Json
  | crash space reason =>
    .object [("Crash", .object [("namespace", space.toJson), ("reason", .number reason.toNat)])]
  | resource info => .object [("Resource", info.toJson)]
  | guard info => .object [("Guard", info.toJson)]

def ofJson? (j : Json) : Option Corpse :=
  match j.choice? with
  | some ("Crash", some body) => do
    let [space, reason] ← body.members? ["namespace", "reason"] | none
    return crash (← Json.required Namespace.ofJson? space) (← Json.required Json.uint64? reason)
  | some ("Resource", some body) => (Resource.ofJson? body).map resource
  | some ("Guard", some body) => (Guard.ofJson? body).map guard
  | _ => none

end Corpse
end FaultWatch
