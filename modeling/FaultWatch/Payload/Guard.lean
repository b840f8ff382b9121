import FaultWatch.BitNames
import FaultWatch.Payload.Fields
import FaultWatch.Term
import FaultWatch.Payload.Namespace

/-! Violated guards. The top three bits of the code word say what was guarded, the rest of it and
the subcode are laid out as that asks. Sets of operations keep bits without a name. A port guard
tripped for one bit of those that have names, or for any other number. -/
namespace FaultWatch

structure PortReason where
  value : UInt64
  deriving DecidableEq, Repr

structure DescriptorOps where
  bits : UInt32
  deriving DecidableEq, Repr

structure FileOps where
  bits : UInt64
  deriving DecidableEq, Repr

inductive Guard
  | none
  | port (name : UInt32) (reason : PortReason) (guardId : Int64)
  | descriptor (number : Int32) (ops : DescriptorOps) (guardId : Int64)
  | user (space : Namespace) (reason : Int64)
  | file (pid : Int32) (ops : FileOps)
  | memory (offset : Int64)
  deriving DecidableEq, Repr

namespace PortReason

def bitNames : List String :=
  ["destroy", "mod-refs", "set-context", "unguarded", "incorrect-guard", "immovable",
    "strict-reply", "msg-filtered", "invalid-right", "invalid-name", "invalid-value",
    "invalid-argument", "right-exists", "kern-no-space", "kern-failure", "kern-resource",
    "send-invalid-reply", "send-invalid-voucher", "send-invalid-right", "rcv-invalid-name",
    "rcv-guarded-desc"]

def name? (reason : PortReason) : Option String :=
  (bitNames.zipIdx.find? fun entry => reason.value.toNat == 1 <<< entry.2).map (·.1)

def text (reason : PortReason) : List Char :=
  match reason.name? with
  | some name => name.toList
  | none => Text.hexadecimal reason.value.toNat

def term (reason : PortReason) : Term := .applied "PortGuardReason" (.number reason.value.toNat)

def toJson (reason : PortReason) : Json := .number reason.value.toNat

def ofJson? (j : Json) : Option PortReason := j.uint64?.map PortReason.mk

end PortReason

namespace DescriptorOps

def names : BitNames :=
  ["CLOSE", "DUP", "NOCLOEXEC", "SOCKET_IPC", "FILEPORT", "MISMATCH", "WRITE"].zipIdx

def term (ops : DescriptorOps) : Term :=
  .applied "FdGuardFlavor" (names.term ops.bits.toNat)

def toJson (ops : DescriptorOps) : Json := .string (String.ofList (names.text ops.bits.toNat))

def ofJson? (j : Json) : Option DescriptorOps := do
  let bits ← names.read? UInt32.size (← j.text?).toList
  return ⟨UInt32.ofNat bits⟩

end DescriptorOps

namespace FileOps

def names : BitNames :=
  ["RENAME_TO", "RENAME_FROM", "UNLINK", "WRITE_OTHER", "TRUNCATE_OTHER", "LINK",
    "EXCHDATA"].zipIdx

def term (ops : FileOps) : Term := .applied "VnodeGuardOps" (names.term ops.bits.toNat)

def toJson (ops : FileOps) : Json := .string (String.ofList (names.text ops.bits.toNat))

def ofJson? (j : Json) : Option FileOps := do
  let bits ← names.read? UInt64.size (← j.text?).toList
  return ⟨UInt64.ofNat bits⟩

end FileOps

namespace Guard

def ofWords? (code : UInt64) (subcode : Int64) : Option Guard :=
  match (kindField.extract code).toNat with
  | 0 => some none
  | 1 => some (port (portNameField.extract code).toUInt32 ⟨reasonField.extract code⟩ subcode)
  | 2 => some (descriptor (descriptorField.extract code).toUInt32.toInt32
      ⟨(flavorField.extract code).toUInt32⟩ subcode)
  | 3 => (Namespace.ofNumber? (namespaceField.extract code)).map fun space => user space subcode
  | 4 => some (file (pidField.extract code).toUInt32.toInt32 ⟨subcode.toUInt64⟩)
  | 5 => some (memory subcode)
  | _ => Option.none

def decode? (code subcode : Int64) : Option Guard := ofWords? code.toUInt64 subcode

def term : Guard → Term
  | none => .name "None"
  | port name reason guardId =>
    .record "MachPort"
      [("port", .number name.toNat), ("reason", reason.term), ("guard_id", .number guardId.toInt)]
  | descriptor number ops guardId =>
    .record "FileDescriptor"
      [("fd", .number number.toInt), ("flavor", ops.term), ("guard_id", .number guardId.toInt)]
  | user space reason =>
    .record "User" [("namespace", .name space.title), ("reason", .number reason.toInt)]
  | file pid ops => .record "Vnode" [("pid", .number pid.toInt), ("ops", ops.term)]
  | memory offset => .record "VirtualMemory" [("offset", .number offset.toInt)]

def toJson : Guard → Json
  | none => .string "None"
  | port name reason guardId =>
    .object [("MachPort", .object
      [("port", .number name.toNat), ("reason", reason.toJson),
        ("guard_id", .number guardId.toInt)])]
  | descriptor number ops guardId =>
    .object [("FileDescriptor", .object
      [("fd", .number number.toInt), ("flavor", ops.toJson),
        ("guard_id", .number guardId.toInt)])]
  | user space reason =>
    .object [("User", .object [("namespace", space.toJson), ("reason", .number reason.toInt)])]
  | file pid ops => .object [("Vnode", .object [("pid", .number pid.toInt), ("ops", ops.toJson)])]
  | memory offset => .object [("VirtualMemory", .object [("offset", .number offset.toInt)])]

def ofJson? (j : Json) : Option Guard :=
  match j.choice? with
  | some ("MachPort", some body) => do
    let [name, reason, guardId] ← body.members? ["port", "reason", "guard_id"] | Option.none
    return port (← Json.required Json.uint32? name) (← Json.required PortReason.ofJson? reason)
      (← Json.required Json.int64? guardId)
  | some ("FileDescriptor", some body) => do
    let [number, ops, guardId] ← body.members? ["fd", "flavor", "guard_id"] | Option.none
    return descriptor (← Json.required Json.int32? number)
      (← Json.required DescriptorOps.ofJson? ops) (← Json.required Json.int64? guardId)
  | some ("User", some body) => do
    let [space, reason] ← body.members? ["namespace", "reason"] | Option.none
    return user (← Json.required Namespace.ofJson? space) (← Json.required Json.int64? reason)
  | some ("Vnode", some body) => do
    let [pid, ops] ← body.members? ["pid", "ops"] | Option.none
    return file (← Json.required Json.int32? pid) (← Json.required FileOps.ofJson? ops)
  | some ("VirtualMemory", some body) => do
    let [offset] ← body.members? ["offset"] | Option.none
    return memory (← Json.required Json.int64? offset)
  | _ => do
    let "None" ← j.bareChoice? | Option.none
    return none

end Guard
end FaultWatch
