import FaultWatch.Diagnosis
import FaultWatch.Fault
import FaultWatch.Proofs.BitNames
import FaultWatch.Proofs.Json.Read

/-! Payloads read back from JSON, each type by the types of its parts: records by their members,
choices by their names, sets of bits by their text. No tag of a choice is taken for another, and
bits without a name are kept. The main statement is `Diagnosis.faithful`. -/
namespace FaultWatch
open Json (Faithful)

theorem Family.faithful : Faithful toJson ofJson? where
  whole := fun _ => trivial
  read := fun f => by cases f <;> rfl

theorem Category.faithful : Faithful toJson ofJson? where
  whole := fun _ => trivial
  read := fun c => by cases c <;> rfl

theorem Namespace.nameOwn : ∀ space ∈ all, ∀ other ∈ all, other.name = space.name → other = space := by
  decide +kernel

theorem Namespace.listed (space : Namespace) : space ∈ all := by
  cases space <;> decide

theorem Namespace.faithful : Faithful toJson ofJson? where
  whole := fun _ => trivial
  read := fun space => Json.namedRead space.listed (nameOwn space space.listed)

theorem BadAccess.Cause.vmFaultRead {body number : Json} {n : Int32}
    (members : body.members? ["kern_return"] = some [some number])
    (read : number.int32? = some n) :
    ofJson? (.object [("VmFault", body)]) = some (vmFault n) := by
  simp [ofJson?, Json.choice?, members, Json.requiredRead, read]

theorem BadAccess.Cause.faithful : Faithful toJson ofJson? where
  whole := fun cause => by cases cause <;> simp [toJson]
  read := fun cause => by
    cases cause with
    | vmFault n => exact vmFaultRead rfl (Json.int32Read n)
    | _ => rfl

theorem BadAccess.faithful : Faithful toJson ofJson? where
  whole := fun info => by simp [toJson, Cause.faithful.whole]
  read := fun info => by
    have record : info.toJson.fields? ["code", "address"] =
      some [some info.cause.toJson, some (.number info.address.toNat)] := rfl
    simp [ofJson?, record, Json.requiredRead, Cause.faithful.read, Json.uint64Read]

theorem BadInstruction.Cause.pageFaultRead {body number : Json} {n : Int32}
    (members : body.members? ["kern_return"] = some [some number])
    (read : number.int32? = some n) :
    ofJson? (.object [("PageFault", body)]) = some (pageFault n) := by
  simp [ofJson?, Json.choice?, members, Json.requiredRead, read]

theorem BadInstruction.Cause.faithful : Faithful toJson ofJson? where
  whole := fun cause => by cases cause <;> simp [toJson]
  read := fun cause => by
    cases cause with
    | pageFault n => exact pageFaultRead rfl (Json.int32Read n)
    | _ => rfl

theorem BadInstruction.faithful : Faithful toJson ofJson? where
  whole := fun info => by simp [toJson, Family.faithful.whole, Cause.faithful.whole]
  read := fun info => by
    have record : info.toJson.fields? ["arch", "code", "subcode"] =
      some [some info.family.toJson, some info.cause.toJson, some (.number info.subcode.toNat)] := rfl
    simp [ofJson?, record, Json.requiredRead, Family.faithful.read, Cause.faithful.read,
      Json.uint64Read]

theorem Arithmetic.Cause.named (cause : Cause) :
    (Json.string cause.title).named? all title = some cause := by
  cases cause <;> rfl

theorem Arithmetic.faithful : Faithful toJson ofJson? where
  whole := fun info => by simp [toJson, Family.faithful.whole]
  read := fun info => by
    have record : info.toJson.fields? ["arch", "code", "subcode"] =
      some [some info.family.toJson, some (.string info.cause.title),
        some (.number info.subcode.toNat)] := rfl
    simp [ofJson?, record, Json.requiredRead, Family.faithful.read, Cause.named, Json.uint64Read]

theorem Software.Cause.hardwareRead {number : Json} {code : UInt16}
    (read : number.uint16? = some code) :
    ofJson? (.object [("Hardware", number)]) = some (hardware code) := by
  simp [ofJson?, Json.choice?, read]

theorem Software.Cause.faithful : Faithful toJson ofJson? where
  whole := fun cause => by cases cause <;> simp [toJson]
  read := fun cause => by
    cases cause with
    | hardware code => exact hardwareRead (Json.uint16Read code)
    | _ => rfl

theorem Software.faithful : Faithful toJson ofJson? where
  whole := fun info => by simp [toJson, Cause.faithful.whole]
  read := fun info => by
    have record : info.toJson.fields? ["code", "subcode"] =
      some [some info.cause.toJson, some (.number info.subcode.toNat)] := rfl
    simp [ofJson?, record, Json.requiredRead, Cause.faithful.read, Json.uint64Read]

theorem Emulation.faithful : Faithful toJson ofJson? where
  whole := fun info => by simp [toJson]
  read := fun info => by
    have record : info.toJson.fields? ["code", "subcode"] =
      some [some (.number info.code.toInt), some (.number info.subcode.toInt)] := rfl
    simp [ofJson?, record, Json.requiredRead, Json.int64Read]

theorem Syscall.faithful : Faithful toJson ofJson? where
  whole := fun info => by simp [toJson]
  read := fun info => by
    have record : info.toJson.fields? ["number"] = some [some (.number info.number.toInt)] := rfl
    simp [ofJson?, record, Json.requiredRead, Json.int64Read]

theorem RpcAlert.faithful : Faithful toJson ofJson? where
  whole := fun info => by simp [toJson]
  read := fun info => by
    have record : info.toJson.fields? ["pid"] = some [some (.number info.pid.toInt)] := rfl
    simp [ofJson?, record, Json.requiredRead, Json.int64Read]

theorem Crash.faithful : Faithful toJson ofJson? where
  whole := fun info => by simp [toJson]
  read := fun info => by
    have record : info.toJson.fields? ["original_exception", "original_code", "signal"] =
      some [some (.number info.originalException.toNat), some (.number info.originalCode.toNat),
        some (.number info.signal.toNat)] := rfl
    simp [ofJson?, record, Json.requiredRead, Json.uint8Read, Json.uint32Read]

namespace Breakpoint

variable {body number word : Json} {address subcode : UInt64} {instruction : UInt32}

theorem Trap.named (kind : Trap) : (Json.string kind.title).named? all title = some kind := by
  cases kind <;> rfl

theorem breakpointRead (members : body.members? ["address"] = some [some number])
    (read : number.uint64? = some address) :
    ofJson? (.object [("Breakpoint", body)]) = some (breakpoint address) := by
  -- the tag is known, so the arm is found by computation, here and in each variant below
  change (body.members? _ >>= _) = _
  simp [members, Json.requiredRead, read]

theorem debuggerTrapRead (members : body.members? ["instruction"] = some [some word])
    (read : word.uint32? = some instruction) :
    ofJson? (.object [("DebuggerTrap", body)]) = some (debuggerTrap instruction) := by
  change (body.members? _ >>= _) = _
  simp [members, Json.requiredRead, read]

theorem watchpointRead (members : body.members? ["address"] = some [some number])
    (read : number.uint64? = some address) :
    ofJson? (.object [("Watchpoint", body)]) = some (watchpoint address) := by
  change (body.members? _ >>= _) = _
  simp [members, Json.requiredRead, read]

theorem trapRead {kind : Trap}
    (members : body.members? ["kind", "subcode"] = some [some (.string kind.title), some number])
    (read : number.uint64? = some subcode) :
    ofJson? (.object [("Trap", body)]) = some (trap kind subcode) := by
  change (body.members? _ >>= _) = _
  simp [members, Json.requiredRead, Trap.named, read]

theorem faithful : Faithful toJson ofJson? where
  whole := fun info => by cases info <;> simp [toJson]
  read := fun info => by
    cases info with
    | breakpoint address => exact breakpointRead rfl (Json.uint64Read address)
    | debuggerTrap word => exact debuggerTrapRead rfl (Json.uint32Read word)
    | watchpoint address => exact watchpointRead rfl (Json.uint64Read address)
    | singleStep => rfl
    | trap kind subcode => exact trapRead rfl (Json.uint64Read subcode)

end Breakpoint

namespace Resource

variable {body first second third : Json} {a b c : UInt64}

theorem CpuFlavor.named (why : CpuFlavor) :
    (Json.string why.title).named? all title = some why := by
  cases why <;> rfl

theorem WakeupsFlavor.named (why : WakeupsFlavor) :
    (Json.string why.title).named? all title = some why := by
  cases why
  rfl

theorem MemoryFlavor.named (why : MemoryFlavor) :
    (Json.string why.title).named? all title = some why := by
  cases why
  rfl

theorem IoFlavor.named (why : IoFlavor) :
    (Json.string why.title).named? all title = some why := by
  cases why <;> rfl

theorem ThreadsFlavor.named (why : ThreadsFlavor) :
    (Json.string why.title).named? all title = some why := by
  cases why
  rfl

theorem cpuRead {why : CpuFlavor}
    (members : body.members? ["flavor", "interval", "limit", "utilization"] =
      some [some (.string why.title), some first, some second, some third])
    (readFirst : first.uint64? = some a) (readSecond : second.uint64? = some b)
    (readThird : third.uint64? = some c) :
    ofJson? (.object [("Cpu", body)]) = some (cpu why a b c) := by
  change (body.members? _ >>= _) = _
  simp [members, Json.requiredRead, why.named, readFirst, readSecond,
    readThird]

theorem wakeupsRead {why : WakeupsFlavor}
    (members : body.members? ["flavor", "interval", "permitted", "observed"] =
      some [some (.string why.title), some first, some second, some third])
    (readFirst : first.uint64? = some a) (readSecond : second.uint64? = some b)
    (readThird : third.uint64? = some c) :
    ofJson? (.object [("Wakeups", body)]) = some (wakeups why a b c) := by
  change (body.members? _ >>= _) = _
  simp [members, Json.requiredRead, why.named, readFirst, readSecond,
    readThird]

theorem memoryRead {why : MemoryFlavor}
    (members : body.members? ["flavor", "high_watermark"] =
      some [some (.string why.title), some first])
    (read : first.uint64? = some a) :
    ofJson? (.object [("Memory", body)]) = some (memory why a) := by
  change (body.members? _ >>= _) = _
  simp [members, Json.requiredRead, why.named, read]

theorem ioRead {why : IoFlavor}
    (members : body.members? ["flavor", "interval", "limit", "count"] =
      some [some (.string why.title), some first, some second, some third])
    (readFirst : first.uint64? = some a) (readSecond : second.uint64? = some b)
    (readThird : third.uint64? = some c) :
    ofJson? (.object [("Io", body)]) = some (io why a b c) := by
  change (body.members? _ >>= _) = _
  simp [members, Json.requiredRead, why.named, readFirst, readSecond,
    readThird]

theorem threadsRead {why : ThreadsFlavor}
    (members : body.members? ["flavor", "count"] = some [some (.string why.title), some first])
    (read : first.uint64? = some a) :
    ofJson? (.object [("Threads", body)]) = some (threads why a) := by
  change (body.members? _ >>= _) = _
  simp [members, Json.requiredRead, why.named, read]

theorem faithful : Faithful toJson ofJson? where
  whole := fun info => by cases info <;> simp [toJson]
  read := fun info => by
    cases info with
    | cpu why interval limit utilization =>
      exact cpuRead rfl (Json.uint64Read _) (Json.uint64Read _) (Json.uint64Read _)
    | wakeups why interval permitted observed =>
      exact wakeupsRead rfl (Json.uint64Read _) (Json.uint64Read _) (Json.uint64Read _)
    | memory why highWatermark => exact memoryRead rfl (Json.uint64Read _)
    | io why interval limit count =>
      exact ioRead rfl (Json.uint64Read _) (Json.uint64Read _) (Json.uint64Read _)
    | threads why count => exact threadsRead rfl (Json.uint64Read _)

end Resource

theorem PortReason.faithful : Faithful toJson ofJson? where
  whole := fun _ => trivial
  read := fun reason => by rw [toJson, ofJson?, Json.uint64Read]; rfl

theorem DescriptorOps.legible : names.Legible := by
  constructor <;> decide

theorem DescriptorOps.faithful : Faithful toJson ofJson? where
  whole := fun _ => trivial
  read := fun ops => by
    have read := names.textRead legible ops.bits.toNat_lt
    simp [toJson, ofJson?, Json.text?, UInt32.size, read]

theorem FileOps.legible : names.Legible := by
  constructor <;> decide

theorem FileOps.faithful : Faithful toJson ofJson? where
  whole := fun _ => trivial
  read := fun ops => by
    have read := names.textRead legible ops.bits.toNat_lt
    simp [toJson, ofJson?, Json.text?, UInt64.size, read]

namespace Guard

variable {body first second third : Json} {name : UInt32} {number : Int32} {word : Int64}
  {reason : PortReason} {space : Namespace}

theorem portRead (members : body.members? ["port", "reason", "guard_id"] =
      some [some first, some second, some third])
    (readFirst : first.uint32? = some name) (readSecond : PortReason.ofJson? second = some reason)
    (readThird : third.int64? = some word) :
    ofJson? (.object [("MachPort", body)]) = some (port name reason word) := by
  change (body.members? _ >>= _) = _
  simp [members, Json.requiredRead, readFirst, readSecond, readThird]

theorem descriptorRead {ops : DescriptorOps}
    (members : body.members? ["fd", "flavor", "guard_id"] =
      some [some first, some second, some third])
    (readFirst : first.int32? = some number) (readSecond : DescriptorOps.ofJson? second = some ops)
    (readThird : third.int64? = some word) :
    ofJson? (.object [("FileDescriptor", body)]) = some (descriptor number ops word) := by
  change (body.members? _ >>= _) = _
  simp [members, Json.requiredRead, readFirst, readSecond, readThird]

theorem userRead (members : body.members? ["namespace", "reason"] = some [some first, some second])
    (readFirst : Namespace.ofJson? first = some space) (readSecond : second.int64? = some word) :
    ofJson? (.object [("User", body)]) = some (user space word) := by
  change (body.members? _ >>= _) = _
  simp [members, Json.requiredRead, readFirst, readSecond]

theorem fileRead {ops : FileOps}
    (members : body.members? ["pid", "ops"] = some [some first, some second])
    (readFirst : first.int32? = some number) (readSecond : FileOps.ofJson? second = some ops) :
    ofJson? (.object [("Vnode", body)]) = some (file number ops) := by
  change (body.members? _ >>= _) = _
  simp [members, Json.requiredRead, readFirst, readSecond]

theorem memoryRead (members : body.members? ["offset"] = some [some first])
    (read : first.int64? = some word) :
    ofJson? (.object [("VirtualMemory", body)]) = some (memory word) := by
  change (body.members? _ >>= _) = _
  simp [members, Json.requiredRead, read]

theorem faithful : Faithful toJson ofJson? where
  whole := fun info => by
    cases info <;> simp [toJson, PortReason.faithful.whole, DescriptorOps.faithful.whole,
      Namespace.faithful.whole, FileOps.faithful.whole]
  read := fun info => by
    cases info with
    | none => rfl
    | port name reason guardId =>
      exact portRead rfl (Json.uint32Read name) (PortReason.faithful.read reason)
        (Json.int64Read guardId)
    | descriptor number ops guardId =>
      exact descriptorRead rfl (Json.int32Read number) (DescriptorOps.faithful.read ops)
        (Json.int64Read guardId)
    | user space reason =>
      exact userRead rfl (Namespace.faithful.read space) (Json.int64Read reason)
    | file pid ops => exact fileRead rfl (Json.int32Read pid) (FileOps.faithful.read ops)
    | memory offset => exact memoryRead rfl (Json.int64Read offset)

end Guard

namespace Corpse

variable {body first second : Json}

theorem crashRead {space : Namespace} {reason : UInt64}
    (members : body.members? ["namespace", "reason"] = some [some first, some second])
    (readFirst : Namespace.ofJson? first = some space) (readSecond : second.uint64? = some reason) :
    ofJson? (.object [("Crash", body)]) = some (crash space reason) := by
  change (body.members? _ >>= _) = _
  simp [members, Json.requiredRead, readFirst, readSecond]

theorem resourceRead {info : Resource} (read : Resource.ofJson? body = some info) :
    ofJson? (.object [("Resource", body)]) = some (resource info) :=
  congrArg (Option.map resource) read

theorem guardRead {info : Guard} (read : Guard.ofJson? body = some info) :
    ofJson? (.object [("Guard", body)]) = some (guard info) :=
  congrArg (Option.map guard) read

theorem faithful : Faithful toJson ofJson? where
  whole := fun info => by
    cases info <;> simp [toJson, Namespace.faithful.whole, Resource.faithful.whole,
      Guard.faithful.whole]
  read := fun info => by
    cases info with
    | crash space reason =>
      exact crashRead rfl (Namespace.faithful.read space) (Json.uint64Read reason)
    | resource info => exact resourceRead (Resource.faithful.read info)
    | guard info => exact guardRead (Guard.faithful.read info)

end Corpse

namespace Diagnosis

variable {fault : Diagnosis} {body : Json}

theorem payloadWhole (fault : Diagnosis) : fault.payloadJson.Whole := by
  cases fault with
  | badAccess info => exact BadAccess.faithful.whole info
  | badInstruction info => exact BadInstruction.faithful.whole info
  | arithmetic info => exact Arithmetic.faithful.whole info
  | emulation info => exact Emulation.faithful.whole info
  | software info => exact Software.faithful.whole info
  | breakpoint info => exact Breakpoint.faithful.whole info
  | syscall info | kernelSyscall info => exact Syscall.faithful.whole info
  | rpcAlert info => exact RpcAlert.faithful.whole info
  | crash info => exact Crash.faithful.whole info
  | resourceLimit info => exact Resource.faithful.whole info
  | guardViolation info => exact Guard.faithful.whole info
  | corpseNotify info => exact Corpse.faithful.whole info

theorem payloadRead (fault : Diagnosis) :
    ofPayload? fault.category fault.payloadJson = some fault := by
  cases fault <;> simp [category, payloadJson, ofPayload?, BadAccess.faithful.read,
    BadInstruction.faithful.read, Arithmetic.faithful.read, Emulation.faithful.read,
    Software.faithful.read, Breakpoint.faithful.read, Syscall.faithful.read,
    RpcAlert.faithful.read, Crash.faithful.read, Resource.faithful.read, Guard.faithful.read,
    Corpse.faithful.read]

theorem pairRead (read : ofPayload? fault.category body = some fault) :
    ofJson? (.object [("category", fault.category.toJson), ("info", body)]) = some fault := by
  have members : (Json.object [("category", fault.category.toJson), ("info", body)]).members?
    ["category", "info"] = some [some fault.category.toJson, some body] := rfl
  simp [ofJson?, members, Json.requiredRead, Category.faithful.read, read]

theorem faithful : Faithful toJson ofJson? where
  whole := fun fault => by simp [toJson, Category.faithful.whole, payloadWhole]
  read := fun fault => pairRead fault.payloadRead

end Diagnosis

namespace Fault

variable {raw : Fault} {category code subcode : Json}

theorem wordRead (word : Option Int64) :
    Json.optional Json.int64? (some (wordJson word)) = some word :=
  Json.optionalRead (fun _ => Json.noConfusion) Json.int64Read word

theorem faithful : Faithful toJson ofJson? where
  whole := fun raw => by
    obtain ⟨_, code, subcode⟩ := raw
    cases code <;> cases subcode <;>
      simp [toJson, wordJson, Json.ofOption, Category.faithful.whole]
  read := fun raw => by
    have record : raw.toJson.fields? ["category", "code", "subcode"] =
      some [some raw.category.toJson, some (wordJson raw.code), some (wordJson raw.subcode)] := rfl
    simp [ofJson?, record, Json.requiredRead, Category.faithful.read, wordRead]

end Fault

end FaultWatch
