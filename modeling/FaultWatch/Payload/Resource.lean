import FaultWatch.Payload.Fields
import FaultWatch.Term
import FaultWatch.Json.Read

/-! Resource limits. The top of the code word says which resource and why; the limits below it and
the observation in the subcode are laid out as the resource asks, so the fields overlap. Flavors are
numbered from one. -/
namespace FaultWatch
namespace Resource

inductive CpuFlavor
  | monitor
  | monitorFatal
  deriving DecidableEq, Repr

inductive WakeupsFlavor
  | monitor
  deriving DecidableEq, Repr

inductive MemoryFlavor
  | highWatermark
  deriving DecidableEq, Repr

inductive IoFlavor
  | physicalWrites
  | logicalWrites
  deriving DecidableEq, Repr

inductive ThreadsFlavor
  | highWatermark
  deriving DecidableEq, Repr

end Resource

inductive Resource
  | cpu (flavor : Resource.CpuFlavor) (interval limit utilization : UInt64)
  | wakeups (flavor : Resource.WakeupsFlavor) (interval permitted observed : UInt64)
  | memory (flavor : Resource.MemoryFlavor) (highWatermark : UInt64)
  | io (flavor : Resource.IoFlavor) (interval limit count : UInt64)
  | threads (flavor : Resource.ThreadsFlavor) (count : UInt64)
  deriving DecidableEq, Repr

namespace Resource

def CpuFlavor.all : List CpuFlavor := [.monitor, .monitorFatal]

def CpuFlavor.title : CpuFlavor → String
  | .monitor => "Monitor"
  | .monitorFatal => "MonitorFatal"

def WakeupsFlavor.all : List WakeupsFlavor := [.monitor]

def WakeupsFlavor.title : WakeupsFlavor → String
  | .monitor => "Monitor"

def MemoryFlavor.all : List MemoryFlavor := [.highWatermark]

def MemoryFlavor.title : MemoryFlavor → String
  | .highWatermark => "HighWatermark"

def IoFlavor.all : List IoFlavor := [.physicalWrites, .logicalWrites]

def IoFlavor.title : IoFlavor → String
  | .physicalWrites => "PhysicalWrites"
  | .logicalWrites => "LogicalWrites"

def ThreadsFlavor.all : List ThreadsFlavor := [.highWatermark]

def ThreadsFlavor.title : ThreadsFlavor → String
  | .highWatermark => "HighWatermark"

def flavor? (all : List α) (number : UInt64) : Option α :=
  if number = 0 then none else all[number.toNat - 1]?

def ofWords? (code subcode : UInt64) : Option Resource :=
  let flavor := flavorField.extract code
  match (kindField.extract code).toNat with
  | 1 => (flavor? CpuFlavor.all flavor).map fun why =>
    cpu why (cpuInterval.extract code) (cpuLimit.extract code) (cpuUtilization.extract subcode)
  | 2 => (flavor? WakeupsFlavor.all flavor).map fun why =>
    wakeups why (wakeupsInterval.extract code) (wakeupsPermitted.extract code)
      (wakeupsObserved.extract subcode)
  | 3 => (flavor? MemoryFlavor.all flavor).map fun why => memory why (memoryLimit.extract code)
  | 4 => (flavor? IoFlavor.all flavor).map fun why =>
    io why (ioInterval.extract code) (ioLimit.extract code) (ioCount.extract subcode)
  | 5 => (flavor? ThreadsFlavor.all flavor).map fun why => threads why (threadsCount.extract code)
  | _ => none

def decode? (code subcode : Int64) : Option Resource := ofWords? code.toUInt64 subcode.toUInt64

def term : Resource → Term
  | cpu flavor interval limit utilization =>
    .record "Cpu"
      [("flavor", .name flavor.title), ("interval", .number interval.toNat),
        ("limit", .number limit.toNat), ("utilization", .number utilization.toNat)]
  | wakeups flavor interval permitted observed =>
    .record "Wakeups"
      [("flavor", .name flavor.title), ("interval", .number interval.toNat),
        ("permitted", .number permitted.toNat), ("observed", .number observed.toNat)]
  | memory flavor highWatermark =>
    .record "Memory"
      [("flavor", .name flavor.title), ("high_watermark", .number highWatermark.toNat)]
  | io flavor interval limit count =>
    .record "Io"
      [("flavor", .name flavor.title), ("interval", .number interval.toNat),
        ("limit", .number limit.toNat), ("count", .number count.toNat)]
  | threads flavor count =>
    .record "Threads" [("flavor", .name flavor.title), ("count", .number count.toNat)]

def toJson : Resource → Json
  | cpu flavor interval limit utilization =>
    .object [("Cpu", .object
      [("flavor", .string flavor.title), ("interval", .number interval.toNat),
        ("limit", .number limit.toNat), ("utilization", .number utilization.toNat)])]
  | wakeups flavor interval permitted observed =>
    .object [("Wakeups", .object
      [("flavor", .string flavor.title), ("interval", .number interval.toNat),
        ("permitted", .number permitted.toNat), ("observed", .number observed.toNat)])]
  | memory flavor highWatermark =>
    .object [("Memory", .object
      [("flavor", .string flavor.title), ("high_watermark", .number highWatermark.toNat)])]
  | io flavor interval limit count =>
    .object [("Io", .object
      [("flavor", .string flavor.title), ("interval", .number interval.toNat),
        ("limit", .number limit.toNat), ("count", .number count.toNat)])]
  | threads flavor count =>
    .object [("Threads", .object
      [("flavor", .string flavor.title), ("count", .number count.toNat)])]

def ofJson? (j : Json) : Option Resource :=
  match j.choice? with
  | some ("Cpu", some body) => do
    let [flavor, interval, limit, utilization] ←
      body.members? ["flavor", "interval", "limit", "utilization"] | none
    return cpu (← Json.required (Json.named? CpuFlavor.all CpuFlavor.title) flavor)
      (← Json.required Json.uint64? interval) (← Json.required Json.uint64? limit)
      (← Json.required Json.uint64? utilization)
  | some ("Wakeups", some body) => do
    let [flavor, interval, permitted, observed] ←
      body.members? ["flavor", "interval", "permitted", "observed"] | none
    return wakeups (← Json.required (Json.named? WakeupsFlavor.all WakeupsFlavor.title) flavor)
      (← Json.required Json.uint64? interval) (← Json.required Json.uint64? permitted)
      (← Json.required Json.uint64? observed)
  | some ("Memory", some body) => do
    let [flavor, highWatermark] ← body.members? ["flavor", "high_watermark"] | none
    return memory (← Json.required (Json.named? MemoryFlavor.all MemoryFlavor.title) flavor)
      (← Json.required Json.uint64? highWatermark)
  | some ("Io", some body) => do
    let [flavor, interval, limit, count] ←
      body.members? ["flavor", "interval", "limit", "count"] | none
    return io (← Json.required (Json.named? IoFlavor.all IoFlavor.title) flavor)
      (← Json.required Json.uint64? interval) (← Json.required Json.uint64? limit)
      (← Json.required Json.uint64? count)
  | some ("Threads", some body) => do
    let [flavor, count] ← body.members? ["flavor", "count"] | none
    return threads (← Json.required (Json.named? ThreadsFlavor.all ThreadsFlavor.title) flavor)
      (← Json.required Json.uint64? count)
  | _ => none

end Resource
end FaultWatch
