import FaultWatch.Field.Layout

/-! The fields of the packed words and their layouts. A resource and a guard put their kind into the
top three bits; the rest of the word is laid out as the kind asks, so the fields below overlap. -/
namespace FaultWatch

namespace Crash

def originalCodeField : Field := { name := "original_code", lsb := 0, msb := 19 }
def originalExceptionField : Field := { name := "original_exception", lsb := 20, msb := 23 }
def signalField : Field := { name := "signal", lsb := 24, msb := 31 }

def layout : Layout := ⟨"crash", [originalCodeField, originalExceptionField, signalField]⟩

end Crash

namespace Resource

def kindField : Field := { name := "type", lsb := 61, msb := 63 }
def flavorField : Field := { name := "flavor", lsb := 58, msb := 60 }
def cpuInterval : Field := { name := "cpu_interval", lsb := 7, msb := 31 }
def cpuLimit : Field := { name := "cpu_limit", lsb := 0, msb := 6 }
def wakeupsInterval : Field := { name := "wakeups_interval", lsb := 20, msb := 31 }
def wakeupsPermitted : Field := { name := "wakeups_permitted", lsb := 0, msb := 19 }
def memoryLimit : Field := { name := "memory_hwm_limit", lsb := 0, msb := 12 }
def ioInterval : Field := { name := "io_interval", lsb := 15, msb := 31 }
def ioLimit : Field := { name := "io_limit", lsb := 0, msb := 14 }
def threadsCount : Field := { name := "threads_count", lsb := 0, msb := 30 }
def cpuUtilization : Field := { name := "cpu_utilization", lsb := 0, msb := 6 }
def wakeupsObserved : Field := { name := "wakeups_observed", lsb := 0, msb := 6 }
def ioCount : Field := { name := "io_count", lsb := 0, msb := 14 }

def codeLayout : Layout :=
  ⟨"resource code",
    [kindField, flavorField, cpuInterval, cpuLimit, wakeupsInterval, wakeupsPermitted,
      memoryLimit, ioInterval, ioLimit, threadsCount]⟩

def subcodeLayout : Layout := ⟨"resource subcode", [cpuUtilization, wakeupsObserved, ioCount]⟩

end Resource

namespace Guard

def kindField : Field := { name := "type", lsb := 61, msb := 63 }
def flavorField : Field := { name := "flavor", lsb := 32, msb := 60 }
def targetField : Field := { name := "target", lsb := 0, msb := 31 }
def portNameField : Field := { name := "port_name", lsb := 0, msb := 31 }
def reasonField : Field := { name := "reason", lsb := 32, msb := 60 }
def descriptorField : Field := { name := "file_descriptor", lsb := 0, msb := 31 }
def namespaceField : Field := { name := "namespace", lsb := 0, msb := 31 }
def pidField : Field := { name := "pid", lsb := 0, msb := 31 }

def layout : Layout :=
  ⟨"guard code",
    [kindField, flavorField, targetField, portNameField, reasonField, descriptorField,
      namespaceField, pidField]⟩

end Guard

namespace Corpse

def reasonField : Field := { name := "reason", lsb := 0, msb := 31 }
def namespaceField : Field := { name := "namespace", lsb := 32, msb := 63 }

def crashLayout : Layout := ⟨"corpse crash subcode", [reasonField, namespaceField]⟩

end Corpse

end FaultWatch
