import FaultWatch.Diagnosis
import FaultWatch.Proofs.BitNames
import FaultWatch.Proofs.Json.Payload
import FaultWatch.Proofs.Term.Text

/-! The structured text of a payload tells it. Each type's terms are plain and no two values share
one, by the types of its parts: names by the tables that read them back, numbers by their digits and
sets of bits by their words. The main statement is `Diagnosis.payloadOwn`. -/
namespace FaultWatch
open Term (Clear Unmarked)

theorem BitNames.termPlain {names : BitNames} {bits : Nat}
    (unmarked : ∀ entry ∈ names, Unmarked entry.1.toList) : (names.term bits).Plain := by
  have within : ∀ word ∈ names.words bits, ∀ c ∈ word, Term.isMark c = false := by
    intro word member
    rcases List.mem_append.mp member with named | numbered
    · obtain ⟨entry, there, rfl⟩ := List.mem_map.mp named
      simpa [Unmarked] using unmarked entry (List.mem_filter.mp there).1
    · split at numbered
      · contradiction
      · rw [List.mem_singleton.mp numbered]
        simpa [Unmarked] using Term.hexadecimalUnmarked (names.unnamed bits)
  have joined : ∀ c ∈ names.text bits, Term.isMark c = false :=
    Text.joinedAll (by simp [Term.isMark]) within
  change Unmarked (if bits = 0 then Text.hexadecimal 0 else names.text bits)
  split
  · exact Term.hexadecimalUnmarked 0
  · simpa [Unmarked] using joined

theorem Family.titlePlain (family : Family) : Unmarked family.title.toList := by
  cases family <;> decide

theorem Family.titleSame {a b : Family} : a.title = b.title ↔ a = b := by
  cases a <;> cases b <;> decide

theorem BadAccess.Cause.clear : Clear term where
  plain := fun cause => by cases cause <;> simp +decide [term, title]
  own := fun cause other same => by
    cases cause <;> cases other <;> simp_all [term, title, Int32.toInt_inj]

theorem BadAccess.clear : Clear term where
  plain := fun info => by simp +decide [term, Cause.clear.plain]
  own := fun info other same => by
    cases info
    cases other
    simpa [term, Cause.clear.same, UInt64.toNat_inj] using same

theorem BadInstruction.Cause.clear : Clear term where
  plain := fun cause => by cases cause <;> simp +decide [term, title]
  own := fun cause other same => by
    cases cause <;> cases other <;> simp_all [term, title, Int32.toInt_inj]

theorem BadInstruction.clear : Clear term where
  plain := fun info => by simp +decide [term, Family.titlePlain, Cause.clear.plain]
  own := fun info other same => by
    cases info
    cases other
    simpa [term, Family.titleSame, Cause.clear.same, UInt64.toNat_inj] using same

theorem Arithmetic.Cause.titlePlain (cause : Cause) : Unmarked cause.title.toList := by
  cases cause <;> decide

theorem Arithmetic.clear : Clear term where
  plain := fun info => by simp +decide [term, Family.titlePlain, Cause.titlePlain]
  own := fun info other same => by
    cases info
    cases other
    simpa [term, Family.titleSame, Json.titleSame Cause.named, UInt64.toNat_inj] using same

theorem Emulation.clear : Clear term where
  plain := fun info => by simp +decide [term]
  own := fun info other same => by
    cases info
    cases other
    simpa [term, Int64.toInt_inj] using same

theorem Software.Cause.clear : Clear term where
  plain := fun cause => by cases cause <;> simp +decide [term, title]
  own := fun cause other same => by
    cases cause <;> cases other <;>
      simp_all [term, title, UInt16.toNat_inj]

theorem Software.clear : Clear term where
  plain := fun info => by simp +decide [term, Cause.clear.plain]
  own := fun info other same => by
    cases info
    cases other
    simpa [term, Cause.clear.same, UInt64.toNat_inj] using same

theorem Breakpoint.clear : Clear term where
  plain := fun info => by
    cases info with
    | trap kind subcode => cases kind <;> simp +decide [term, Trap.title]
    | _ => simp +decide [term]
  own := fun info other same => by
    cases info <;> cases other <;>
      simp_all [term, Json.titleSame Trap.named, UInt64.toNat_inj,
        UInt32.toNat_inj]

theorem Syscall.clear : Clear term where
  plain := fun info => by simp +decide [term]
  own := fun info other same => by
    cases info
    cases other
    simpa [term, Int64.toInt_inj] using same

theorem RpcAlert.clear : Clear term where
  plain := fun info => by simp +decide [term]
  own := fun info other same => by
    cases info
    cases other
    simpa [term, Int64.toInt_inj] using same

theorem Crash.clear : Clear term where
  plain := fun info => by simp +decide [term]
  own := fun info other same => by
    cases info
    cases other
    simpa [term, UInt8.toNat_inj, UInt32.toNat_inj] using same

theorem Resource.clear : Clear term where
  plain := fun info => by
    cases info with
    | cpu why | wakeups why | memory why | io why | threads why =>
      cases why <;> simp +decide [term, CpuFlavor.title, WakeupsFlavor.title, MemoryFlavor.title,
        IoFlavor.title, ThreadsFlavor.title]
  own := fun info other same => by
    cases info <;> cases other <;>
      simp_all [term, Json.titleSame CpuFlavor.named, Json.titleSame IoFlavor.named,
        UInt64.toNat_inj]

theorem Namespace.titlePlain (space : Namespace) : Unmarked space.title.toList := by
  cases space <;> decide

theorem Namespace.titleOwn :
    ∀ space ∈ all, ∀ other ∈ all, other.title = space.title → other = space := by
  decide +kernel

theorem Namespace.titleSame {a b : Namespace} : a.title = b.title ↔ a = b :=
  ⟨titleOwn b b.listed a a.listed, fun same => by rw [same]⟩

theorem PortReason.clear : Clear term where
  plain := fun reason => by simp +decide [term]
  own := fun reason other same => by
    cases reason
    cases other
    simpa [term, UInt64.toNat_inj] using same

theorem DescriptorOps.clear : Clear term where
  plain := fun ops => ⟨by decide, BitNames.termPlain (by decide)⟩
  own := fun ops other same => by
    have bits := BitNames.termOwn legible ops.bits.toNat_lt other.bits.toNat_lt
      (Term.applied.inj same).2
    cases ops
    cases other
    simpa [UInt32.toNat_inj] using bits

theorem FileOps.clear : Clear term where
  plain := fun ops => ⟨by decide, BitNames.termPlain (by decide)⟩
  own := fun ops other same => by
    have bits := BitNames.termOwn legible ops.bits.toNat_lt other.bits.toNat_lt
      (Term.applied.inj same).2
    cases ops
    cases other
    simpa [UInt64.toNat_inj] using bits

theorem Guard.clear : Clear term where
  plain := fun info => by
    cases info <;> simp +decide [term, PortReason.clear.plain, DescriptorOps.clear.plain,
      Namespace.titlePlain, FileOps.clear.plain]
  own := fun info other same => by
    cases info <;> cases other <;>
      simp_all [term, PortReason.clear.same, DescriptorOps.clear.same, Namespace.titleSame,
        FileOps.clear.same, UInt32.toNat_inj, Int32.toInt_inj, Int64.toInt_inj]

theorem Corpse.clear : Clear term where
  plain := fun info => by
    cases info <;> simp +decide [term, Namespace.titlePlain, Resource.clear.plain,
      Guard.clear.plain]
  own := fun info other same => by
    cases info <;> cases other <;>
      simp_all [term, Namespace.titleSame, Resource.clear.same, Guard.clear.same, UInt64.toNat_inj]

namespace Diagnosis

theorem payloadPlain (fault : Diagnosis) : fault.payloadTerm.Plain := by
  cases fault with
  | badAccess info => exact BadAccess.clear.plain info
  | badInstruction info => exact BadInstruction.clear.plain info
  | arithmetic info => exact Arithmetic.clear.plain info
  | emulation info => exact Emulation.clear.plain info
  | software info => exact Software.clear.plain info
  | breakpoint info => exact Breakpoint.clear.plain info
  | syscall info | kernelSyscall info => exact Syscall.clear.plain info
  | rpcAlert info => exact RpcAlert.clear.plain info
  | crash info => exact Crash.clear.plain info
  | resourceLimit info => exact Resource.clear.plain info
  | guardViolation info => exact Guard.clear.plain info
  | corpseNotify info => exact Corpse.clear.plain info

theorem payloadOwn {fault other : Diagnosis} (kind : fault.category = other.category)
    (same : fault.payloadTerm = other.payloadTerm) : fault = other := by
  cases fault <;> cases other <;> try exact Category.noConfusion kind
  · exact congrArg badAccess (BadAccess.clear.own _ _ same)
  · exact congrArg badInstruction (BadInstruction.clear.own _ _ same)
  · exact congrArg arithmetic (Arithmetic.clear.own _ _ same)
  · exact congrArg emulation (Emulation.clear.own _ _ same)
  · exact congrArg software (Software.clear.own _ _ same)
  · exact congrArg breakpoint (Breakpoint.clear.own _ _ same)
  · exact congrArg syscall (Syscall.clear.own _ _ same)
  · exact congrArg kernelSyscall (Syscall.clear.own _ _ same)
  · exact congrArg rpcAlert (RpcAlert.clear.own _ _ same)
  · exact congrArg crash (Crash.clear.own _ _ same)
  · exact congrArg resourceLimit (Resource.clear.own _ _ same)
  · exact congrArg guardViolation (Guard.clear.own _ _ same)
  · exact congrArg corpseNotify (Corpse.clear.own _ _ same)

end Diagnosis
end FaultWatch
