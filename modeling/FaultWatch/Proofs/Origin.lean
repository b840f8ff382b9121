import FaultWatch.Proofs.Decoder
import FaultWatch.Proofs.Guard

/-! What a diagnosis tells of the fault that it was made of. Where a payload keeps both words whole,
they are written back from it: the code by the number of its cause, the subcode as it is, the code of
a guarded port or descriptor by packing its fields again. So no two faults of these layouts share a
diagnosis. A system call keeps its code only. The main statement is `decodingLosesNothing`. -/
namespace FaultWatch

def BadAccess.Cause.code : BadAccess.Cause → Int
  | vmFault kernReturn => kernReturn.toInt
  | dataAlignment => 0x101
  | dataDebug => 0x102
  | stackPointerAlignment => 0x103
  | swapInstruction => 0x104
  | pointerAuthentication => 0x105
  | fpuSegmentOverrun => 5
  | generalProtection => 13

def BadInstruction.Cause.code : BadInstruction.Cause → Int
  | undefined => 1
  | invalidOpcode => 1
  | invalidTss => 10
  | segmentNotPresent => 11
  | stackFault => 12
  | pageFault kernReturn => kernReturn.toInt

def Arithmetic.Cause.code : Family → Arithmetic.Cause → Int
  | .arm64, invalidOperation => 1
  | .arm64, divideByZero => 2
  | .arm64, overflow => 3
  | .arm64, underflow => 4
  | .arm64, inexact => 5
  | .arm64, denormalInput => 6
  | .x86, divideByZero => 1
  | .x86, overflow => 2
  | .x86, noFpu => 3
  | .x86, fpuError => 5
  | .x86, simdError => 8
  | _, _ => 0

def Software.Cause.code : Software.Cause → Int
  | hardware code => code.toNat
  | badSyscall => 0x10000
  | badPipe => 0x10001
  | abort => 0x10002
  | signal => 0x10003

def Breakpoint.Trap.code : Breakpoint.Trap → Int64
  | debug => 1
  | breakpoint => 2
  | outOfBounds => 7

def Breakpoint.words : Breakpoint → Int64 × Int64
  | breakpoint address => (1, address.toInt64)
  | debuggerTrap instruction => (1, instruction.toUInt64.toInt64)
  | watchpoint address => (0x102, address.toInt64)
  | singleStep => (1, 0)
  | trap kind subcode => (kind.code, subcode.toInt64)

def Guard.words? : Guard → Option (Int64 × Int64)
  | port name reason guardId =>
    let writes := [(kindField, 1), (portNameField, name.toUInt64), (reasonField, reason.value)]
    some ((Field.writeAll 0 writes).toInt64, guardId)
  | descriptor number ops guardId =>
    let writes := [(kindField, 2), (descriptorField, number.toUInt32.toUInt64),
      (flavorField, ops.bits.toUInt64)]
    some ((Field.writeAll 0 writes).toInt64, guardId)
  | _ => Option.none

def Diagnosis.words? : Diagnosis → Option (Int64 × Int64)
  | badAccess info => some (Int64.ofInt info.cause.code, info.address.toInt64)
  | badInstruction info => some (Int64.ofInt info.cause.code, info.subcode.toInt64)
  | arithmetic info => some (Int64.ofInt (info.cause.code info.family), info.subcode.toInt64)
  | emulation info => some (info.code, info.subcode)
  | software info => some (Int64.ofInt info.cause.code, info.subcode.toInt64)
  | breakpoint info => some info.words
  | rpcAlert info => some (RpcAlert.alertCode, info.pid)
  | guardViolation info => info.words?
  | _ => none

def Diagnosis.origin? (fault : Diagnosis) : Option Fault :=
  fault.words?.map fun words => ⟨fault.category, some words.1, some words.2⟩

def Diagnosis.callNumber? : Diagnosis → Option Int64
  | syscall info => some info.number
  | kernelSyscall info => some info.number
  | _ => none

def wholeCategories : List Category :=
  [.badAccess, .badInstruction, .arithmetic, .emulation, .software, .breakpoint, .rpcAlert]

/-- The faults whose payloads keep both words whole. -/
def Fault.Whole (raw : Fault) : Prop :=
  raw.category ∈ wholeCategories ∨
    raw.category = .guardViolation ∧ ∃ code, raw.code = some code ∧
      (Guard.kindField.extract code.toUInt64 = 1 ∨ Guard.kindField.extract code.toUInt64 = 2)

variable {family : Family} {code subcode : Int64} {number : Int}

theorem kernReturnKept (low : 0 ≤ number) (high : number ≤ kernReturnMax) :
    (Int32.ofInt number).toInt = number := by
  have bounded : number ≤ 0x100 := high
  exact Int32.toInt_ofInt_of_le (by omega) (by omega)

theorem wordsKept (same : number = code.toInt) :
    (Int64.ofInt number, subcode.toUInt64.toInt64) = (code, subcode) := by
  rw [same, Int64.ofInt_toInt, Int64.toInt64_toUInt64]

theorem BadAccess.causeCode {cause : BadAccess.Cause}
    (known : Cause.ofCode? family number = some cause) : cause.code = number := by
  unfold Cause.ofCode? at known
  split at known
  · next found =>
    cases known
    unfold Cause.named? at found
    split at found <;> cases found <;> rfl
  · split at known
    · next range =>
      cases known
      exact kernReturnKept range.1 range.2
    · contradiction

theorem BadInstruction.causeCode {cause : BadInstruction.Cause}
    (known : Cause.ofCode? family number = some cause) : cause.code = number := by
  unfold Cause.ofCode? at known
  split at known
  · next found =>
    cases known
    unfold Cause.named? at found
    split at found <;> cases found <;> rfl
  · split at known
    · next range =>
      cases known
      exact kernReturnKept range.2.1 range.2.2
    · contradiction

theorem Arithmetic.causeCode {cause : Arithmetic.Cause}
    (known : Cause.ofCode? family number = some cause) : cause.code family = number := by
  unfold Cause.ofCode? at known
  split at known <;> cases known <;> rfl

theorem Software.causeCode {cause : Software.Cause}
    (known : Cause.ofCode? number = some cause) : cause.code = number := by
  unfold Cause.ofCode? at known
  split at known
  case h_5 =>
    split at known
    · next range =>
      cases known
      have small : number.toNat < UInt16.size := by
        simp only [UInt16.size]
        omega
      have kept : (UInt16.ofNat number.toNat).toNat = number.toNat := UInt16.toNat_ofNat_of_lt' small
      rw [Cause.code, kept, Int.toNat_of_nonneg range.1]
    · contradiction
  all_goals
    cases known
    rfl

theorem Breakpoint.trapCode {kind : Breakpoint.Trap}
    (known : Trap.ofCode? code.toInt = some kind) : kind.code = code := by
  apply Int64.toInt_inj.mp
  unfold Trap.ofCode? at known
  split at known
  · next here => cases known; rw [here]; rfl
  · next here => cases known; rw [here]; rfl
  · next here => cases known; rw [here]; rfl
  · contradiction

theorem zeroWord (zero : subcode.toUInt64 = 0) : subcode = 0 := by
  rw [← Int64.toInt64_toUInt64 subcode, zero]
  rfl

theorem Breakpoint.plantedWord {word : UInt64} :
    word ∈ debuggerWords ↔ word = 0xe7ffdefe ∨ word = 0xe7ffdeff := by
  simp [debuggerWords]

theorem Breakpoint.armWords : (ofArmSubcode subcode.toUInt64).words = (1, subcode) := by
  unfold ofArmSubcode
  split
  · next zero =>
    rw [zeroWord zero]
    rfl
  · split
    · next planted =>
      have small : subcode.toUInt64.toUInt32.toUInt64 = subcode.toUInt64 := by
        rcases plantedWord.mp planted with same | same <;> rw [same] <;> rfl
      rw [words, small, Int64.toInt64_toUInt64]
    · simp [words, Int64.toInt64_toUInt64]

theorem Breakpoint.wordsTold {info : Breakpoint}
    (known : Breakpoint.decode? family code subcode = some info) : info.words = (code, subcode) := by
  unfold Breakpoint.decode? at known
  split at known
  · next here =>
    cases known
    have one : code = 1 := Int64.toInt_inj.mp here
    rw [armWords, one]
  · next here =>
    cases known
    have named : code = 0x102 := Int64.toInt_inj.mp here
    rw [words, Int64.toInt64_toUInt64, named]
  · contradiction
  · obtain ⟨kind, found, rfl⟩ := Option.map_eq_some_iff.mp known
    rw [words, trapCode found, Int64.toInt64_toUInt64]

theorem Guard.wordsTold {word : UInt64} {guard : Guard} {words : Int64 × Int64}
    (known : ofWords? word subcode = some guard) (told : guard.words? = some words) :
    words = (word.toInt64, subcode) := by
  unfold ofWords? at known
  split at known
  case h_2 here =>
    cases known
    cases told
    have kind : kindField.extract word = 1 := UInt64.toNat_inj.mp here
    rw [@Field.rebuilt word]
    · exact standsApart (.port : Stands subcode _ _)
    · change ∀ i < 64, ∃ f ∈ [kindField, portNameField, reasonField], f.lsb ≤ i ∧ i ≤ f.msb
      decide
    · have name := @Field.halfRead portNameField word (by decide)
      simp [kind, name, Field.keptRead]
      decide
  case h_3 here =>
    cases known
    cases told
    have kind : kindField.extract word = 2 := UInt64.toNat_inj.mp here
    rw [@Field.rebuilt word]
    · exact standsApart (.descriptor : Stands subcode _ _)
    · change ∀ i < 64, ∃ f ∈ [kindField, descriptorField, flavorField], f.lsb ≤ i ∧ i ≤ f.msb
      decide
    · have number := @Field.halfRead descriptorField word (by decide)
      have flags := @Field.halfRead flavorField word (by decide)
      simp [kind, number, flags, Field.keptRead]
      decide
  case h_4 =>
    obtain ⟨space, _, rfl⟩ := Option.map_eq_some_iff.mp known
    contradiction
  case h_7 => contradiction
  all_goals
    cases known
    contradiction

namespace Decoder

variable {decoder : Decoder} {category : Category} {raw : Fault} {fault : Diagnosis}
  {words : Int64 × Int64} {source : Fault}

theorem familyDecoded {payload : Type} {read : Family → Option payload} {wrap : payload → Diagnosis}
    (known : (do return wrap (← read (← decoder.family))) = some fault) :
    ∃ family info, read family = some info ∧ wrap info = fault := by
  simp only [bind, Option.bind_eq_some_iff] at known
  obtain ⟨family, _, info, found, same⟩ := known
  exact ⟨family, info, found, Option.some.inj same⟩

theorem decodedWords (known : decoder.decodeWords? category code subcode = some fault)
    (told : fault.words? = some words) : words = (code, subcode) := by
  unfold decodeWords? at known
  cases category with
  | badAccess =>
    obtain ⟨family, info, found, rfl⟩ := familyDecoded known
    cases told
    obtain ⟨cause, named, rfl⟩ := Option.map_eq_some_iff.mp found
    exact wordsKept (BadAccess.causeCode named)
  | badInstruction =>
    obtain ⟨family, info, found, rfl⟩ := familyDecoded known
    cases told
    obtain ⟨cause, named, rfl⟩ := Option.map_eq_some_iff.mp found
    exact wordsKept (BadInstruction.causeCode named)
  | arithmetic =>
    obtain ⟨family, info, found, rfl⟩ := familyDecoded known
    cases told
    obtain ⟨cause, named, rfl⟩ := Option.map_eq_some_iff.mp found
    exact wordsKept (Arithmetic.causeCode named)
  | breakpoint =>
    obtain ⟨family, info, found, rfl⟩ := familyDecoded known
    cases told
    exact Breakpoint.wordsTold found
  | emulation =>
    cases known
    cases told
    rfl
  | software =>
    obtain ⟨info, found, rfl⟩ := Option.map_eq_some_iff.mp known
    cases told
    obtain ⟨cause, named, rfl⟩ := Option.map_eq_some_iff.mp found
    exact wordsKept (Software.causeCode named)
  | rpcAlert =>
    obtain ⟨info, found, rfl⟩ := Option.map_eq_some_iff.mp known
    cases told
    obtain ⟨alerted, same⟩ := Option.ite_none_right_eq_some.mp found
    cases same
    rw [alerted]
  | guardViolation =>
    obtain ⟨info, found, rfl⟩ := Option.map_eq_some_iff.mp known
    have origin := Guard.wordsTold found told
    rwa [Int64.toInt64_toUInt64] at origin
  | syscall | kernelSyscall | crash =>
    cases known
    contradiction
  | resourceLimit | corpseNotify =>
    obtain ⟨info, _, rfl⟩ := Option.map_eq_some_iff.mp known
    contradiction

theorem originTold (known : decoder.decode? raw = some fault)
    (origin : fault.origin? = some source) : source = raw := by
  have category := decodeCategory known
  obtain ⟨words, told, rfl⟩ := Option.map_eq_some_iff.mp origin
  obtain ⟨kind, first, second⟩ := raw
  unfold decode? at known
  split at known
  · cases known
    contradiction
  · cases known
    contradiction
  · next here there =>
    cases here
    cases there
    rw [decodedWords known told, category]
  · contradiction

theorem wholeTold (known : decoder.decode? raw = some fault) (whole : raw.Whole) :
    fault.origin? = some raw := by
  have tells : ∃ words, fault.words? = some words := by
    obtain listed | ⟨guarded, code, there, kind⟩ := whole
    · rw [← decodeCategory known] at listed
      cases fault with
      | syscall | kernelSyscall | crash | resourceLimit | guardViolation | corpseNotify =>
        simp [wholeCategories, Diagnosis.category] at listed
      | _ => exact ⟨_, rfl⟩
    · obtain ⟨_, _, second⟩ := raw
      cases guarded
      cases there
      cases second with
      | none => contradiction
      | some subcode =>
        obtain ⟨guard, found, rfl⟩ := Option.map_eq_some_iff.mp known
        obtain here | here := kind <;>
          · rw [Guard.decode?, Guard.ofWords?, here] at found
            cases found
            exact ⟨_, rfl⟩
  obtain ⟨words, told⟩ := tells
  have origin : fault.origin? = some ⟨fault.category, some words.1, some words.2⟩ := by
    rw [Diagnosis.origin?, told]
    rfl
  rw [origin, originTold known origin]

theorem callTold (known : decoder.decode? raw = some fault)
    (call : raw.category = .syscall ∨ raw.category = .kernelSyscall) :
    fault.callNumber? = raw.code := by
  obtain ⟨kind, first, second⟩ := raw
  cases first with
  | none => obtain rfl | rfl := call <;> contradiction
  | some code => obtain rfl | rfl := call <;> cases second <;> cases known <;> rfl

theorem decodingLosesNothing (known : decoder.decode? raw = some fault) :
    (raw.Whole → fault.origin? = some raw ∧
      ∀ other, decoder.decode? other = some fault → other = raw) ∧
    (raw.category = .syscall ∨ raw.category = .kernelSyscall →
      ∀ other, decoder.decode? other = some fault →
        other.category = raw.category ∧ other.code = raw.code) := by
  constructor
  · intro whole
    have origin := wholeTold known whole
    exact ⟨origin, fun other alike => (originTold alike origin).symm⟩
  · intro call other alike
    have same : other.category = raw.category :=
      (decodeCategory alike).symm.trans (decodeCategory known)
    exact ⟨same, (callTold alike (same ▸ call)).symm.trans (callTold known call)⟩

theorem almostPlanted :
    let decoder : Decoder := ⟨some .arm64⟩
    let raw : Fault := ⟨.breakpoint, some 1, some 0x1e7ffdefe⟩
    let fault : Diagnosis := .breakpoint (.breakpoint 0x1e7ffdefe)
    decoder.decode? raw = some fault ∧ raw.Whole ∧ fault.origin? = some raw ∧
      ∀ other, decoder.decode? other = some fault → other = raw := by
  intro decoder raw fault
  have known : decoder.decode? raw = some fault := by decide
  have whole : raw.Whole := .inl (by decide)
  exact ⟨known, whole, (decodingLosesNothing known).1 whole⟩

end Decoder
end FaultWatch
