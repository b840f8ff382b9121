import FaultWatch.Proofs.Origin

/-! Which codes the tables of a family recognize, and as what. `Reported` is what a family says of
two words: the name that it has for a code, and for a code without one the range that it falls into,
if there is one. Codes are compared whole, so none is taken for another that has the same low bits.
The main statement is `tablesExact`. -/
namespace FaultWatch

def BadAccess.names : Family → List (Int × Cause)
  | .arm64 => [(0x101, .dataAlignment), (0x102, .dataDebug), (0x103, .stackPointerAlignment),
      (0x104, .swapInstruction), (0x105, .pointerAuthentication)]
  | .x86 => [(5, .fpuSegmentOverrun), (13, .generalProtection)]

def BadInstruction.names : Family → List (Int × Cause)
  | .arm64 => [(1, .undefined)]
  | .x86 => [(1, .invalidOpcode), (10, .invalidTss), (11, .segmentNotPresent), (12, .stackFault)]

def Arithmetic.names : Family → List (Int × Cause)
  | .arm64 => [(0, .undefined), (1, .invalidOperation), (2, .divideByZero), (3, .overflow),
      (4, .underflow), (5, .inexact), (6, .denormalInput)]
  | .x86 => [(1, .divideByZero), (2, .overflow), (3, .noFpu), (5, .fpuError), (8, .simdError)]

def Software.names : List (Int × Cause) :=
  [(0x10000, .badSyscall), (0x10001, .badPipe), (0x10002, .abort), (0x10003, .signal)]

def Breakpoint.names : List (Int × Trap) := [(1, .debug), (2, .breakpoint), (7, .outOfBounds)]

def Unnamed (names : List (Int × α)) (number : Int) : Prop := ∀ cause, (number, cause) ∉ names

/-- What the tables of a family say of two words. A name goes before a range. -/
inductive Reported (family : Family) (number : Int) (subcode : UInt64) : Diagnosis → Prop
  | access {cause : BadAccess.Cause} (named : (number, cause) ∈ BadAccess.names family) :
      Reported family number subcode (.badAccess ⟨cause, subcode⟩)
  | vmFault {kernReturn : Int32} (unnamed : Unnamed (BadAccess.names family) number)
      (low : 0 ≤ number) (high : number ≤ 0x100) (carried : kernReturn.toInt = number) :
      Reported family number subcode (.badAccess ⟨.vmFault kernReturn, subcode⟩)
  | instruction {cause : BadInstruction.Cause}
      (named : (number, cause) ∈ BadInstruction.names family) :
      Reported family number subcode (.badInstruction ⟨family, cause, subcode⟩)
  | pageFault {kernReturn : Int32} (x86 : family = .x86)
      (unnamed : Unnamed (BadInstruction.names family) number) (low : 0 ≤ number)
      (high : number ≤ 0x100) (carried : kernReturn.toInt = number) :
      Reported family number subcode (.badInstruction ⟨family, .pageFault kernReturn, subcode⟩)
  | arithmetic {cause : Arithmetic.Cause} (named : (number, cause) ∈ Arithmetic.names family) :
      Reported family number subcode (.arithmetic ⟨family, cause, subcode⟩)
  | software {cause : Software.Cause} (named : (number, cause) ∈ Software.names) :
      Reported family number subcode (.software ⟨cause, subcode⟩)
  | hardware {code : UInt16} (carried : code.toNat = number) :
      Reported family number subcode (.software ⟨.hardware code, subcode⟩)
  | trap {kind : Breakpoint.Trap} (x86 : family = .x86)
      (named : (number, kind) ∈ Breakpoint.names) :
      Reported family number subcode (.breakpoint (.trap kind subcode))
  | watchpoint (arm : family = .arm64) (code : number = 0x102) :
      Reported family number subcode (.breakpoint (.watchpoint subcode))
  | singleStep (arm : family = .arm64) (code : number = 1) (still : subcode = 0) :
      Reported family number subcode (.breakpoint .singleStep)
  | debuggerTrap {instruction : UInt32} (arm : family = .arm64) (code : number = 1)
      (planted : instruction = 0xe7ffdefe ∨ instruction = 0xe7ffdeff)
      (whole : instruction.toUInt64 = subcode) :
      Reported family number subcode (.breakpoint (.debuggerTrap instruction))
  | breakpoint (arm : family = .arm64) (code : number = 1)
      (other : subcode ∉ [0, 0xe7ffdefe, 0xe7ffdeff]) :
      Reported family number subcode (.breakpoint (.breakpoint subcode))

def Known : Family → Category → Int → Prop
  | .arm64, .badAccess, number => 0 ≤ number ∧ number ≤ 0x105
  | .x86, .badAccess, number => 0 ≤ number ∧ number ≤ 0x100
  | .arm64, .badInstruction, number => number = 1
  | .x86, .badInstruction, number => 0 ≤ number ∧ number ≤ 0x100
  | .arm64, .arithmetic, number => 0 ≤ number ∧ number ≤ 6
  | .x86, .arithmetic, number => number ∈ [1, 2, 3, 5, 8]
  | .arm64, .breakpoint, number => number ∈ [1, 0x102]
  | .x86, .breakpoint, number => number ∈ [1, 2, 7]
  | _, .software, number => 0 ≤ number ∧ number ≤ 0x10003
  | _, _, _ => False

variable {family : Family} {number : Int} {code subcode : Int64}

theorem carriedExact {wrap : Int32 → α} {cause : α} :
    (0 ≤ number ∧ number ≤ kernReturnMax) ∧ some (wrap (Int32.ofInt number)) = some cause ↔
      ∃ kernReturn, cause = wrap kernReturn ∧
        0 ≤ number ∧ number ≤ 0x100 ∧ kernReturn.toInt = number := by
  constructor
  · rintro ⟨⟨low, high⟩, same⟩
    exact ⟨_, (Option.some.inj same).symm, low, high, kernReturnKept low high⟩
  · rintro ⟨kernReturn, rfl, low, high, rfl⟩
    rw [Int32.ofInt_toInt]
    exact ⟨⟨low, high⟩, rfl⟩

theorem unlistedNone {names : List (Int × α)} {named : Option α}
    (exact : ∀ cause, named = some cause ↔ (number, cause) ∈ names) :
    named = none ↔ Unnamed names number := by
  simp only [Option.eq_none_iff_forall_ne_some, ne_eq, exact, Unnamed]

theorem listedSome {names : List (Int × α)} {named : Option α}
    (exact : ∀ cause, named = some cause ↔ (number, cause) ∈ names) :
    named.isSome = true ↔ number ∈ names.map Prod.fst := by
  simp only [Option.isSome_iff_exists, exact, List.mem_map, Prod.exists, exists_eq_right,
    exists_and_right]

namespace BadAccess

variable {cause : Cause} {info : BadAccess}

theorem namedExact : Cause.named? family number = some cause ↔ (number, cause) ∈ names family := by
  constructor
  · intro found
    unfold Cause.named? at found
    split at found <;> cases found <;> decide
  · have read : ∀ entry ∈ names family, Cause.named? family entry.1 = some entry.2 := by
      cases family <;> decide
    exact read _

theorem ofCodeOr : Cause.ofCode? family number = (Cause.named? family number).or
    (if 0 ≤ number ∧ number ≤ kernReturnMax then
      some (.vmFault (Int32.ofInt number)) else none) := by
  unfold Cause.ofCode?
  cases Cause.named? family number <;> rfl

theorem causeExact : Cause.ofCode? family number = some cause ↔
    (number, cause) ∈ names family ∨ Unnamed (names family) number ∧
      ∃ kernReturn, cause = .vmFault kernReturn ∧
        0 ≤ number ∧ number ≤ 0x100 ∧ kernReturn.toInt = number := by
  rw [ofCodeOr, Option.or_eq_some_iff, namedExact,
    unlistedNone fun _ => namedExact, Option.ite_none_right_eq_some, carriedExact]

theorem reported : decode? family code subcode = some info ↔
    Reported family code.toInt subcode.toUInt64 (.badAccess info) := by
  rw [decode?, Option.map_eq_some_iff]
  constructor
  · rintro ⟨cause, told, rfl⟩
    rcases causeExact.mp told with named | ⟨unnamed, kernReturn, rfl, low, high, carried⟩
    · exact .access named
    · exact .vmFault unnamed low high carried
  · intro reported
    cases reported with
    | access named => exact ⟨_, causeExact.mpr (.inl named), rfl⟩
    | vmFault unnamed low high carried =>
      exact ⟨_, causeExact.mpr (.inr ⟨unnamed, _, rfl, low, high, carried⟩), rfl⟩

theorem codeKnown :
    (Cause.ofCode? family number).isSome = true ↔ Known family .badAccess number := by
  rw [ofCodeOr, Option.isSome_or, Bool.or_eq_true, listedSome fun _ => namedExact,
    Option.isSome_ite]
  cases family with
  | arm64 | x86 =>
    simp only [names, Known, List.map_cons, List.map_nil, List.mem_cons, List.not_mem_nil,
      or_false, kernReturnMax]
    omega

end BadAccess

namespace BadInstruction

variable {cause : Cause} {info : BadInstruction}

theorem namedExact : Cause.named? family number = some cause ↔ (number, cause) ∈ names family := by
  constructor
  · intro found
    unfold Cause.named? at found
    split at found <;> cases found <;> decide
  · have read : ∀ entry ∈ names family, Cause.named? family entry.1 = some entry.2 := by
      cases family <;> decide
    exact read _

theorem ofCodeOr : Cause.ofCode? family number = (Cause.named? family number).or
    (if family = .x86 ∧ 0 ≤ number ∧ number ≤ kernReturnMax then
      some (.pageFault (Int32.ofInt number)) else none) := by
  unfold Cause.ofCode?
  cases Cause.named? family number <;> rfl

theorem causeExact : Cause.ofCode? family number = some cause ↔
    (number, cause) ∈ names family ∨ Unnamed (names family) number ∧ family = .x86 ∧
      ∃ kernReturn, cause = .pageFault kernReturn ∧
        0 ≤ number ∧ number ≤ 0x100 ∧ kernReturn.toInt = number := by
  rw [ofCodeOr, Option.or_eq_some_iff, namedExact,
    unlistedNone fun _ => namedExact, Option.ite_none_right_eq_some, and_assoc, carriedExact]

theorem reported : decode? family code subcode = some info ↔
    Reported family code.toInt subcode.toUInt64 (.badInstruction info) := by
  rw [decode?, Option.map_eq_some_iff]
  constructor
  · rintro ⟨cause, told, rfl⟩
    rcases causeExact.mp told with named | ⟨unnamed, x86, kernReturn, rfl, low, high, carried⟩
    · exact .instruction named
    · exact .pageFault x86 unnamed low high carried
  · intro reported
    cases reported with
    | instruction named => exact ⟨_, causeExact.mpr (.inl named), rfl⟩
    | pageFault x86 unnamed low high carried =>
      exact ⟨_, causeExact.mpr (.inr ⟨unnamed, x86, _, rfl, low, high, carried⟩), rfl⟩

theorem codeKnown :
    (Cause.ofCode? family number).isSome = true ↔ Known family .badInstruction number := by
  rw [ofCodeOr, Option.isSome_or, Bool.or_eq_true, listedSome fun _ => namedExact,
    Option.isSome_ite]
  cases family with
  | arm64 => simp [names, Known]
  | x86 =>
    simp only [names, Known, List.map_cons, List.map_nil, List.mem_cons, List.not_mem_nil,
      or_false, true_and, kernReturnMax]
    omega

end BadInstruction

namespace Arithmetic

variable {cause : Cause} {info : Arithmetic}

theorem namedExact : Cause.ofCode? family number = some cause ↔ (number, cause) ∈ names family := by
  constructor
  · intro found
    unfold Cause.ofCode? at found
    split at found <;> cases found <;> decide
  · have read : ∀ entry ∈ names family, Cause.ofCode? family entry.1 = some entry.2 := by
      cases family <;> decide
    exact read _

theorem reported : decode? family code subcode = some info ↔
    Reported family code.toInt subcode.toUInt64 (.arithmetic info) := by
  rw [decode?, Option.map_eq_some_iff]
  constructor
  · rintro ⟨cause, told, rfl⟩
    exact .arithmetic (namedExact.mp told)
  · intro reported
    cases reported with
    | arithmetic named => exact ⟨_, namedExact.mpr named, rfl⟩

theorem codeKnown :
    (Cause.ofCode? family number).isSome = true ↔ Known family .arithmetic number := by
  rw [listedSome fun _ => namedExact]
  cases family with
  | arm64 =>
    simp only [names, Known, List.map_cons, List.map_nil, List.mem_cons, List.not_mem_nil,
      or_false]
    omega
  | x86 => simp [names, Known]

end Arithmetic

namespace Software

variable {cause : Cause} {info : Software}

theorem causeExact : Cause.ofCode? number = some cause ↔
    (number, cause) ∈ names ∨ ∃ code, cause = .hardware code ∧ code.toNat = number := by
  constructor
  · intro known
    have told := causeCode known
    cases cause with
    | hardware code => exact .inr ⟨code, rfl, told⟩
    | _ =>
      subst told
      exact .inl (by decide)
  · rintro (named | ⟨code, rfl, rfl⟩)
    · have read : ∀ entry ∈ names, Cause.ofCode? entry.1 = some entry.2 := by decide
      exact read _ named
    · have small := code.toNat_lt
      unfold Cause.ofCode?
      split
      case h_5 => rw [if_pos (by omega), Int.toNat_natCast, UInt16.ofNat_toNat]
      all_goals omega

theorem reported : decode? code subcode = some info ↔
    Reported family code.toInt subcode.toUInt64 (.software info) := by
  rw [decode?, Option.map_eq_some_iff]
  constructor
  · rintro ⟨cause, told, rfl⟩
    rcases causeExact.mp told with named | ⟨code, rfl, carried⟩
    · exact .software named
    · exact .hardware carried
  · intro reported
    cases reported with
    | software named => exact ⟨_, causeExact.mpr (.inl named), rfl⟩
    | hardware carried => exact ⟨_, causeExact.mpr (.inr ⟨_, rfl, carried⟩), rfl⟩

theorem codeKnown : (Cause.ofCode? number).isSome = true ↔ 0 ≤ number ∧ number ≤ 0x10003 := by
  unfold Cause.ofCode?
  split
  case h_5 =>
    rw [Option.isSome_ite]
    grind
  all_goals decide

end Software

namespace Breakpoint

variable {info : Breakpoint}

theorem trapExact {kind : Trap} : Trap.ofCode? number = some kind ↔ (number, kind) ∈ names := by
  constructor
  · intro found
    unfold Trap.ofCode? at found
    split at found <;> cases found <;> decide
  · have read : ∀ entry ∈ names, Trap.ofCode? entry.1 = some entry.2 := by decide
    exact read _

theorem armReported {word : UInt64} : Reported .arm64 1 word (.breakpoint (ofArmSubcode word)) := by
  unfold ofArmSubcode
  split
  · next still => exact .singleStep rfl rfl still
  · next moved =>
    split
    · next planted =>
      rcases plantedWord.mp planted with rfl | rfl
      · exact .debuggerTrap rfl rfl (.inl rfl) rfl
      · exact .debuggerTrap rfl rfl (.inr rfl) rfl
    · next other =>
      rw [plantedWord] at other
      exact .breakpoint rfl rfl (by simpa [moved] using other)

theorem reported : decode? family code subcode = some info ↔
    Reported family code.toInt subcode.toUInt64 (.breakpoint info) := by
  constructor
  · intro told
    unfold decode? at told
    split at told
    · next here =>
      cases told
      rw [here]
      exact armReported
    · next here =>
      cases told
      exact .watchpoint rfl here
    · contradiction
    · obtain ⟨kind, found, rfl⟩ := Option.map_eq_some_iff.mp told
      exact .trap rfl (trapExact.mp found)
  · intro reported
    cases reported with
    | trap x86 named =>
      subst x86
      exact Option.map_eq_some_iff.mpr ⟨_, trapExact.mpr named, rfl⟩
    | watchpoint arm here =>
      subst arm
      simp only [decode?, here]
    | singleStep arm here still =>
      subst arm
      simp only [decode?, here, still]
      rfl
    | debuggerTrap arm here planted whole =>
      subst arm
      simp only [decode?, here, ← whole]
      rcases planted with rfl | rfl <;> rfl
    | breakpoint arm here other =>
      subst arm
      simp only [List.mem_cons, List.not_mem_nil, or_false, not_or] at other
      simp [decode?, here, ofArmSubcode, plantedWord, other]

theorem codeKnown :
    (decode? family code subcode).isSome = true ↔ Known family .breakpoint code.toInt := by
  unfold decode?
  split
  · next here => simp [Known, here]
  · next here => simp [Known, here]
  · next other another =>
    simp only [Option.isSome_none, Bool.false_eq_true, Known, List.mem_cons, List.not_mem_nil,
      or_false, false_iff, not_or]
    exact ⟨other, another⟩
  · rw [Option.isSome_map, listedSome fun _ => trapExact]
    rfl

end Breakpoint

namespace Decoder

def tabledCategories : List Category :=
  [.badAccess, .badInstruction, .arithmetic, .breakpoint, .software]

def onWords (family : Family) (category : Category) (code subcode : Int64) : Option Diagnosis :=
  (⟨some family⟩ : Decoder).decode? ⟨category, some code, some subcode⟩

structure Recognizes (family : Family) : Prop where
  told : ∀ category ∈ tabledCategories, ∀ code subcode decoded,
    onWords family category code subcode = some decoded ↔
      decoded.category = category ∧ Reported family code.toInt subcode.toUInt64 decoded
  known : ∀ category ∈ tabledCategories, ∀ code subcode,
    (onWords family category code subcode).isSome = true ↔ Known family category code.toInt
  accessNamed : ∀ code subcode cause, (code.toInt, cause) ∈ BadAccess.names family →
    onWords family .badAccess code subcode = some (.badAccess ⟨cause, subcode.toUInt64⟩)
  instructionNamed : ∀ code subcode cause, (code.toInt, cause) ∈ BadInstruction.names family →
    onWords family .badInstruction code subcode =
      some (.badInstruction ⟨family, cause, subcode.toUInt64⟩)
  arithmeticNamed : ∀ code subcode cause, (code.toInt, cause) ∈ Arithmetic.names family →
    onWords family .arithmetic code subcode = some (.arithmetic ⟨family, cause, subcode.toUInt64⟩)
  softwareNamed : ∀ code subcode cause, (code.toInt, cause) ∈ Software.names →
    onWords family .software code subcode = some (.software ⟨cause, subcode.toUInt64⟩)
  trapNamed : family = .x86 → ∀ code subcode kind, (code.toInt, kind) ∈ Breakpoint.names →
    onWords family .breakpoint code subcode = some (.breakpoint (.trap kind subcode.toUInt64))
  vmFault : ∀ code subcode kernReturn address,
    onWords family .badAccess code subcode = some (.badAccess ⟨.vmFault kernReturn, address⟩) →
      kernReturn.toInt = code.toInt ∧ 0 ≤ code.toInt ∧ code.toInt ≤ 0x100
  pageFault : ∀ code subcode kernReturn word,
    onWords family .badInstruction code subcode =
      some (.badInstruction ⟨family, .pageFault kernReturn, word⟩) →
        kernReturn.toInt = code.toInt ∧ 0 ≤ code.toInt ∧ code.toInt ≤ 0x100
  planted : family = .arm64 → ∀ code subcode,
    (∃ instruction, onWords family .breakpoint code subcode =
      some (.breakpoint (.debuggerTrap instruction))) ↔
        code = 1 ∧ (subcode.toUInt64 = 0xe7ffdefe ∨ subcode.toUInt64 = 0xe7ffdeff)
  stepped : family = .arm64 → ∀ code subcode,
    onWords family .breakpoint code subcode = some (.breakpoint .singleStep) ↔
      code = 1 ∧ subcode = 0
  apart : ∀ category ∈ tabledCategories, ∀ other, ∀ another ∈ tabledCategories,
    ∀ code subcode twin below, (onWords family category code subcode).isSome = true →
      (onWords other another twin below).isSome = true →
        code.toInt % UInt32.size = twin.toInt % UInt32.size → code = twin

variable {category : Category} {decoded : Diagnosis}

theorem familyRead {payload : Type} {read : Family → Option payload} {wrap : payload → Diagnosis} :
    (do return wrap (← read (← some family))) = (read family).map wrap := by
  change (read family).bind _ = _
  cases read family <;> rfl

theorem accessDecoded : onWords family .badAccess code subcode =
    (BadAccess.decode? family code subcode).map .badAccess := familyRead

theorem instructionDecoded :
    onWords family .badInstruction code subcode =
      (BadInstruction.decode? family code subcode).map .badInstruction := familyRead

theorem arithmeticDecoded : onWords family .arithmetic code subcode =
    (Arithmetic.decode? family code subcode).map .arithmetic := familyRead

theorem breakpointDecoded : onWords family .breakpoint code subcode =
    (Breakpoint.decode? family code subcode).map .breakpoint := familyRead

theorem softwareDecoded : onWords family .software code subcode =
    (Software.decode? code subcode).map .software := rfl

theorem wrapExact {payload : Type} {read : Option payload} {wrap : payload → Diagnosis}
    {word : UInt64} (exact : ∀ info, read = some info ↔ Reported family number word (wrap info))
    (wrapped : decoded.category = category ↔ ∃ info, wrap info = decoded) :
    read.map wrap = some decoded ↔
      decoded.category = category ∧ Reported family number word decoded := by
  rw [Option.map_eq_some_iff, wrapped]
  constructor
  · rintro ⟨info, told, rfl⟩
    exact ⟨⟨info, rfl⟩, (exact info).mp told⟩
  · rintro ⟨⟨info, rfl⟩, reported⟩
    exact ⟨info, (exact info).mpr reported, rfl⟩

theorem tableTold (tabled : category ∈ tabledCategories) :
    onWords family category code subcode = some decoded ↔
      decoded.category = category ∧ Reported family code.toInt subcode.toUInt64 decoded := by
  cases category with
  | badAccess =>
    rw [accessDecoded]
    exact wrapExact (fun _ => BadAccess.reported) (by cases decoded <;> simp [Diagnosis.category])
  | badInstruction =>
    rw [instructionDecoded]
    exact wrapExact (fun _ => BadInstruction.reported)
      (by cases decoded <;> simp [Diagnosis.category])
  | arithmetic =>
    rw [arithmeticDecoded]
    exact wrapExact (fun _ => Arithmetic.reported) (by cases decoded <;> simp [Diagnosis.category])
  | breakpoint =>
    rw [breakpointDecoded]
    exact wrapExact (fun _ => Breakpoint.reported) (by cases decoded <;> simp [Diagnosis.category])
  | software =>
    rw [softwareDecoded]
    exact wrapExact (fun _ => Software.reported) (by cases decoded <;> simp [Diagnosis.category])
  | _ => contradiction

theorem tableKnown (tabled : category ∈ tabledCategories) :
    (onWords family category code subcode).isSome = true ↔
      Known family category code.toInt := by
  cases category with
  | badAccess =>
    rw [accessDecoded, Option.isSome_map, BadAccess.decode?, Option.isSome_map,
      BadAccess.codeKnown]
  | badInstruction =>
    rw [instructionDecoded, Option.isSome_map, BadInstruction.decode?, Option.isSome_map,
      BadInstruction.codeKnown]
  | arithmetic =>
    rw [arithmeticDecoded, Option.isSome_map, Arithmetic.decode?, Option.isSome_map,
      Arithmetic.codeKnown]
  | breakpoint => rw [breakpointDecoded, Option.isSome_map, Breakpoint.codeKnown]
  | software =>
    rw [softwareDecoded, Option.isSome_map, Software.decode?, Option.isSome_map, Software.codeKnown]
    cases family <;> rfl
  | _ => contradiction

theorem knownSmall (tabled : category ∈ tabledCategories) (known : Known family category number) :
    0 ≤ number ∧ number ≤ 0x10003 := by
  cases category with
  | badAccess | badInstruction | arithmetic | breakpoint | software =>
    cases family <;> simp [Known] at known <;> omega
  | _ => contradiction

theorem vmFaultCarried {kernReturn : Int32} {address : UInt64}
    (told : onWords family .badAccess code subcode =
      some (.badAccess ⟨.vmFault kernReturn, address⟩)) :
    kernReturn.toInt = code.toInt ∧ 0 ≤ code.toInt ∧ code.toInt ≤ 0x100 := by
  obtain ⟨-, reported⟩ := (tableTold (by decide)).mp told
  cases reported with
  | access named => cases family <;> simp [BadAccess.names] at named
  | vmFault _ low high carried => exact ⟨carried, low, high⟩

theorem pageFaultCarried {kernReturn : Int32} {word : UInt64}
    (told : onWords family .badInstruction code subcode =
      some (.badInstruction ⟨family, .pageFault kernReturn, word⟩)) :
    kernReturn.toInt = code.toInt ∧ 0 ≤ code.toInt ∧ code.toInt ≤ 0x100 := by
  obtain ⟨-, reported⟩ := (tableTold (by decide)).mp told
  cases reported with
  | instruction named => cases family <;> simp [BadInstruction.names] at named
  | pageFault _ _ low high carried => exact ⟨carried, low, high⟩

theorem plantedExact (arm : family = .arm64) :
    (∃ instruction, onWords family .breakpoint code subcode =
      some (.breakpoint (.debuggerTrap instruction))) ↔
        code = 1 ∧ (subcode.toUInt64 = 0xe7ffdefe ∨ subcode.toUInt64 = 0xe7ffdeff) := by
  constructor
  · rintro ⟨instruction, told⟩
    obtain ⟨-, reported⟩ := (tableTold (by decide)).mp told
    cases reported with
    | debuggerTrap _ here planted whole =>
      refine ⟨Int64.toInt_inj.mp here, ?_⟩
      rw [← whole]
      rcases planted with rfl | rfl
      · exact .inl rfl
      · exact .inr rfl
  · rintro ⟨rfl, whole | whole⟩
    · exact ⟨0xe7ffdefe, (tableTold (by decide)).mpr
        ⟨rfl, .debuggerTrap arm rfl (.inl rfl) whole.symm⟩⟩
    · exact ⟨0xe7ffdeff, (tableTold (by decide)).mpr
        ⟨rfl, .debuggerTrap arm rfl (.inr rfl) whole.symm⟩⟩

theorem steppedExact (arm : family = .arm64) :
    onWords family .breakpoint code subcode = some (.breakpoint .singleStep) ↔
      code = 1 ∧ subcode = 0 := by
  constructor
  · intro told
    obtain ⟨-, reported⟩ := (tableTold (by decide)).mp told
    cases reported with
    | singleStep _ here still => exact ⟨Int64.toInt_inj.mp here, zeroWord still⟩
  · rintro ⟨rfl, rfl⟩
    exact (tableTold (by decide)).mpr ⟨rfl, .singleStep arm rfl rfl⟩

theorem codesApart {other : Family} {another : Category} {twin below : Int64}
    (tabled : category ∈ tabledCategories) (tabled' : another ∈ tabledCategories)
    (here : (onWords family category code subcode).isSome = true)
    (there : (onWords other another twin below).isSome = true)
    (same : code.toInt % UInt32.size = twin.toInt % UInt32.size) : code = twin := by
  have first := knownSmall tabled ((tableKnown tabled).mp here)
  have second := knownSmall tabled' ((tableKnown tabled').mp there)
  apply Int64.toInt_inj.mp
  simp only [UInt32.size] at same
  omega

theorem tablesExact (family : Family) : Recognizes family where
  told _ tabled _ _ _ := tableTold tabled
  known _ tabled _ _ := tableKnown tabled
  accessNamed _ _ _ named := (tableTold (by decide)).mpr ⟨rfl, .access named⟩
  instructionNamed _ _ _ named := (tableTold (by decide)).mpr ⟨rfl, .instruction named⟩
  arithmeticNamed _ _ _ named := (tableTold (by decide)).mpr ⟨rfl, .arithmetic named⟩
  softwareNamed _ _ _ named := (tableTold (by decide)).mpr ⟨rfl, .software named⟩
  trapNamed x86 _ _ _ named := (tableTold (by decide)).mpr ⟨rfl, .trap x86 named⟩
  vmFault _ _ _ _ told := vmFaultCarried told
  pageFault _ _ _ _ told := pageFaultCarried told
  planted arm _ _ := plantedExact arm
  stepped arm _ _ := steppedExact arm
  apart _ tabled _ _ tabled' _ _ _ _ here there same := codesApart tabled tabled' here there same

theorem wordNotCut : (Category.breakpoint ∈ tabledCategories) ∧
    onWords .arm64 .breakpoint 1 0x1e7ffdefe = some (.breakpoint (.breakpoint 0x1e7ffdefe)) ∧
    onWords .x86 .software 0x100000002 0 = none := by
  have tabled : Category.breakpoint ∈ tabledCategories := by decide
  refine ⟨tabled, ?_, ?_⟩
  · refine ((tablesExact _).told _ tabled _ _ _).mpr ⟨rfl, .breakpoint rfl rfl ?_⟩
    decide
  · rw [← Option.not_isSome_iff_eq_none, (tablesExact _).known _ (by decide)]
    exact fun known => absurd known.2 (by decide)

end Decoder
end FaultWatch
