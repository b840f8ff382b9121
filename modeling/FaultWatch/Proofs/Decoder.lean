import FaultWatch.Decoder

/-! Category, presence and family in decoding. A diagnosis keeps the category of the fault that it
is made of; nothing is made of a fault without a code, and only calls do without a subcode, which
they never look at; and a family makes a difference for what a processor raises alone. The main
statement is `decodingDisciplined`. -/
namespace FaultWatch.Decoder

def processorCategories : List Category := [.badAccess, .badInstruction, .arithmetic, .breakpoint]

def callCategories : List Category := [.syscall, .kernelSyscall]

structure Disciplined (decoder : Decoder) : Prop where
  kept : ∀ raw decoded, decoder.decode? raw = some decoded → decoded.category = raw.category
  codeless : ∀ raw, raw.code = none → decoder.decode? raw = none
  subcodeless : ∀ raw, raw.subcode = none →
    (decoder.decode? raw ≠ none ↔ raw.category ∈ callCategories ∧ raw.code ≠ none)
  calls : ∀ category ∈ callCategories, ∀ code, ∃ decoded,
    ∀ subcode, decoder.decode? ⟨category, some code, subcode⟩ = some decoded
  shared : ∀ raw, raw.category ∉ processorCategories →
    ∀ other : Decoder, other.decode? raw = decoder.decode? raw
  raised : ∀ raw, raw.category ∈ processorCategories → decoder.family = none →
    decoder.decode? raw = none

variable {decoder other : Decoder} {category : Category} {code subcode : Int64} {raw : Fault}
  {decoded : Diagnosis}

theorem decodeWordsCategory (ok : decoder.decodeWords? category code subcode = some decoded) :
    decoded.category = category := by
  unfold decodeWords? at ok
  cases category with
  | emulation | syscall | kernelSyscall | crash =>
    cases ok
    rfl
  | software | rpcAlert | resourceLimit | guardViolation | corpseNotify =>
    obtain ⟨info, _, rfl⟩ := Option.map_eq_some_iff.mp ok
    rfl
  | badAccess | badInstruction | arithmetic | breakpoint =>
    simp only [bind, Option.bind_eq_some_iff] at ok
    obtain ⟨family, _, info, _, same⟩ := ok
    cases same
    rfl

theorem decodeCategory (ok : decoder.decode? raw = some decoded) :
    decoded.category = raw.category := by
  unfold decode? at ok
  split at ok
  · next named _ _ =>
    cases ok
    exact named.symm
  · next named _ _ =>
    cases ok
    exact named.symm
  · exact decodeWordsCategory ok
  · contradiction

theorem codeNeeded (absent : raw.code = none) : decoder.decode? raw = none := by
  obtain ⟨category, code, subcode⟩ := raw
  cases absent
  cases category <;> rfl

theorem callsDecoded (call : category ∈ callCategories) (code : Int64) :
    ∃ decoded, ∀ subcode, decoder.decode? ⟨category, some code, subcode⟩ = some decoded := by
  cases category with
  | syscall => exact ⟨.syscall ⟨code⟩, fun | none => rfl | some _ => rfl⟩
  | kernelSyscall => exact ⟨.kernelSyscall ⟨code⟩, fun | none => rfl | some _ => rfl⟩
  | _ => contradiction

theorem subcodeNeeded (elsewhere : category ∉ callCategories) (code : Option Int64) :
    decoder.decode? ⟨category, code, none⟩ = none := by
  cases category with
  | syscall | kernelSyscall => exact absurd (by decide) elsewhere
  | _ => cases code <;> rfl

theorem subcodeDecides (absent : raw.subcode = none) :
    decoder.decode? raw ≠ none ↔ raw.category ∈ callCategories ∧ raw.code ≠ none := by
  obtain ⟨category, code, subcode⟩ := raw
  cases absent
  constructor
  · intro found
    refine ⟨?_, fun none => found (codeNeeded none)⟩
    exact Decidable.byContradiction fun elsewhere => found (subcodeNeeded elsewhere code)
  · rintro ⟨call, present⟩
    cases code with
    | none => contradiction
    | some code =>
      obtain ⟨decoded, same⟩ := @callsDecoded decoder _ call code
      rw [same]
      exact Option.some_ne_none decoded

theorem wordsShared (shared : category ∉ processorCategories) :
    other.decodeWords? category code subcode = decoder.decodeWords? category code subcode := by
  cases category with
  | badAccess | badInstruction | arithmetic | breakpoint => exact absurd (by decide) shared
  | _ => rfl

theorem decodingShared (shared : raw.category ∉ processorCategories) (other : Decoder) :
    other.decode? raw = decoder.decode? raw := by
  unfold decode?
  split
  · rfl
  · rfl
  · exact wordsShared shared
  · rfl

theorem familyNeeded (raised : raw.category ∈ processorCategories)
    (unknown : decoder.family = none) : decoder.decode? raw = none := by
  obtain ⟨family⟩ := decoder
  cases unknown
  obtain ⟨category, code, subcode⟩ := raw
  cases category with
  | badAccess | badInstruction | arithmetic | breakpoint =>
    match code, subcode with
    | some _, some _ => rfl
    | none, _ | some _, none => rfl
  | _ => contradiction

theorem decodingDisciplined (decoder : Decoder) : Disciplined decoder where
  kept _ _ := decodeCategory
  codeless _ := codeNeeded
  subcodeless _ := subcodeDecides
  calls _ := callsDecoded
  shared _ := decodingShared
  raised _ := familyNeeded

theorem memoryNoticeShared : Category.corpseNotify ∉ processorCategories ∧
    (⟨some .arm64⟩ : Decoder).decode? ⟨.corpseNotify, some 11, some 0x6400000000000200⟩ =
      some (.corpseNotify (.resource (.memory .highWatermark 512))) := by
  have shared : Category.corpseNotify ∉ processorCategories := by decide
  refine ⟨shared, ?_⟩
  rw [(decodingDisciplined ⟨none⟩).shared ⟨.corpseNotify, _, _⟩ shared]
  rfl

end FaultWatch.Decoder
