import FaultWatch.Proofs.Guard
import FaultWatch.Proofs.Mask

/-! Notices of a corpse. A notice of a resource or a guard wraps what the word that it carries
decodes to by itself, and one of a crash is written back from its payload. `pass` is the decoder
with its recursion left open: decoding is its fixed point, two passes reach it whatever is asked
below them, and nothing but limits and guards is ever asked there. The main statement is
`noticesDelegate`. -/
namespace FaultWatch

def Diagnosis.notice? : Diagnosis → Option Diagnosis
  | resourceLimit info => some (corpseNotify (.resource info))
  | guardViolation info => some (corpseNotify (.guard info))
  | _ => none

namespace Decoder

/-- One pass of the decoder, in which a notice asks `deeper` about the word that it carries. -/
def pass (decoder : Decoder) (deeper : Fault → Option Diagnosis) (raw : Fault) :
    Option Diagnosis :=
  match raw.category, raw.code, raw.subcode with
  | .corpseNotify, some code, some subcode =>
    match Category.ofNumber? code.toInt with
    | some .crash => (Corpse.crashOfWord? subcode.toUInt64).map .corpseNotify
    | some .resourceLimit => (deeper ⟨.resourceLimit, some subcode, some 0⟩).bind Diagnosis.notice?
    | some .guardViolation =>
      (deeper ⟨.guardViolation, some subcode, some 0⟩).bind Diagnosis.notice?
    | _ => none
  | _, _, _ => decoder.decode? raw

structure Delegates (decoder : Decoder) : Prop where
  resource : ∀ subcode, ∃ found : Option Resource,
    decoder.decode? ⟨.resourceLimit, some subcode, some 0⟩ = found.map .resourceLimit ∧
      decoder.decode? ⟨.corpseNotify, some 11, some subcode⟩ =
        found.map fun info => .corpseNotify (.resource info)
  guard : ∀ subcode, ∃ found : Option Guard,
    decoder.decode? ⟨.guardViolation, some subcode, some 0⟩ = found.map .guardViolation ∧
      decoder.decode? ⟨.corpseNotify, some 12, some subcode⟩ =
        found.map fun info => .corpseNotify (.guard info)
  crash : ∀ subcode decoded,
    decoder.decode? ⟨.corpseNotify, some 10, some subcode⟩ = some decoded ↔
      ∃ space reason, decoded = .corpseNotify (.crash space reason) ∧
        reason.toNat < UInt32.size ∧
          subcode.toUInt64.toNat = space.number * UInt32.size + reason.toNat
  unnumbered : ∀ subcode, decoder.decode? ⟨.corpseNotify, some 10, some subcode⟩ = none ↔
    30 < subcode.toUInt64.toNat / UInt32.size
  other : ∀ code subcode, code ∉ [some 10, some 11, some 12] ∨ subcode = none →
    decoder.decode? ⟨.corpseNotify, code, subcode⟩ = none
  recursive : decoder.pass decoder.decode? = decoder.decode?
  twice : ∀ deeper, decoder.pass (decoder.pass deeper) = decoder.decode?
  outward : ∀ deeper another : Fault → Option Diagnosis,
    (∀ raw, raw.category = .resourceLimit ∨ raw.category = .guardViolation →
      deeper raw = another raw) → decoder.pass deeper = decoder.pass another

end Decoder

namespace Corpse

variable {space : Namespace} {reason word : UInt64} {notice : Corpse}

theorem spaceHigh : (namespaceField.extract word).toNat = word.toNat / UInt32.size := by
  have small := word.toNat_lt
  rw [Field.readNat]
  change word.toNat >>> 32 % (1 <<< 32) = _
  rw [Nat.shiftRight_eq_div_pow]
  exact Nat.mod_eq_of_lt (by simp; omega)

theorem reasonLow : (reasonField.extract word).toNat = word.toNat % UInt32.size := by
  rw [Field.readNat]
  rfl

theorem crashExact : crashOfWord? word = some (crash space reason) ↔
    reason.toNat < UInt32.size ∧ word.toNat = space.number * UInt32.size + reason.toNat := by
  have known : Namespace.ofNumber? (namespaceField.extract word) = some space ↔
      space.number = word.toNat / UInt32.size := by
    rw [Namespace.ofNumber?, Namespace.numbered, spaceHigh]
  have low : reasonField.extract word = reason ↔ word.toNat % UInt32.size = reason.toNat := by
    rw [← UInt64.toNat_inj, reasonLow]
  rw [crashOfWord?, Option.map_eq_some_iff]
  constructor
  · rintro ⟨space, found, same⟩
    cases same
    rw [known] at found
    rw [reasonLow, found]
    exact ⟨Nat.mod_lt _ (by decide), (Nat.div_add_mod' _ _).symm⟩
  · rintro ⟨small, packed⟩
    simp only [UInt32.size] at known low small packed
    exact ⟨space, known.mpr (by omega), congrArg _ (low.mpr (by omega))⟩

theorem crashOnly (told : crashOfWord? word = some notice) :
    ∃ space reason, notice = crash space reason := by
  obtain ⟨space, -, rfl⟩ := Option.map_eq_some_iff.mp told
  exact ⟨_, _, rfl⟩

theorem crashUnnumbered : crashOfWord? word = none ↔ 30 < word.toNat / UInt32.size := by
  rw [crashOfWord?, Option.map_eq_none_iff, Namespace.ofNumber?, Namespace.unnumbered, spaceHigh]

end Corpse

namespace Decoder

variable {decoder : Decoder} {deeper another : Fault → Option Diagnosis} {raw : Fault}
  {code subcode : Int64}

theorem passAgree (agree : ∀ raw, raw.category = .resourceLimit ∨ raw.category = .guardViolation →
    deeper raw = another raw) : decoder.pass deeper = decoder.pass another := by
  funext raw
  unfold pass
  split
  · split
    · rfl
    · rw [agree _ (.inl rfl)]
    · rw [agree _ (.inr rfl)]
    · rfl
  · rfl

theorem passElsewhere (elsewhere : raw.category ≠ .corpseNotify) :
    decoder.pass deeper raw = decoder.decode? raw := by
  unfold pass
  split
  · contradiction
  · rfl

theorem noticeDecoded : decoder.decode? ⟨.corpseNotify, some code, some subcode⟩ =
    (Corpse.decode? code subcode).map .corpseNotify := rfl

theorem noticePass : decoder.pass decoder.decode? ⟨.corpseNotify, some code, some subcode⟩ =
    decoder.decode? ⟨.corpseNotify, some code, some subcode⟩ := by
  rw [noticeDecoded, Corpse.decode?]
  simp only [pass]
  cases Category.ofNumber? code.toInt with
  | none => rfl
  | some nested =>
    cases nested with
    | resourceLimit =>
      change ((Resource.decode? subcode 0).map _).bind _ = _
      cases Resource.decode? subcode 0 <;> rfl
    | guardViolation =>
      change ((Guard.decode? subcode 0).map _).bind _ = _
      cases Guard.decode? subcode 0 <;> rfl
    | _ => rfl

theorem passOpen : decoder.pass decoder.decode? = decoder.decode? := by
  funext raw
  obtain ⟨category, first, second⟩ := raw
  by_cases notice : category = .corpseNotify
  · subst notice
    match first, second with
    | some code, some subcode => exact noticePass
    | none, _ | some _, none => rfl
  · exact passElsewhere notice

theorem noticeOther (other : code ∉ [10, 11, 12]) : Corpse.decode? code subcode = none := by
  have apart : ∀ category : Category, category.number ∈ [10, 11, 12] →
      Category.ofNumber? code.toInt ≠ some category := by
    intro category listed named
    have same : code = Int64.ofNat category.number := by
      rw [← Int64.ofInt_toInt code, Category.numberExact.mp named]
      rfl
    rw [same] at other
    revert other listed
    cases category <;> decide
  unfold Corpse.decode?
  split
  · next named => exact absurd named (apart _ (by decide))
  · next named => exact absurd named (apart _ (by decide))
  · next named => exact absurd named (apart _ (by decide))
  · rfl

theorem noticesDelegate (decoder : Decoder) : Delegates decoder where
  resource subcode := ⟨Resource.decode? subcode 0, rfl, Option.map_map _ _ _⟩
  guard subcode := ⟨Guard.decode? subcode 0, rfl, Option.map_map _ _ _⟩
  crash subcode decoded := by
    change (Corpse.crashOfWord? subcode.toUInt64).map _ = _ ↔ _
    rw [Option.map_eq_some_iff]
    constructor
    · rintro ⟨notice, told, rfl⟩
      obtain ⟨space, reason, rfl⟩ := Corpse.crashOnly told
      exact ⟨space, reason, rfl, Corpse.crashExact.mp told⟩
    · rintro ⟨space, reason, rfl, packed⟩
      exact ⟨_, Corpse.crashExact.mpr packed, rfl⟩
  unnumbered subcode := by
    change (Corpse.crashOfWord? subcode.toUInt64).map _ = _ ↔ _
    rw [Option.map_eq_none_iff, Corpse.crashUnnumbered]
  other first second unknown := by
    match first, second with
    | none, _ | some _, none => rfl
    | some code, some subcode =>
      have other : code ∉ [10, 11, 12] := by simpa using unknown
      rw [noticeDecoded, noticeOther other]
      rfl
  recursive := passOpen
  twice deeper := by
    refine (passAgree fun raw carried => ?_).trans passOpen
    rcases carried with here | here <;> exact passElsewhere (by rw [here]; decide)
  outward deeper another agree := passAgree agree

theorem aliasUndelegated : some 0x10000000b ∉ [some 10, some 11, some (12 : Int64)] ∧
    (⟨none⟩ : Decoder).decode? ⟨.corpseNotify, some 0x10000000b, some 0x6400000000000200⟩ = none ∧
    (⟨none⟩ : Decoder).decode? ⟨.corpseNotify, some 11, some 0x6400000000000200⟩ ≠ none := by
  have unknown : some 0x10000000b ∉ [some 10, some 11, some (12 : Int64)] := by decide
  exact ⟨unknown, (noticesDelegate _).other _ _ (.inl unknown), by decide⟩

end Decoder
end FaultWatch
