import FaultWatch.Decoder
import FaultWatch.Proofs.Field

/-! The layout of guard words, both ways. What is written into the fields of a kind is what decodes
from them, each value cut to its field, whatever the word held before and in whatever order it was
written; and of a word nothing counts but its kind and the fields of that kind. The main statement
is `layoutExact`. -/
namespace FaultWatch

theorem Namespace.numberAt : ∀ n, (small : n < Namespace.all.length) →
    Namespace.all[n].number = n := by
  decide

theorem Namespace.numbered {n : Nat} {space : Namespace} :
    Namespace.all[n]? = some space ↔ space.number = n := by
  constructor
  · intro found
    obtain ⟨small, rfl⟩ := List.getElem?_eq_some_iff.mp found
    exact numberAt n small
  · rintro rfl
    cases space <;> rfl

theorem Namespace.unnumbered {n : Nat} : Namespace.all[n]? = none ↔ 30 < n := by
  rw [List.getElem?_eq_none_iff]
  exact Nat.succ_le_iff

namespace Guard

def fieldsOf : Nat → List Field
  | 1 => [portNameField, reasonField]
  | 2 => [descriptorField, flavorField]
  | 3 => [namespaceField]
  | 4 => [pidField]
  | _ => []

/-- A kind and the values of its fields, and the guard that they stand for beside a subcode. -/
inductive Stands (subcode : Int64) : List (Field × UInt64) → Guard → Prop
  | none : Stands subcode [(kindField, 0)] .none
  | port {name reason : UInt64} :
      Stands subcode [(kindField, 1), (portNameField, name), (reasonField, reason)]
        (.port name.toUInt32 ⟨reason % 0x20000000⟩ subcode)
  | descriptor {number ops : UInt64} :
      Stands subcode [(kindField, 2), (descriptorField, number), (flavorField, ops)]
        (.descriptor number.toUInt32.toInt32 ⟨(ops % 0x20000000).toUInt32⟩ subcode)
  | user {number : UInt64} {space : Namespace} (numbered : space.number = number.toUInt32.toNat) :
      Stands subcode [(kindField, 3), (namespaceField, number)] (.user space subcode)
  | file {pid : UInt64} :
      Stands subcode [(kindField, 4), (pidField, pid)]
        (.file pid.toUInt32.toInt32 ⟨subcode.toUInt64⟩)
  | memory : Stands subcode [(kindField, 5)] (.memory subcode)

variable {word other value : UInt64} {subcode : Int64} {writes order : List (Field × UInt64)}
  {guard : Guard}

theorem standsApart (stands : Stands subcode writes guard) : Field.Apart writes := by
  cases stands <;> simp [Field.Apart] <;> decide

theorem keepsHalf {f : Field} (half : f.width = 32) :
    (value &&& f.mask).toUInt32 = value.toUInt32 := by
  apply UInt32.toNat_inj.mp
  rw [UInt64.toNat_toUInt32, UInt64.toNat_toUInt32, Field.keptNat, half]
  exact Nat.mod_mod _ _

theorem keepsFlags {f : Field} (flags : f.width = 29) : value &&& f.mask = value % 0x20000000 :=
  Field.keptRem (by rw [flags]; rfl)

theorem standsDecoded (stands : Stands subcode writes guard) (shuffled : order.Perm writes) :
    ofWords? (Field.writeAll word order) subcode = some guard := by
  have apart := (Field.apartPerm shuffled).mpr (standsApart stands)
  have reads : ∀ f value, (f, value) ∈ writes →
      f.extract (Field.writeAll word order) = value &&& f.mask := fun f value member =>
    Field.readAll apart (shuffled.mem_iff.mpr member)
  generalize Field.writeAll word order = packed at reads
  cases stands with
  | none =>
    have kind : kindField.extract packed = 0 := (reads kindField 0 (by simp)).trans (by decide)
    simp [ofWords?, kind]
  | @port name reason =>
    have kind : kindField.extract packed = 1 := (reads kindField 1 (by simp)).trans (by decide)
    have named := reads portNameField name (by simp)
    have reasoned := reads reasonField reason (by simp)
    simp [ofWords?, kind, named, reasoned, keepsHalf (f := portNameField) rfl,
      keepsFlags (f := reasonField) rfl]
  | @descriptor number ops =>
    have kind : kindField.extract packed = 2 := (reads kindField 2 (by simp)).trans (by decide)
    have numbered := reads descriptorField number (by simp)
    have flagged := reads flavorField ops (by simp)
    simp [ofWords?, kind, numbered, flagged, keepsHalf (f := descriptorField) rfl,
      keepsFlags (f := flavorField) rfl]
  | @user number space numbered =>
    have kind : kindField.extract packed = 3 := (reads kindField 3 (by simp)).trans (by decide)
    have spaced : (namespaceField.extract packed).toNat = space.number := by
      rw [reads namespaceField number (by simp), Field.keptNat, numbered, UInt64.toNat_toUInt32]
      rfl
    have known : Namespace.ofNumber? (namespaceField.extract packed) = some space :=
      Namespace.numbered.mpr spaced.symm
    simp [ofWords?, kind, known]
  | @file pid =>
    have kind : kindField.extract packed = 4 := (reads kindField 4 (by simp)).trans (by decide)
    have owned := reads pidField pid (by simp)
    simp [ofWords?, kind, owned, keepsHalf (f := pidField) rfl]
  | memory =>
    have kind : kindField.extract packed = 5 := (reads kindField 5 (by simp)).trans (by decide)
    simp [ofWords?, kind]

theorem kindSmall : (kindField.extract word).toNat < 8 := by
  rw [Field.readNat]
  exact Nat.mod_lt _ (by decide)

theorem undecoded : ofWords? word subcode = .none ↔
    kindField.extract word = 6 ∨ kindField.extract word = 7 ∨
      kindField.extract word = 3 ∧ 30 < namespaceField.extract word := by
  have small : (kindField.extract word).toNat < 8 := kindSmall
  simp only [← UInt64.toNat_inj, UInt64.lt_iff_toNat_lt, UInt64.reduceToNat]
  unfold ofWords?
  split
  case h_4 here =>
    rw [Option.map_eq_none_iff, Namespace.ofNumber?, Namespace.unnumbered]
    simp [here]
  case h_7 =>
    constructor
    · intro _
      grind
    · intro _
      rfl
  all_goals next here => simp [here]

theorem fieldsDecide (kind : kindField.extract other = kindField.extract word)
    (alike : ∀ f ∈ fieldsOf (kindField.extract word).toNat, f.extract other = f.extract word) :
    ofWords? other subcode = ofWords? word subcode := by
  unfold ofWords?
  rw [kind]
  split <;> next here => simp_all [fieldsOf]

theorem decodedGuard {decoder : Decoder} {code : Int64} :
    decoder.decode? ⟨.guardViolation, some code, some subcode⟩ =
      (ofWords? code.toUInt64 subcode).map .guardViolation := rfl

theorem layoutExact (decoder : Decoder) (subcode : Int64) :
    (∀ writes guard, Stands subcode writes guard → ∀ order : List (Field × UInt64),
      order.Perm writes → ∀ word,
      let packed := layout.editAll word (order.map fun write => .direct write.1 write.2)
      decoder.decode? ⟨.guardViolation, some packed.toInt64, some subcode⟩ =
        some (.guardViolation guard)) ∧
    (∀ first second, decoder.decode? ⟨.guardViolation, first, second⟩ = .none ↔
      first = .none ∨ second = .none ∨ ∃ code, first = some code ∧
        (kindField.extract code.toUInt64 = 6 ∨ kindField.extract code.toUInt64 = 7 ∨
          kindField.extract code.toUInt64 = 3 ∧ 30 < namespaceField.extract code.toUInt64)) ∧
    (∀ code other : Int64,
      kindField.extract other.toUInt64 = kindField.extract code.toUInt64 →
      (∀ f ∈ fieldsOf (kindField.extract code.toUInt64).toNat,
        f.extract other.toUInt64 = f.extract code.toUInt64) →
      decoder.decode? ⟨.guardViolation, some other, some subcode⟩ =
        decoder.decode? ⟨.guardViolation, some code, some subcode⟩) := by
  refine ⟨?_, ?_, ?_⟩
  · intro writes guard stands order shuffled word packed
    have filled : packed = Field.writeAll word order := Field.editAllDirect layout
    rw [decodedGuard, UInt64.toUInt64_toInt64, filled, standsDecoded stands shuffled]
    rfl
  · intro first second
    match first, second with
    | .none, _ => simp [Decoder.decode?]
    | some code, .none => simp [Decoder.decode?]
    | some code, some subcode => simp [decodedGuard, undecoded]
  · intro code other kind alike
    rw [decodedGuard, decodedGuard, fieldsDecide kind alike]

theorem brimmingDescriptor :
    let writes := [(kindField, 2), (descriptorField, 0xffffffff), (flavorField, 0x3fffffff)]
    let order := [(flavorField, 0x3fffffff), (kindField, 2), (descriptorField, 0xffffffff)]
    let packed := layout.editAll 0xffffffffffffffff
      (order.map fun write => .direct write.1 write.2)
    Stands 9 writes (.descriptor (-1) ⟨0x1fffffff⟩ 9) ∧ order.Perm writes ∧
      Decoder.host.decode? ⟨.guardViolation, some packed.toInt64, some 9⟩ =
        some (.guardViolation (.descriptor (-1) ⟨0x1fffffff⟩ 9)) := by
  intro writes order packed
  have stands : Stands 9 writes (.descriptor (-1) ⟨0x1fffffff⟩ 9) := .descriptor
  have shuffled : order.Perm writes := by decide
  exact ⟨stands, shuffled, (layoutExact .host 9).1 writes _ stands order shuffled _⟩

end Guard
end FaultWatch
