import FaultWatch.Proofs.Field

/-! Edits of one word, one after another. Fields may overlap and names may repeat, so a bit of the
word is what the last edit that covers it put there, and the bit that was there before if no edit
covers it. An edit by a name that the layout does not have is refused and covers nothing. The main
statement is `lastWriteWins`. -/
namespace FaultWatch

def Edit.write? (layout : Layout) : Edit → Option (Field × UInt64)
  | .named name value => (layout.fields.find? (·.name == name)).map fun f => (f, value)
  | .direct f value => some (f, value)

def Field.covers (f : Field) (bit : Nat) : Bool := f.lsb ≤ bit && bit ≤ f.msb

def Layout.lastWrite? (layout : Layout) (edits : List Edit) (bit : Nat) : Option (Field × UInt64) :=
  (edits.filterMap (Edit.write? layout)).reverse.find? (·.1.covers bit)

/-- No computation on a field leaves its range: a width has eight bits, a shift moves by less than a
word, and the mask at its place is still within one. -/
structure Field.InRange (f : Field) : Prop where
  ordered : f.lsb ≤ f.msb
  width : f.msb - f.lsb + 1 < UInt8.size
  shift : f.lsb < wordBits
  maskShift : f.width < wordBits ∨ f.mask = 0xffffffffffffffff
  mask : f.mask.toNat = (1 <<< f.width) - 1
  placed : f.mask.toNat <<< f.lsb < UInt64.size

variable {f : Field} {name : String} {lsb msb bit : Nat} {word value : UInt64}

theorem Field.makeOk (made : Field.make name lsb msb = .ok f) :
    f.name = name ∧ f.lsb = lsb ∧ f.msb = msb := by
  unfold make at made
  split at made <;> try contradiction
  split at made <;> try contradiction
  cases made
  exact ⟨rfl, rfl, rfl⟩

theorem Field.inRange (f : Field) : f.InRange where
  ordered := f.ordered
  width := by
    have fits : f.msb < 64 := f.fits
    simp only [UInt8.size]
    omega
  shift := f.lsbSmall
  maskShift := by
    unfold Field.mask
    split
    · exact .inr rfl
    · next narrow => exact .inl (Nat.lt_of_not_le narrow)
  mask := f.maskNat
  placed := by
    have fits : f.msb < 64 := f.fits
    have span := f.widthSpan
    have below : f.mask.toNat < 1 <<< f.width := by
      have positive := Nat.two_pow_pos f.width
      rw [maskNat, Nat.one_shiftLeft]
      omega
    calc f.mask.toNat <<< f.lsb < (1 <<< f.width) <<< f.lsb := by
          rw [Nat.shiftLeft_eq, Nat.shiftLeft_eq _ f.lsb]
          exact Nat.mul_lt_mul_of_pos_right below (Nat.two_pow_pos _)
      _ = 1 <<< (f.msb + 1) := by rw [← Nat.shiftLeft_add, Nat.add_comm f.width, span]
      _ ≤ UInt64.size := by
          rw [Nat.one_shiftLeft]
          exact Nat.pow_le_pow_right (by decide) fits

namespace Layout

variable {layout : Layout} {e : Edit} {edits : List Edit} {before after : List Field}

theorem editWrites :
    layout.edit word e =
      match e.write? layout with
      | some (f, value) => f.insert word value
      | none => word := by
  cases e with
  | direct => rfl
  | named name value =>
    rw [edit, Edit.apply, setNamed, lookup, Edit.write?]
    cases layout.fields.find? (·.name == name) <;> rfl

theorem editBit :
    (layout.edit word e).toBitVec.getLsbD bit =
      match (e.write? layout).filter (·.1.covers bit) with
      | some (f, value) => value.toBitVec.getLsbD (bit - f.lsb)
      | none => word.toBitVec.getLsbD bit := by
  rw [editWrites]
  cases e.write? layout with
  | none => rfl
  | some write =>
    obtain ⟨f, value⟩ := write
    simp only [Field.writtenBit, Option.filter_some, Field.covers, Bool.and_eq_true,
      decide_eq_true_eq]
    split <;> rfl

theorem lastWriteCons :
    layout.lastWrite? (e :: edits) bit =
      (layout.lastWrite? edits bit).or ((e.write? layout).filter (·.1.covers bit)) := by
  rw [lastWrite?, lastWrite?, List.filterMap_cons]
  cases e.write? layout with
  | none => simp
  | some write =>
    simp [List.find?_append, List.find?_singleton, Option.filter_some]

theorem editAllBit :
    (layout.editAll word edits).toBitVec.getLsbD bit =
      match layout.lastWrite? edits bit with
      | some (f, value) => value.toBitVec.getLsbD (bit - f.lsb)
      | none => word.toBitVec.getLsbD bit := by
  induction edits generalizing word with
  | nil => rfl
  | cons e rest ih =>
    change (layout.editAll (layout.edit word e) rest).toBitVec.getLsbD bit = _
    rw [ih, lastWriteCons]
    cases layout.lastWrite? rest bit with
    | some later => rfl
    | none => rw [Option.none_or, ← editBit]

theorem editAllSnoc :
    layout.editAll word (edits ++ [e]) = layout.edit (layout.editAll word edits) e := by
  rw [editAll, List.foldl_append]
  rfl

theorem lookupUnknown (unknown : ∀ f ∈ layout.fields, f.name ≠ name) :
    layout.lookup name = .error ⟨layout.name, name⟩ := by
  have none : layout.fields.find? (·.name == name) = none := by simpa using unknown
  rw [lookup, none]

theorem lookupFirst (split : layout.fields = before ++ f :: after)
    (first : ∀ g ∈ before, g.name ≠ f.name) : layout.lookup f.name = .ok f := by
  have found : layout.fields.find? (·.name == f.name) = some f := by
    have skipped : before.find? (·.name == f.name) = none := by simpa using first
    rw [split, List.find?_append, skipped]
    simp
  rw [lookup, found]

theorem lastWriteWins (layout : Layout) (word : UInt64) (edits : List Edit) :
    (∀ bit, (layout.editAll word edits).toBitVec.getLsbD bit =
      match layout.lastWrite? edits bit with
      | some (f, value) => value.toBitVec.getLsbD (bit - f.lsb)
      | none => word.toBitVec.getLsbD bit) ∧
    (∀ name value, (∀ f ∈ layout.fields, f.name ≠ name) →
      let packed := layout.editAll word edits
      (Edit.named name value).apply layout packed = .error ⟨layout.name, name⟩ ∧
        layout.getNamed name packed = .error ⟨layout.name, name⟩ ∧
        layout.editAll word (edits ++ [.named name value]) = packed) ∧
    (∀ before f after, layout.fields = before ++ f :: after →
      (∀ g ∈ before, g.name ≠ f.name) →
      let packed := layout.editAll word edits
      (∀ value, (Edit.named f.name value).apply layout packed = .ok (f.insert packed value)) ∧
        (∃ read, layout.getNamed f.name packed = .ok read ∧
          read.toNat = packed.toNat >>> f.lsb % (1 <<< f.width)) ∧
        ∀ value, ∃ read,
          layout.getNamed f.name (layout.editAll word (edits ++ [.named f.name value])) = .ok read ∧
            read.toNat = value.toNat % (1 <<< f.width)) ∧
    (∀ (f : Field) (value : UInt64),
      (f.extract (layout.editAll word (edits ++ [.direct f value]))).toNat =
        value.toNat % (1 <<< f.width)) ∧
    (∀ name lsb msb f, Field.make name lsb msb = .ok f →
      f.name = name ∧ f.lsb = lsb ∧ f.msb = msb ∧ f.InRange) := by
  refine ⟨fun bit => editAllBit, ?_, ?_, ?_, ?_⟩
  · intro name value unknown packed
    have refused := lookupUnknown unknown
    have unwritten : (Edit.named name value).apply layout packed = .error ⟨layout.name, name⟩ := by
      rw [Edit.apply, setNamed, refused]
      rfl
    refine ⟨unwritten, ?_, ?_⟩
    · rw [getNamed, refused]
      rfl
    · rw [editAllSnoc, edit, unwritten]
  · intro before f after split first packed
    have found := lookupFirst split first
    have written : ∀ value, (Edit.named f.name value).apply layout packed =
        .ok (f.insert packed value) := by
      intro value
      rw [Edit.apply, setNamed, found]
      rfl
    refine ⟨written, ⟨f.extract packed, by rw [getNamed, found]; rfl, Field.readNat⟩, ?_⟩
    intro value
    refine ⟨f.extract (f.insert packed value), ?_, ?_⟩
    · rw [editAllSnoc, edit, written, getNamed, found]
      rfl
    · rw [Field.readWritten, Field.keptNat]
  · intro f value
    rw [editAllSnoc]
    change (f.extract (f.insert _ value)).toNat = _
    rw [Field.readWritten, Field.keptNat]
  · intro name lsb msb f made
    obtain ⟨named, low, high⟩ := Field.makeOk made
    exact ⟨named, low, high, f.inRange⟩

theorem mixedEdits :
    let low : Field := { name := "a", lsb := 0, msb := 3 }
    let wide : Field := { name := "wide", lsb := 2, msb := 9 }
    let again : Field := { name := "a", lsb := 8, msb := 11 }
    let whole : Field := { name := "whole", lsb := 0, msb := 63 }
    let mixed : Layout := ⟨"mixed", [low, wide, again, whole]⟩
    let edits : List Edit :=
      [.named "whole" 0x123400, .direct wide 0x3ff, .named "a" 0x10, .named "b" 0xffff]
    let packed := mixed.editAll 0xffffffffffffffff edits
    (∀ f ∈ mixed.fields, f.name ≠ "b") ∧ mixed.fields = [low] ++ wide :: [again, whole] ∧
      (∀ g ∈ [low], g.name ≠ wide.name) ∧ Field.make "whole" 0 63 = .ok whole ∧
      packed = 0x1237f0 ∧ packed.toBitVec.getLsbD 3 = false ∧ packed.toBitVec.getLsbD 4 = true ∧
      mixed.getNamed "b" packed = .error ⟨"mixed", "b"⟩ ∧
      (∃ read, mixed.getNamed wide.name packed = .ok read ∧
        read.toNat = packed.toNat >>> wide.lsb % (1 <<< wide.width)) ∧
      whole.InRange := by
  intro low wide again whole mixed edits packed
  obtain ⟨bits, unknown, known, _, range⟩ := lastWriteWins mixed 0xffffffffffffffff edits
  have absent : ∀ f ∈ mixed.fields, f.name ≠ "b" := by decide
  have first : ∀ g ∈ [low], g.name ≠ wide.name := by decide
  have made : Field.make "whole" 0 63 = .ok whole := rfl
  exact ⟨absent, rfl, first, made, by decide, (bits 3).trans (by decide),
    (bits 4).trans (by decide), (unknown "b" 0 absent).2.1, (known [low] wide _ rfl first).2.1,
    (range _ _ _ _ made).2.2.2⟩

end Layout
end FaultWatch
