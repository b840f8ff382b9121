import FaultWatch.Field.Layout

/-! Fields bit by bit. Reading brings the bits of a field down to the low end; writing puts the low
bits of a value in their place and keeps every other bit. So a field reads back what was last
written to it, cut to its width, and a write elsewhere leaves it alone. The main statement is
`readAll`: once fields that share no bit have been written, in whatever order, each holds its own
value. -/
namespace FaultWatch.Field

variable {f g : Field} {word other value : UInt64} {i : Nat} {writes order : List (Field × UInt64)}

theorem lsbSmall : f.lsb < 64 := Nat.lt_of_le_of_lt f.ordered f.fits

theorem widthSpan : f.lsb + f.width = f.msb + 1 := by
  have ordered := f.ordered
  simp only [width]
  omega

theorem widthFits : f.width ≤ 64 := by
  have fits : f.msb < 64 := f.fits
  have span := f.widthSpan
  omega

theorem maskNat : f.mask.toNat = (1 <<< f.width) - 1 := by
  have fits := f.widthFits
  unfold mask
  split
  · next full =>
    have whole : f.width = 64 := Nat.le_antisymm fits full
    rw [whole]
    rfl
  · next narrow =>
    have small : f.width < 64 := Nat.lt_of_not_le narrow
    have power : (1 <<< UInt64.ofNat f.width).toNat = 1 <<< f.width := by
      have below : 1 <<< f.width < UInt64.size := by
        rw [Nat.one_shiftLeft]
        exact Nat.pow_lt_pow_right (by decide) small
      rw [UInt64.toNat_shiftLeft, UInt64.toNat_ofNat',
        Nat.mod_eq_of_lt (Nat.lt_trans small (by decide)), Nat.mod_eq_of_lt small]
      exact Nat.mod_eq_of_lt below
    rw [UInt64.toNat_sub_of_le, power]
    · rfl
    · rw [UInt64.le_iff_toNat_le, power, Nat.one_shiftLeft]
      exact Nat.one_le_two_pow

theorem maskBit : f.mask.toBitVec.getLsbD i = decide (i < f.width) := by
  rw [← BitVec.testBit_toNat]
  change f.mask.toNat.testBit i = _
  rw [maskNat, Nat.one_shiftLeft, Nat.testBit_two_pow_sub_one]

theorem shiftAmount : ((UInt64.ofNat f.lsb).toBitVec % 64).toNat = f.lsb := by
  have small := f.lsbSmall
  simp
  omega

theorem readBit :
    (f.extract word).toBitVec.getLsbD i =
      (decide (i < f.width) && word.toBitVec.getLsbD (f.lsb + i)) := by
  rw [extract, UInt64.toBitVec_and, UInt64.toBitVec_shiftRight, BitVec.getLsbD_and, maskBit,
    BitVec.ushiftRight_eq', shiftAmount, BitVec.getLsbD_ushiftRight, Bool.and_comm]

theorem placedBit :
    (value <<< UInt64.ofNat f.lsb).toBitVec.getLsbD i =
      (decide (i < 64) && decide (f.lsb ≤ i) && value.toBitVec.getLsbD (i - f.lsb)) := by
  rw [UInt64.toBitVec_shiftLeft, BitVec.shiftLeft_eq', shiftAmount, BitVec.getLsbD_shiftLeft]
  by_cases low : f.lsb ≤ i
  · simp [low, Nat.not_lt_of_le low]
  · simp [low, Nat.lt_of_not_le low]

theorem writtenBit :
    (f.insert word value).toBitVec.getLsbD i =
      if f.lsb ≤ i ∧ i ≤ f.msb then value.toBitVec.getLsbD (i - f.lsb)
      else word.toBitVec.getLsbD i := by
  have fits : f.msb < 64 := f.fits
  have span := f.widthSpan
  rw [insert, UInt64.toBitVec_or, BitVec.getLsbD_or, UInt64.toBitVec_and, BitVec.getLsbD_and,
    UInt64.toBitVec_not, BitVec.getLsbD_not, placedBit, placedBit, maskBit, UInt64.toBitVec_and,
    BitVec.getLsbD_and, maskBit]
  by_cases low : f.lsb ≤ i
  · by_cases high : i ≤ f.msb
    · have narrow : i - f.lsb < f.width := by omega
      have small : i < 64 := by omega
      simp [low, high, narrow, small]
    · have wide : ¬ i - f.lsb < f.width := by omega
      by_cases small : i < 64
      · simp [low, high, wide, small]
      · simp [low, high, wide, BitVec.getLsbD_of_ge _ _ (Nat.le_of_not_lt small)]
  · have small : i < 64 := by omega
    simp [low, small]

theorem sameBits (alike : ∀ i < 64, word.toBitVec.getLsbD i = other.toBitVec.getLsbD i) :
    word = other :=
  UInt64.toBitVec_inj.mp (BitVec.eq_of_getLsbD_eq alike)

theorem readSame
    (alike : ∀ i < 64, f.lsb ≤ i → i ≤ f.msb →
      other.toBitVec.getLsbD i = word.toBitVec.getLsbD i) :
    f.extract other = f.extract word := by
  have fits : f.msb < 64 := f.fits
  have span := f.widthSpan
  apply sameBits
  intro i _
  rw [readBit, readBit]
  by_cases narrow : i < f.width
  · rw [alike (f.lsb + i) (by omega) (by omega) (by omega)]
  · simp [narrow]

theorem readWritten : f.extract (f.insert word value) = value &&& f.mask := by
  have span := f.widthSpan
  apply sameBits
  intro i _
  rw [readBit, writtenBit, UInt64.toBitVec_and, BitVec.getLsbD_and, maskBit]
  by_cases narrow : i < f.width
  · have inside : f.lsb ≤ f.lsb + i ∧ f.lsb + i ≤ f.msb := by omega
    simp [narrow, inside]
  · simp [narrow]

theorem readApart (apart : f.overlaps g = false) :
    f.extract (g.insert word value) = f.extract word := by
  have span := f.widthSpan
  have disjoint : ¬ (f.lsb ≤ g.msb ∧ g.lsb ≤ f.msb) := by simpa [overlaps] using apart
  apply sameBits
  intro i _
  rw [readBit, readBit, writtenBit]
  by_cases narrow : i < f.width
  · have outside : ¬ (g.lsb ≤ f.lsb + i ∧ f.lsb + i ≤ g.msb) := by omega
    simp [outside]
  · simp [narrow]

theorem readNat : (f.extract word).toNat = word.toNat >>> f.lsb % (1 <<< f.width) := by
  apply Nat.eq_of_testBit_eq
  intro i
  have bit : (f.extract word).toNat.testBit i = (f.extract word).toBitVec.getLsbD i :=
    BitVec.testBit_toNat _
  rw [bit, readBit, Nat.one_shiftLeft, Nat.testBit_mod_two_pow, Nat.testBit_shiftRight]
  rfl

theorem keptNat : (value &&& f.mask).toNat = value.toNat % (1 <<< f.width) := by
  rw [UInt64.toNat_and, maskNat, Nat.one_shiftLeft, Nat.and_two_pow_sub_one_eq_mod]

theorem keptRem {bound : UInt64} (size : bound.toNat = 1 <<< f.width) :
    value &&& f.mask = value % bound := by
  apply UInt64.toNat_inj.mp
  rw [keptNat, UInt64.toNat_mod, size]

theorem keptRead : f.extract word &&& f.mask = f.extract word := by
  apply UInt64.toNat_inj.mp
  rw [keptNat, readNat]
  exact Nat.mod_mod _ _

theorem readFits {bits : Nat} (narrow : f.width ≤ bits) : (f.extract word).toNat < 1 <<< bits := by
  rw [readNat, Nat.one_shiftLeft, Nat.one_shiftLeft]
  have below := Nat.mod_lt (word.toNat >>> f.lsb) (Nat.two_pow_pos f.width)
  exact Nat.lt_of_lt_of_le below (Nat.pow_le_pow_right (by decide) narrow)

theorem halfRead (half : f.width ≤ 32) : (f.extract word).toUInt32.toUInt64 = f.extract word := by
  apply UInt64.toNat_inj.mp
  rw [UInt32.toNat_toUInt64, UInt64.toNat_toUInt32]
  exact Nat.mod_eq_of_lt (readFits half)

theorem byteRead (byte : f.width ≤ 8) : (f.extract word).toUInt8.toUInt64 = f.extract word := by
  apply UInt64.toNat_inj.mp
  rw [UInt8.toNat_toUInt64, UInt64.toNat_toUInt8]
  exact Nat.mod_eq_of_lt (readFits byte)

theorem sameFields {fields : List Field}
    (covered : ∀ i < 64, ∃ f ∈ fields, f.lsb ≤ i ∧ i ≤ f.msb)
    (alike : ∀ f ∈ fields, f.extract word = f.extract other) : word = other := by
  apply sameBits
  intro i small
  obtain ⟨f, member, low, high⟩ := covered i small
  have span := f.widthSpan
  have bit := congrArg (fun word : UInt64 => word.toBitVec.getLsbD (i - f.lsb)) (alike f member)
  have narrow : i - f.lsb < f.width := by omega
  have place : f.lsb + (i - f.lsb) = i := by omega
  simpa [readBit, narrow, place] using bit

/-! Several writes, one after another. -/

def writeAll (word : UInt64) (writes : List (Field × UInt64)) : UInt64 :=
  writes.foldl (fun word write => write.1.insert word write.2) word

def Apart (writes : List (Field × UInt64)) : Prop :=
  writes.Pairwise fun first second => first.1.overlaps second.1 = false

theorem overlapsComm : f.overlaps g = g.overlaps f := by
  simp [overlaps, Bool.and_comm]

theorem apartPerm (shuffled : order.Perm writes) : Apart order ↔ Apart writes :=
  shuffled.pairwise_iff fun apart => overlapsComm.trans apart

theorem readUntouched (apart : ∀ write ∈ writes, f.overlaps write.1 = false) :
    f.extract (writeAll word writes) = f.extract word := by
  induction writes generalizing word with
  | nil => rfl
  | cons write rest ih =>
    have later : ∀ write ∈ rest, f.overlaps write.1 = false := fun other member =>
      apart other (List.mem_cons_of_mem _ member)
    change f.extract (writeAll (write.1.insert word write.2) rest) = f.extract word
    rw [ih later, readApart (apart write (by simp))]

theorem readAll (apart : Apart writes) (member : (f, value) ∈ writes) :
    f.extract (writeAll word writes) = value &&& f.mask := by
  induction writes generalizing word with
  | nil => contradiction
  | cons write rest ih =>
    obtain ⟨here, later⟩ := List.pairwise_cons.mp apart
    rcases List.mem_cons.mp member with rfl | there
    · exact (readUntouched here).trans readWritten
    · exact ih later there

theorem rebuilt (apart : Apart writes)
    (covered : ∀ i < 64, ∃ f ∈ writes.map Prod.fst, f.lsb ≤ i ∧ i ≤ f.msb)
    (told : ∀ write ∈ writes, write.2 &&& write.1.mask = write.1.extract word) :
    writeAll other writes = word := by
  refine sameFields covered fun f member => ?_
  obtain ⟨write, there, rfl⟩ := List.mem_map.mp member
  exact (readAll apart there).trans (told write there)

theorem editAllDirect (layout : Layout) :
    layout.editAll word (writes.map fun write => .direct write.1 write.2) =
      writeAll word writes := by
  rw [Layout.editAll, List.foldl_map]
  rfl

end FaultWatch.Field
