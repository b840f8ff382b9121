import FaultWatch.Decoder
import FaultWatch.Proofs.Field

/-! Crash words packed and unpacked. The three fields of a crash lie side by side in the low half of
the word, so packing loses just what is too large for its field, and unpacking just the upper half.
The main statement is `packedExact`. -/
namespace FaultWatch.Crash

def writes (info : Crash) : List (Field × UInt64) :=
  [(originalExceptionField, info.originalException.toUInt64),
    (originalCodeField, info.originalCode.toUInt64), (signalField, info.signal.toUInt64)]

def cut (info : Crash) : Crash :=
  { info with
    originalException := info.originalException % 16
    originalCode := info.originalCode % 0x100000 }

variable {info : Crash} {word other value : UInt64} {f : Field} {i : Nat}

theorem lowerBit :
    (word &&& 0xffffffff).toBitVec.getLsbD i = (word.toBitVec.getLsbD i && decide (i < 32)) := by
  have ones : (0xffffffff : UInt64).toBitVec = (BitVec.allOnes 32).setWidth 64 := rfl
  rw [UInt64.toBitVec_and, ones, BitVec.getLsbD_and, BitVec.getLsbD_setWidth,
    BitVec.getLsbD_allOnes, ← Bool.decide_and]
  have inside : (i < 64 ∧ i < 32) ↔ i < 32 := by omega
  rw [decide_eq_decide.mpr inside]

theorem lowerRead (low : f.msb < 32) : f.extract (word &&& 0xffffffff) = f.extract word := by
  apply Field.readSame
  intro i _ _ inside
  have below : i < 32 := by omega
  rw [lowerBit, decide_eq_true below, Bool.and_true]

theorem upperGone (high : 32 ≤ f.lsb) : f.extract (word &&& 0xffffffff) = 0 := by
  apply Field.sameBits
  intro i _
  have above : ¬ f.lsb + i < 32 := by omega
  rw [Field.readBit, lowerBit, decide_eq_false above, Bool.and_false, Bool.and_false]
  simp

theorem writesApart : Field.Apart info.writes := by
  simp [Field.Apart, writes]
  decide

theorem packedWrites : info.toWord = Field.writeAll 0 info.writes := rfl

theorem packedRead (member : (f, value) ∈ info.writes) :
    f.extract info.toWord = value &&& f.mask := by
  rw [packedWrites]
  exact Field.readAll writesApart member

theorem upperUnwritten (high : 32 ≤ f.lsb) : f.extract info.toWord = 0 := by
  have low : ∀ write ∈ info.writes, write.1.msb < 32 := by
    simp [writes]
    decide
  have elsewhere : ∀ write ∈ info.writes, f.overlaps write.1 = false := by
    intro write member
    have inside := low write member
    have below : ¬ f.lsb ≤ write.1.msb := by omega
    rw [Field.overlaps, decide_eq_false below, Bool.false_and]
  rw [packedWrites, Field.readUntouched elsewhere]
  simp [Field.extract]

theorem byteKept {byte : UInt8} (member : (f, byte.toUInt64) ∈ info.writes) :
    (f.extract info.toWord).toUInt8.toNat = byte.toNat % (1 <<< f.width) % 256 := by
  rw [packedRead member, UInt64.toNat_toUInt8, Field.keptNat, UInt8.toNat_toUInt64]

theorem exceptionKept :
    (originalExceptionField.extract info.toWord).toUInt8 = info.originalException % 16 := by
  apply UInt8.toNat_inj.mp
  rw [@byteKept info originalExceptionField info.originalException (by simp [writes]),
    UInt8.toNat_mod]
  change info.originalException.toNat % 16 % 256 = info.originalException.toNat % 16
  omega

theorem codeKept :
    (originalCodeField.extract info.toWord).toUInt32 = info.originalCode % 0x100000 := by
  have read := @packedRead info info.originalCode.toUInt64 originalCodeField (by simp [writes])
  apply UInt32.toNat_inj.mp
  rw [read, UInt64.toNat_toUInt32, Field.keptNat, UInt32.toNat_mod]
  change info.originalCode.toNat % 0x100000 % 0x100000000 = info.originalCode.toNat % 0x100000
  omega

theorem signalKept : (signalField.extract info.toWord).toUInt8 = info.signal := by
  have small := info.signal.toNat_lt
  apply UInt8.toNat_inj.mp
  rw [@byteKept info signalField info.signal (by simp [writes])]
  change info.signal.toNat % 256 % 256 = info.signal.toNat
  omega

theorem unpackedPacked : ofWord info.toWord = info.cut := by
  rw [ofWord, exceptionKept, codeKept, signalKept, cut]

theorem cutFits : info.cut = info ↔ info.originalException < 16 ∧ info.originalCode < 0x100000 := by
  obtain ⟨exception, code, signal⟩ := info
  have exceptionFits : exception % 16 = exception ↔ exception < 16 := by
    rw [← UInt8.toNat_inj, UInt8.toNat_mod, UInt8.lt_iff_toNat_lt]
    exact Nat.mod_eq_iff_lt (by decide)
  have codeFits : code % 0x100000 = code ↔ code < 0x100000 := by
    rw [← UInt32.toNat_inj, UInt32.toNat_mod, UInt32.lt_iff_toNat_lt]
    exact Nat.mod_eq_iff_lt (by decide)
  simp only [cut, Crash.mk.injEq, and_true, exceptionFits, codeFits]

theorem repackedRead (member : (f, value) ∈ (ofWord word).writes) (own : value = f.extract word)
    (low : f.msb < 32) :
    f.extract (ofWord word).toWord = f.extract (word &&& 0xffffffff) := by
  rw [packedRead member, own, Field.keptRead, lowerRead low]

theorem fieldsCover : ∃ upper : Field, 32 ≤ upper.lsb ∧
    ∀ i < 64, ∃ f ∈ [originalCodeField, originalExceptionField, signalField, upper],
      f.lsb ≤ i ∧ i ≤ f.msb :=
  ⟨{ name := "upper half", lsb := 32, msb := 63 }, by decide, by decide⟩

theorem repacked : (ofWord word).toWord = word &&& 0xffffffff := by
  obtain ⟨upper, high, covered⟩ := fieldsCover
  have exception : (originalExceptionField.extract word).toUInt8.toUInt64 = _ :=
    Field.byteRead (by decide)
  have code : (originalCodeField.extract word).toUInt32.toUInt64 = _ := Field.halfRead (by decide)
  have signal : (signalField.extract word).toUInt8.toUInt64 = _ := Field.byteRead (by decide)
  apply Field.sameFields covered
  simp only [List.forall_mem_cons]
  exact ⟨repackedRead (by simp [writes, ofWord]) code (by decide),
    repackedRead (by simp [writes, ofWord]) exception (by decide),
    repackedRead (by simp [writes, ofWord]) signal (by decide),
    (upperUnwritten high).trans (upperGone high).symm, by simp⟩

theorem unpackedLower : ofWord (word &&& 0xffffffff) = ofWord word := by
  have low : originalExceptionField.msb < 32 ∧ originalCodeField.msb < 32 ∧
      signalField.msb < 32 := by
    decide
  rw [ofWord, lowerRead low.1, lowerRead low.2.1, lowerRead low.2.2, ofWord]

theorem unpackedSame :
    ofWord word = ofWord other ↔ word &&& 0xffffffff = other &&& 0xffffffff := by
  constructor
  · intro same
    rw [← repacked, same, repacked]
  · intro same
    rw [← unpackedLower, same, unpackedLower]

theorem decodedCrash {decoder : Decoder} {code subcode : Int64} :
    decoder.decode? ⟨.crash, some code, some subcode⟩ = some (.crash (ofWord code.toUInt64)) := rfl

theorem packedExact :
    (∀ info : Crash, ofWord info.toWord = info.cut) ∧
    (∀ info : Crash, ofWord info.toWord = info ↔
      info.originalException < 16 ∧ info.originalCode < 0x100000) ∧
    (∀ word, (ofWord word).toWord = word &&& 0xffffffff) ∧
    (∀ (decoder : Decoder) (code subcode : Int64), ∃ info,
      decoder.decode? ⟨.crash, some code, some subcode⟩ = some (.crash info) ∧
        ∀ another, decoder.decode? ⟨.crash, some info.toWord.toInt64, some another⟩ =
          some (.crash info)) ∧
    ∀ (decoder : Decoder) (code other subcode another : Int64),
      decoder.decode? ⟨.crash, some code, some subcode⟩ =
          decoder.decode? ⟨.crash, some other, some another⟩ ↔
        code.toUInt64 &&& 0xffffffff = other.toUInt64 &&& 0xffffffff := by
  refine ⟨fun _ => unpackedPacked, ?_, fun _ => repacked, ?_, ?_⟩
  · intro info
    rw [unpackedPacked, cutFits]
  · intro decoder code subcode
    refine ⟨_, decodedCrash, fun another => ?_⟩
    rw [decodedCrash, UInt64.toUInt64_toInt64, repacked, unpackedLower]
  · intro decoder code other subcode another
    rw [decodedCrash, decodedCrash, Option.some.injEq, Diagnosis.crash.injEq, unpackedSame]

end FaultWatch.Crash
