import FaultWatch.Json.Read
import FaultWatch.Proofs.Json.Text
import FaultWatch.Proofs.Slots

/-! Typed values read back from JSON. A number is read back in any width that holds it, and a
bare name by the value that it belongs to. A writer is `Faithful` to a reader when what it writes is
read back, in the value and so in the text too. -/
namespace FaultWatch.Json

structure Faithful (write : α → Json) (read : Json → Option α) : Prop where
  whole : ∀ value, (write value).Whole
  read : ∀ value, read (write value) = some value

theorem Faithful.text {write : α → Json} {read : Json → Option α} (faithful : Faithful write read)
    (value : α) : (parse? (write value).text).bind read = some value := by
  rw [textRead (faithful.whole value)]
  exact faithful.read value

variable {j : Json} {read : Json → Option α} {value : α}

-- Stated with its premise: as an equation it would have the kernel compute the readers of numbers.
theorem requiredRead (back : read j = some value) : required read (some j) = some value := back

theorem defaultRead {default : α} (back : read j = some value) :
    withDefault default read (some j) = some value := back

theorem betweenRead {low high n : Int} (inside : low ≤ n ∧ n < high) :
    (number n).numberBetween? low high = some n :=
  if_pos inside

theorem uint8Read (w : UInt8) : (number w.toNat).uint8? = some w := by
  have small := w.toNat_lt
  rw [uint8?, betweenRead (by simp only [UInt8.size]; omega)]
  simp

theorem uint16Read (w : UInt16) : (number w.toNat).uint16? = some w := by
  have small := w.toNat_lt
  rw [uint16?, betweenRead (by simp only [UInt16.size]; omega)]
  simp

theorem uint32Read (w : UInt32) : (number w.toNat).uint32? = some w := by
  have small := w.toNat_lt
  rw [uint32?, betweenRead (by simp only [UInt32.size]; omega)]
  simp

theorem uint64Read (w : UInt64) : (number w.toNat).uint64? = some w := by
  have small := w.toNat_lt
  rw [uint64?, betweenRead (by simp only [UInt64.size]; omega)]
  simp

theorem int32Read (w : Int32) : (number w.toInt).int32? = some w := by
  have low := w.le_toInt
  have high := w.toInt_lt
  rw [int32?, betweenRead (by omega)]
  simp

theorem int64Read (w : Int64) : (number w.toInt).int64? = some w := by
  have low := w.le_toInt
  have high := w.toInt_lt
  rw [int64?, betweenRead (by omega)]
  simp

theorem namedRead {α : Type} {values : List α} {name : α → String} {value : α}
    (listed : value ∈ values) (own : ∀ other ∈ values, name other = name value → other = value) :
    (string (name value)).named? values name = some value :=
  Slots.keyed listed own

theorem titleSame {α : Type} {values : List α} {title : α → String} {a b : α}
    (named : ∀ value, (string (title value)).named? values title = some value) :
    title a = title b ↔ a = b := by
  refine ⟨fun same => ?_, fun same => by rw [same]⟩
  have read := named a
  rw [same, named b] at read
  exact (Option.some.inj read).symm

theorem optionalRead {write : α → Json} (present : ∀ value, write value ≠ null)
    (back : ∀ value, read (write value) = some value) (value : Option α) :
    optional read (some (ofOption write value)) = some value := by
  cases value with
  | none => rfl
  | some value =>
    have there := present value
    rw [ofOption, optional]
    · rw [back]
      rfl
    · exact there

end FaultWatch.Json
