import FaultWatch.Input.Batch
import FaultWatch.Proofs.Text.Numeral
import FaultWatch.Proofs.Text.Split

/-! Written words read back. A category may be written by its name or its number, a code word by its
decimal text or as faults are shown, an absent one as `none` in any case too. None of these texts
holds a separator or the comment mark. The main statements are `categoryRead` and `codeRead`. -/
namespace FaultWatch.Input

inductive CategoryText (category : Category) : List Char → Prop
  | name : CategoryText category category.name.toList
  | number : CategoryText category (Text.decimal category.number)

inductive CodeText : Option Int64 → List Char → Prop
  | decimal (word : Int64) : CodeText (some word) (Text.signedDecimal word.toInt)
  | shown (word : Option Int64) : CodeText word (Fault.wordText word)
  | named {text : List Char} (anyCase : text.map Char.toLower = "none".toList) : CodeText none text

def delimits (c : Char) : Bool := separates c || c == '#'

structure Solid (text : List Char) : Prop where
  nonempty : text ≠ []
  plain : ∀ c ∈ text, delimits c = false

-- By the list: with `Char` finite, a quantifier would be decided by trying every character.
instance (text : List Char) : Decidable (Solid text) :=
  decidable_of_iff (text ≠ [] ∧ text.any delimits = false)
    ⟨fun both => ⟨both.1, by simpa using both.2⟩,
      fun solid => ⟨solid.nonempty, by simpa using solid.plain⟩⟩

variable {c : Char} {n : Nat} {text : List Char} {word : Int64} {held : Option Int64}
  {category : Category}

theorem Solid.unblank (solid : Solid text) : Text.trim text = text := by
  apply Text.trimUnblank
  intro c member
  have plain := solid.plain c member
  simp only [delimits, separates, Bool.or_eq_false_iff] at plain
  exact plain.1.1

theorem digitsSolid {base : Nat} (readable : Text.Readable base) : Solid (Nat.toDigits base n) :=
  ⟨Nat.toDigits_ne_nil, Text.digitsPlain readable (by decide)⟩

theorem Solid.after (solid : Solid text) (plain : delimits c = false) : Solid (c :: text) := by
  refine ⟨by simp, ?_⟩
  intro d member
  rcases List.mem_cons.mp member with rfl | rest
  · exact plain
  · exact solid.plain d rest

theorem smallKept (small : c.isUpper = false) : c.toLower = c :=
  dif_neg (decide_eq_false_iff_not.mp small)

theorem delimiterSmall (delimiter : delimits c = true) : c.isUpper = false := by
  apply decide_eq_false
  rintro ⟨above, below⟩
  have low : 65 ≤ c.toNat := UInt32.le_iff_toNat_le.mp above
  have high : c.toNat ≤ 90 := UInt32.le_iff_toNat_le.mp below
  simp only [delimits, separates, Text.isBlank, Bool.or_eq_true, Bool.and_eq_true,
    decide_eq_true_eq, beq_iff_eq] at delimiter
  rcases delimiter with (blank | rfl) | rfl
  · omega
  · contradiction
  · contradiction

theorem namedSolid (anyCase : text.map Char.toLower = "none".toList) : Solid text := by
  have letters : Solid "none".toList := by decide
  refine ⟨by rintro rfl; contradiction, ?_⟩
  intro c member
  rw [Bool.eq_false_iff]
  intro delimiter
  have kept : c.toLower = c := smallKept (delimiterSmall delimiter)
  have there : c ∈ "none".toList := by
    rw [← anyCase, ← kept]
    exact List.mem_map_of_mem member
  rw [letters.plain c there] at delimiter
  contradiction

theorem categoryRead (written : CategoryText category text) :
    Category.ofText? text = some category := by
  cases written <;> cases category <;> decide

theorem categorySolid (written : CategoryText category text) : Solid text := by
  cases written with
  | name => cases category <;> decide
  | number => exact digitsSolid Text.ten

theorem magnitudeDecimal (small : n < UInt64.size) : magnitude? (Text.decimal n) = some n := by
  have digits : ∀ c ∈ Text.decimal n, (c == 'x' || c == 'X') = false :=
    Text.digitsPlain Text.ten (by decide)
  unfold magnitude?
  split
  · next marked => simp [marked] at digits
  · next marked => simp [marked] at digits
  · exact Text.unsignedRead Text.ten small

theorem magnitudeHexadecimal (small : n < UInt64.size) :
    magnitude? (Text.hexadecimal n) = some n := by
  have digits : ∀ c ∈ Nat.toDigits 16 n, (c == '_') = false :=
    Text.digitsPlain Text.sixteen (by decide)
  have ungrouped : (Nat.toDigits 16 n).filter (· ≠ '_') = Nat.toDigits 16 n := by
    rw [List.filter_eq_self]
    simpa using digits
  rw [Text.hexadecimal, magnitude?, ungrouped]
  exact Text.unsignedRead Text.sixteen small

theorem wordDecimal (word : Int64) : word? (Text.signedDecimal word.toInt) = some word := by
  have top := word.toInt_lt
  have bottom := word.le_toInt
  have back := word.ofInt_toInt
  cases value : word.toInt with
  | ofNat n =>
    rw [value] at top back
    have small : n < UInt64.size := by
      simp only [Int.ofNat_eq_natCast, UInt64.size] at top ⊢
      omega
    rw [Text.signedDecimal]
    unfold word?
    split
    · next minus => exact absurd minus Text.decimalUnsigned
    · rw [magnitudeDecimal small, Option.map_some, UInt64.toInt64_ofNat', ← Int64.ofInt_eq_ofNat]
      exact congrArg some back
  | negSucc n =>
    rw [value] at bottom back
    have small : n + 1 ≤ 0x8000000000000000 := by omega
    have whole : n + 1 < UInt64.size := by
      simp only [UInt64.size]
      omega
    rw [Text.signedDecimal, word?, magnitudeDecimal whole, Option.filter_some,
      if_pos (by simpa using small)]
    exact congrArg some back

theorem wordHexadecimal (word : Int64) :
    word? (Text.hexadecimal word.toUInt64.toNat) = some word := by
  have small : word.toUInt64.toNat < UInt64.size := word.toUInt64.toNat_lt_size
  change (magnitude? (Text.hexadecimal word.toUInt64.toNat)).map
    (fun n => (UInt64.ofNat n).toInt64) = some word
  rw [magnitudeHexadecimal small, Option.map_some, UInt64.ofNat_toNat, Int64.toInt64_toUInt64]

theorem letterUnread (letter : c.toLower = 'n') : word? (c :: text) = none := by
  by_cases small : c.isUpper = false
  · rw [smallKept small] at letter
    subst letter
    rfl
  · have capital : c.val ≥ 'A'.val ∧ c.val ≤ 'Z'.val :=
      Decidable.of_not_not fun outside => small (decide_eq_false outside)
    have raised : c.val + 32 = 78 + 32 := congrArg Char.val ((dif_pos capital).symm.trans letter)
    have value : c.val = 'N'.val := UInt32.add_left_inj 32 |>.mp raised
    cases Char.ext value
    rfl

theorem absentUnread (absent : isAbsent text = true) : word? text = none := by
  simp only [isAbsent, Text.sameWord, Bool.or_eq_true, beq_iff_eq] at absent
  rcases absent with rfl | named
  · rfl
  · cases text with
    | nil => contradiction
    | cons c rest =>
      have heads := congrArg List.head? named
      have letter : 'n' = c.toLower := by simpa using heads
      exact letterUnread letter.symm

theorem codeOfWord (solid : Solid text) (read : word? text = some word) :
    code? text = some (some word) := by
  have present : isAbsent text = false := by
    rw [Bool.eq_false_iff]
    intro absent
    rw [absentUnread absent] at read
    contradiction
  rw [code?, solid.unblank, present, read]
  rfl

theorem codeSolid (written : CodeText held text) : Solid text := by
  cases written with
  | decimal word =>
    cases word.toInt with
    | ofNat n => exact digitsSolid Text.ten
    | negSucc n => exact (digitsSolid Text.ten).after (by decide)
  | shown =>
    cases held with
    | none => decide
    | some word =>
      exact ((digitsSolid Text.sixteen).after (by decide)).after (by decide)
  | named anyCase => exact namedSolid anyCase

theorem codeRead (written : CodeText held text) : code? text = some held := by
  have solid := codeSolid written
  cases written with
  | decimal word => exact codeOfWord solid (wordDecimal word)
  | shown =>
    cases held with
    | none => rfl
    | some word => exact codeOfWord solid (wordHexadecimal word)
  | named anyCase =>
    have absent : isAbsent text = true := by
      rw [isAbsent, Text.sameWord, anyCase]
      exact Bool.or_true _
    rw [code?, solid.unblank, absent]
    rfl

end FaultWatch.Input
