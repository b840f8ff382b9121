import FaultWatch.Proofs.Input.Word
import FaultWatch.Proofs.Text.Digits
import FaultWatch.Proofs.Text.Runs

/-! Which texts are code words, and which words they are. `CodeWord` is the grammar: a numeral below
2^64 is a bit pattern, one after a minus is a number down to -2^63; hexadecimal digits may be grouped
by underscores. What is typed is read by it, up to the blanks around, and whatever else is typed is
refused as it came. The main statement is `codeExact`. -/
namespace FaultWatch.Input

inductive Absent : List Char → Prop
  | hyphen : Absent ['-']
  | named {text : List Char} (anyCase : text.map Char.toLower = "none".toList) : Absent text

inductive Magnitude : List Char → Nat → Prop
  | hexadecimal {n : Nat} {mark : Char} {text : List Char} (either : mark = 'x' ∨ mark = 'X')
      (grouped : Text.Unsigned 16 (text.filter (· ≠ '_')) n) : Magnitude ('0' :: mark :: text) n
  | decimal {n : Nat} {text : List Char} (numeral : Text.Unsigned 10 text n) : Magnitude text n

inductive CodeWord : List Char → Int64 → Prop
  | pattern {n : Nat} {text : List Char} {word : Int64} (digits : Magnitude text n)
      (small : n < UInt64.size) (wrapped : word.toInt = (n : Int).bmod Int64.size) :
      CodeWord text word
  | negative {n : Nat} {text : List Char} {word : Int64} (digits : Magnitude text n)
      (small : n ≤ 0x8000000000000000) (value : word.toInt = -n) : CodeWord ('-' :: text) word

variable {n : Nat} {text : List Char} {word : Int64}

theorem absentExact : isAbsent text = true ↔ Absent text := by
  simp only [isAbsent, Text.sameWord, Bool.or_eq_true, beq_iff_eq]
  constructor
  · rintro (rfl | named)
    · exact .hyphen
    · exact .named named.symm
  · rintro (_ | named)
    · exact .inl rfl
    · exact .inr named.symm

theorem markUndecimal {mark : Char} (either : mark = 'x' ∨ mark = 'X') :
    ¬ Text.Unsigned 10 ('0' :: mark :: text) n := by
  intro numeral
  have there : mark ∈ '0' :: mark :: text := by simp
  rcases either with rfl | rfl
  · exact Text.unsignedLack Text.ten (by decide) (by decide) numeral there
  · exact Text.unsignedLack Text.ten (by decide) (by decide) numeral there

theorem hexadecimalExact {mark : Char} (either : mark = 'x' ∨ mark = 'X') :
    Text.unsigned? 16 UInt64.size (text.filter (· ≠ '_')) = some n ↔
      Magnitude ('0' :: mark :: text) n ∧ n < UInt64.size := by
  rw [Text.unsignedExact Text.sixteen]
  constructor
  · rintro ⟨numeral, small⟩
    exact ⟨.hexadecimal either numeral, small⟩
  · rintro ⟨⟨_, numeral⟩ | numeral, small⟩
    · exact ⟨numeral, small⟩
    · exact absurd numeral (markUndecimal either)

theorem magnitudeExact : magnitude? text = some n ↔ Magnitude text n ∧ n < UInt64.size := by
  unfold magnitude?
  split
  · exact hexadecimalExact (.inl rfl)
  · exact hexadecimalExact (.inr rfl)
  · next small capital =>
    rw [Text.unsignedExact Text.ten]
    constructor
    · rintro ⟨numeral, bounded⟩
      exact ⟨.decimal numeral, bounded⟩
    · rintro ⟨⟨rfl | rfl, _⟩ | numeral, bounded⟩
      · exact absurd rfl (small _)
      · exact absurd rfl (capital _)
      · exact ⟨numeral, bounded⟩

theorem minusUnsigned : ¬ Magnitude ('-' :: text) n := by
  rintro (_ | numeral)
  exact Text.unsignedLack Text.ten (by decide) (by decide) numeral List.mem_cons_self

theorem wordExact : word? text = some word ↔ CodeWord text word := by
  unfold word?
  split
  · next digits =>
    simp only [Option.map_eq_some_iff, bind, pure, Option.bind_eq_some_iff, Option.some.injEq,
      Option.filter_eq_some_iff, magnitudeExact, decide_eq_true_iff]
    constructor
    · rintro ⟨_, ⟨n, ⟨⟨magnitude, _⟩, small⟩, rfl⟩, rfl⟩
      exact .negative magnitude small (Int64.toInt_ofInt_of_le (by omega) (by omega))
    · rintro (⟨magnitude, _, _⟩ | @⟨n, _, _, magnitude, small, value⟩)
      · exact absurd magnitude minusUnsigned
      · have whole : n < UInt64.size := Nat.lt_of_le_of_lt small (by decide)
        exact ⟨n, ⟨n, ⟨⟨magnitude, whole⟩, small⟩, rfl⟩, by rw [← value, Int64.ofInt_toInt]⟩
  · next unsigned =>
    simp only [Option.map_eq_some_iff, magnitudeExact]
    constructor
    · rintro ⟨n, ⟨magnitude, small⟩, rfl⟩
      exact .pattern magnitude small (by rw [UInt64.toInt64_ofNat', Int64.toInt_ofNat'])
    · rintro (@⟨n, _, _, magnitude, small, wrapped⟩ | _)
      · refine ⟨n, ⟨magnitude, small⟩, ?_⟩
        rw [← Int64.toInt_inj, wrapped, UInt64.toInt64_ofNat', Int64.toInt_ofNat']
      · exact absurd rfl (unsigned _)

theorem codeAbsent : code? text = some none ↔ Absent (Text.trim text) := by
  rw [code?, ← absentExact]
  split
  · next absent => simp [absent]
  · next present => simp [present]

theorem codePresent : code? text = some (some word) ↔ CodeWord (Text.trim text) word := by
  rw [code?, ← wordExact]
  split
  · next absent => simp [absentUnread absent]
  · next present => simp

theorem acceptOk {α : Type} {refusal : String → Problem} {typed : String} {read : Option α}
    {value : α} : accept refusal typed read = .ok value ↔ read = some value := by
  cases read <;> simp [accept]

theorem acceptError {α : Type} {refusal : String → Problem} {typed : String} {read : Option α}
    {problem : Problem} :
    accept refusal typed read = .error problem ↔ read = none ∧ refusal typed = problem := by
  cases read <;> simp [accept]

theorem codeRefused : code? text = none ↔
    ¬ Absent (Text.trim text) ∧ ∀ word, ¬ CodeWord (Text.trim text) word := by
  rw [← codeAbsent, Option.eq_none_iff_forall_ne_some]
  constructor
  · intro refused
    exact ⟨refused none, fun word read => refused (some word) (codePresent.mpr read)⟩
  · rintro ⟨present, unread⟩ (_ | word) read
    · exact present read
    · exact unread word (codePresent.mp read)

theorem codeExact (typed : String) :
    (∃ text, Text.Trimmed typed.toList text ∧
      (code typed = .ok none ↔ Absent text) ∧
      (∀ word, code typed = .ok (some word) ↔ CodeWord text word) ∧
      (∀ problem, code typed = .error problem ↔
        (¬ Absent text ∧ ∀ word, ¬ CodeWord text word) ∧ problem = .code typed)) ∧
    ∀ word : Int64, code (String.ofList (Text.signedDecimal word.toInt)) = .ok (some word) ∧
      code (String.ofList (Fault.wordText (some word))) = .ok (some word) := by
  have written : ∀ {word text}, CodeText (some word) text →
      code (String.ofList text) = .ok (some word) := by
    intro word text shape
    rw [code, acceptOk, String.toList_ofList, codeRead shape]
  refine ⟨⟨Text.trim typed.toList, Text.trimmed _, ?_, ?_, ?_⟩, ?_⟩
  · rw [code, acceptOk, codeAbsent]
  · intro word
    rw [code, acceptOk, codePresent]
  · intro problem
    rw [code, acceptError, codeRefused, @eq_comm _ problem]
  · exact fun word => ⟨written (.decimal word), written (.shown (some word))⟩

end FaultWatch.Input
