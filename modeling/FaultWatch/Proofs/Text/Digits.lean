import FaultWatch.Proofs.Text.Numeral

/-! Which texts are numerals, and of which numbers. `Digits` is the grammar: at least one digit of
the base, letters in either case, each digit counting the base times less than the one before it. The
readers accept just these texts, within their bounds, with one sign where they allow it. The main
statements are `digitsExact`, `unsignedExact` and `signedExact`. -/
namespace FaultWatch.Text

structure DigitOf (base d : Nat) (c : Char) : Prop where
  small : d < base
  shape : c = Nat.digitChar d ∨ c = (Nat.digitChar d).toUpper

inductive Digits (base : Nat) : List Char → Nat → Prop
  | first {d : Nat} {c : Char} (digit : DigitOf base d c) : Digits base [c] d
  | next {n d : Nat} {c : Char} {cs : List Char} (front : Digits base cs n)
      (digit : DigitOf base d c) : Digits base (cs ++ [c]) (n * base + d)

inductive Unsigned (base : Nat) : List Char → Nat → Prop
  | bare {n : Nat} {cs : List Char} (digits : Digits base cs n) : Unsigned base cs n
  | plus {n : Nat} {cs : List Char} (digits : Digits base cs n) : Unsigned base ('+' :: cs) n

inductive Signed : List Char → Int → Prop
  | unsigned {n : Nat} {cs : List Char} (numeral : Unsigned 10 cs n) : Signed cs n
  | minus {n : Nat} {cs : List Char} (digits : Digits 10 cs n) : Signed ('-' :: cs) (-n)

variable {base bound half n d : Nat} {z : Int} {c : Char} {cs before : List Char}

theorem smallDigit : ∀ k < 10, Char.ofNat (48 + k) = Nat.digitChar k := by decide

theorem smallLetter : ∀ k < 6, Char.ofNat (97 + k) = Nat.digitChar (10 + k) := by decide

theorem capitalLetter : ∀ k < 6, Char.ofNat (65 + k) = (Nat.digitChar (10 + k)).toUpper := by
  decide

theorem capitalRead : ∀ base < 17, ∀ d < base,
    digitValue? base (Nat.digitChar d).toUpper = some d := by
  decide

theorem atMost {low high : Char} (between : low ≤ c ∧ c ≤ high) :
    low.toNat ≤ c.toNat ∧ c.toNat ≤ high.toNat :=
  ⟨UInt32.le_iff_toNat_le.mp between.1, UInt32.le_iff_toNat_le.mp between.2⟩

theorem digitPlaced (read : digitValue? base c = some d) :
    d < base ∧ (d < 10 ∧ 48 + d = c.toNat ∨
      ∃ k, d = 10 + k ∧ (97 + k = c.toNat ∨ 65 + k = c.toNat)) := by
  simp only [digitValue?, Option.ite_none_right_eq_some, Option.some.injEq] at read
  obtain ⟨small, value⟩ := read
  rw [value] at small
  refine ⟨small, ?_⟩
  split at value
  · next between =>
    obtain ⟨above, below⟩ := atMost between
    simp only [Char.reduceToNat] at value above below
    omega
  · split at value
    · next between =>
      obtain ⟨above, below⟩ := atMost between
      simp only [Char.reduceToNat] at value above below
      exact .inr ⟨c.toNat - 97, by omega, by omega⟩
    · split at value
      · next between =>
        obtain ⟨above, below⟩ := atMost between
        simp only [Char.reduceToNat] at value above below
        exact .inr ⟨c.toNat - 65, by omega, by omega⟩
      · omega

theorem digitExact (readable : Readable base) : digitValue? base c = some d ↔ DigitOf base d c := by
  constructor
  · intro read
    have few := readable.few
    obtain ⟨small, ⟨digit, place⟩ | ⟨k, rfl, place | place⟩⟩ := digitPlaced read
    · refine ⟨small, .inl ?_⟩
      rw [← smallDigit d digit, place, Char.ofNat_toNat]
    · refine ⟨small, .inl ?_⟩
      rw [← smallLetter k (by omega), place, Char.ofNat_toNat]
    · refine ⟨small, .inr ?_⟩
      rw [← capitalLetter k (by omega), place, Char.ofNat_toNat]
  · rintro ⟨small, rfl | rfl⟩
    · exact digitRead base readable.few d small
    · exact capitalRead base readable.few d small

theorem digitsSome (digits : Digits base cs n) : cs ≠ [] := by
  cases digits <;> simp

theorem digitsOne (readable : Readable base) (digit : DigitOf base d c) :
    digitsFrom? base n [c] = some (n * base + d) := by
  simp only [digitsFrom?, (digitExact readable).mpr digit, bind, Option.bind_some]

theorem digitsComplete (readable : Readable base) (digits : Digits base cs n) :
    digitsFrom? base 0 cs = some n := by
  induction digits with
  | first digit => rw [digitsOne readable digit, Nat.zero_mul, Nat.zero_add]
  | next front digit ih => rw [digitsFromAppend, ih, Option.bind_some, digitsOne readable digit]

theorem digitsContinued (readable : Readable base) {value : Nat} (front : Digits base before value)
    (read : digitsFrom? base value cs = some n) : Digits base (before ++ cs) n := by
  induction cs generalizing before value with
  | nil =>
    cases Option.some.inj read
    rwa [List.append_nil]
  | cons c rest ih =>
    obtain ⟨d, digit, read⟩ := Option.bind_eq_some_iff.mp read
    have longer := ih (.next front ((digitExact readable).mp digit)) read
    rwa [List.append_assoc] at longer

theorem digitsExact (readable : Readable base) : digits? base cs = some n ↔ Digits base cs n := by
  rw [digits?, Option.ite_none_left_eq_some]
  constructor
  · rintro ⟨nonempty, read⟩
    cases cs with
    | nil => contradiction
    | cons c rest =>
      obtain ⟨d, digit, read⟩ := Option.bind_eq_some_iff.mp read
      rw [Nat.zero_mul, Nat.zero_add] at read
      exact digitsContinued readable (.first ((digitExact readable).mp digit)) read
  · intro digits
    exact ⟨digitsSome digits, digitsComplete readable digits⟩

theorem digitsAll {p : Char → Prop} (each : ∀ d c, DigitOf base d c → p c)
    (digits : Digits base cs n) : ∀ c ∈ cs, p c := by
  induction digits with
  | @first d c digit =>
    intro other there
    rw [List.mem_singleton.mp there]
    exact each d c digit
  | @next n d c cs front digit ih =>
    intro other there
    rcases List.mem_append.mp there with early | last
    · exact ih other early
    · rw [List.mem_singleton.mp last]
      exact each d c digit

theorem digitsLack (readable : Readable base) (unread : digitValue? base c = none)
    (digits : Digits base cs n) : c ∉ cs := by
  have other : ∀ d b, DigitOf base d b → b ≠ c := by
    rintro d b digit rfl
    rw [(digitExact readable).mpr digit] at unread
    contradiction
  exact fun there => digitsAll other digits c there rfl

theorem plusUnread : ∀ base < 17, digitValue? base '+' = none := by decide

theorem minusUnread : ∀ base < 17, digitValue? base '-' = none := by decide

theorem naturalExact (readable : Readable base) :
    natural? base cs = some n ↔ Unsigned base cs n := by
  unfold natural?
  split
  · next rest =>
    rw [digitsExact readable]
    constructor
    · exact .plus
    · rintro (digits | digits)
      · exact absurd List.mem_cons_self (digitsLack readable (plusUnread base readable.few) digits)
      · exact digits
  · next bare =>
    rw [digitsExact readable]
    constructor
    · exact .bare
    · rintro (digits | digits)
      · exact digits
      · exact absurd rfl (bare _)

theorem unsignedExact (readable : Readable base) :
    unsigned? base bound cs = some n ↔ Unsigned base cs n ∧ n < bound := by
  rw [unsigned?, Option.filter_eq_some_iff, naturalExact readable, decide_eq_true_iff]

theorem unsignedLack (readable : Readable base) (unread : digitValue? base c = none)
    (other : c ≠ '+') (numeral : Unsigned base cs n) : c ∉ cs := by
  cases numeral with
  | bare digits => exact digitsLack readable unread digits
  | plus digits =>
    rw [List.mem_cons, not_or]
    exact ⟨other, digitsLack readable unread digits⟩

theorem signedExact (positive : 0 < half) :
    signed? half cs = some z ↔ Signed cs z ∧ -(half : Int) ≤ z ∧ z < half := by
  have unsigned : ∀ {n rest}, ¬ Unsigned 10 ('-' :: rest) n := fun numeral =>
    unsignedLack ten (minusUnread 10 ten.few) (by decide) numeral List.mem_cons_self
  unfold signed?
  split
  · next rest =>
    simp only [Option.map_eq_some_iff, bind, pure, Option.bind_eq_some_iff,
      Option.some.injEq, Option.filter_eq_some_iff, digitsExact ten, decide_eq_true_iff]
    constructor
    · rintro ⟨_, ⟨n, ⟨digits, small⟩, rfl⟩, rfl⟩
      exact ⟨.minus digits, by omega, by omega⟩
    · rintro ⟨numeral | @⟨n, _, digits⟩, small, _⟩
      · exact absurd numeral unsigned
      · exact ⟨n, ⟨n, ⟨digits, by omega⟩, rfl⟩, rfl⟩
  · next bare =>
    simp only [Option.map_eq_some_iff, bind, pure, Option.bind_eq_some_iff,
      Option.some.injEq, Option.filter_eq_some_iff, naturalExact ten, decide_eq_true_iff]
    constructor
    · rintro ⟨_, ⟨n, ⟨numeral, small⟩, rfl⟩, rfl⟩
      exact ⟨.unsigned numeral, by omega, by omega⟩
    · rintro ⟨@⟨n, _, numeral⟩ | digits, _, small⟩
      · exact ⟨n, ⟨n, ⟨numeral, by omega⟩, rfl⟩, rfl⟩
      · exact absurd rfl (bare _)

theorem signedOne {other : Int} (numeral : Signed cs z) (again : Signed cs other) : z = other := by
  let half := z.natAbs + other.natAbs + 1
  have read : signed? half cs = some z :=
    (signedExact (by omega)).mpr ⟨numeral, by omega, by omega⟩
  have reread : signed? half cs = some other :=
    (signedExact (by omega)).mpr ⟨again, by omega, by omega⟩
  exact Option.some.inj (read.symm.trans reread)

theorem signedAll {p : Char → Prop} (plus : p '+') (minus : p '-')
    (each : ∀ d c, DigitOf 10 d c → p c) (numeral : Signed cs z) : ∀ c ∈ cs, p c := by
  obtain (digits | digits) | digits := numeral
  · exact digitsAll each digits
  · exact List.forall_mem_cons.mpr ⟨plus, digitsAll each digits⟩
  · exact List.forall_mem_cons.mpr ⟨minus, digitsAll each digits⟩

end FaultWatch.Text
