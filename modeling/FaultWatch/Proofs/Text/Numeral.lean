import FaultWatch.Text.Numeral

/-! Numerals read back. The shortest digits of a number, in any base up to sixteen, are read as that
number, and no sign is taken for one of them. The main statement is `digitsRead`. -/
namespace FaultWatch.Text

structure Readable (base : Nat) : Prop where
  many : 1 < base
  few : base < 17

theorem ten : Readable 10 := ⟨by decide, by decide⟩

theorem sixteen : Readable 16 := ⟨by decide, by decide⟩

variable {base bound value n : Nat} {c : Char} {cs rest : List Char}

theorem digitRead : ∀ base < 17, ∀ d < base, digitValue? base (Nat.digitChar d) = some d := by
  decide

theorem digitsFromAppend :
    digitsFrom? base value (cs ++ rest) =
      (digitsFrom? base value cs).bind fun next => digitsFrom? base next rest := by
  induction cs generalizing value with
  | nil => rfl
  | cons c cs ih =>
    simp only [List.cons_append, digitsFrom?, bind, Option.bind_assoc, ih]

theorem digitsFromRead (readable : Readable base) (n : Nat) :
    digitsFrom? base 0 (Nat.toDigits base n) = some n := by
  obtain ⟨many, few⟩ := readable
  induction n using Nat.strongRecOn with
  | ind n ih =>
    rw [Nat.toDigits_eq_if many]
    split
    · next small => simp [digitsFrom?, digitRead base few n small]
    · next large =>
      have less : n / base < n := Nat.div_lt_self (by omega) many
      have last : n % base < base := Nat.mod_lt _ (by omega)
      rw [digitsFromAppend, ih _ less]
      simp only [Option.bind_some, digitsFrom?, digitRead base few _ last, bind]
      rw [Nat.div_add_mod']

theorem digitsRead (readable : Readable base) (n : Nat) :
    digits? base (Nat.toDigits base n) = some n := by
  rw [digits?, if_neg Nat.toDigits_ne_nil, digitsFromRead readable]

theorem digitOf (many : 1 < base) (there : c ∈ Nat.toDigits base n) :
    ∃ d < base, c = Nat.digitChar d := by
  induction n using Nat.strongRecOn with
  | ind n ih =>
    rw [Nat.toDigits_eq_if many] at there
    split at there
    · next small => exact ⟨n, small, List.mem_singleton.mp there⟩
    · next large =>
      have less : n / base < n := Nat.div_lt_self (by omega) many
      rcases List.mem_append.mp there with early | last
      · exact ih _ less early
      · exact ⟨n % base, Nat.mod_lt _ (by omega), List.mem_singleton.mp last⟩

theorem digitsPlain {marked : Char → Bool} (readable : Readable base)
    (plain : ∀ d < 16, marked (Nat.digitChar d) = false) :
    ∀ c ∈ Nat.toDigits base n, marked c = false := by
  intro c there
  obtain ⟨d, small, rfl⟩ := digitOf readable.many there
  exact plain d (Nat.lt_of_lt_of_le small (Nat.le_of_lt_succ readable.few))

theorem unsignedRead (readable : Readable base) (small : n < bound) :
    unsigned? base bound (Nat.toDigits base n) = some n := by
  have plain : ∀ c ∈ Nat.toDigits base n, (c == '+') = false :=
    digitsPlain readable (by decide)
  have unsignedDigits : natural? base (Nat.toDigits base n) = some n := by
    unfold natural?
    split
    · next plus => simp [plus] at plain
    · exact digitsRead readable n
  simp [unsigned?, unsignedDigits, small]

theorem digitsOwn (readable : Readable base)
    (same : Nat.toDigits base n = Nat.toDigits base value) : n = value := by
  have read := digitsRead readable n
  rw [same, digitsRead readable value] at read
  exact (Option.some.inj read).symm

theorem hexadecimalOwn (same : hexadecimal n = hexadecimal value) : n = value :=
  digitsOwn sixteen (List.cons.inj (List.cons.inj same).2).2

theorem decimalUnsigned : decimal n ≠ '-' :: cs := by
  intro minus
  have unsigned : ∀ c ∈ decimal n, (c == '-') = false :=
    digitsPlain ten (by decide)
  simp [minus] at unsigned

theorem signedOwn {a b : Int} (same : signedDecimal a = signedDecimal b) : a = b := by
  cases a with
  | ofNat n =>
    cases b with
    | ofNat m => rw [digitsOwn ten same]
    | negSucc m => exact absurd same decimalUnsigned
  | negSucc n =>
    cases b with
    | ofNat m => exact absurd same.symm decimalUnsigned
    | negSucc m =>
      have next := digitsOwn ten (List.cons.inj same).2
      rw [Nat.succ.inj next]

theorem signedPlain {marked : Char → Bool} {a : Int}
    (plain : ∀ d < 16, marked (Nat.digitChar d) = false) (sign : marked '-' = false) :
    ∀ c ∈ signedDecimal a, marked c = false := by
  intro c there
  cases a with
  | ofNat n => exact digitsPlain ten plain c there
  | negSucc n =>
    rcases List.mem_cons.mp there with rfl | digit
    · exact sign
    · exact digitsPlain ten plain c digit

end FaultWatch.Text
