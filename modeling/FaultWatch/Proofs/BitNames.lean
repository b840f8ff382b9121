import FaultWatch.BitNames
import FaultWatch.Proofs.Slots
import FaultWatch.Proofs.Text.Numeral
import FaultWatch.Proofs.Text.Split

/-! Sets of bits read back from their text. The words of the text are joined by bars and each is
read by itself, a name as its bit and the number as what has no name; together they are all bits of
the set, those without a name included. The main statement is `textRead`. -/
namespace FaultWatch.BitNames

/-- The names can be told apart from each other and from numbers, and hold no bars and blanks. -/
structure Legible (names : BitNames) : Prop where
  plain : names.all (fun entry => entry.1.toList.all fun c => !Text.isBlank c && c != '|') = true
  words : ∀ entry ∈ names, entry.1.toList ≠ [] ∧ entry.1.toList.take 2 ≠ ['0', 'x']
  apart : ∀ entry ∈ names, ∀ other ∈ names, other.1 = entry.1 → other = entry

def meanings (names : BitNames) (bits : Nat) : List (List Char × Nat) :=
  (names.filter fun entry => bits.testBit entry.2).map (fun entry => (entry.1.toList, 1 <<< entry.2)) ++
    (if names.unnamed bits = 0 then []
      else [(Text.hexadecimal (names.unnamed bits), names.unnamed bits)])

variable {names : BitNames} {bits bound i n : Nat} {entry : String × Nat} {word : List Char}
  {cuts words : List (List Char)}

theorem meaningWords : (names.meanings bits).map (·.1) = names.words bits := by
  rw [meanings, words, List.map_append, List.map_map]
  split <;> rfl

theorem foldBit {start : Nat} :
    (names.foldl (fun bits entry => bits ||| 1 <<< entry.2) start).testBit i =
      (start.testBit i || names.any fun entry => entry.2 == i) := by
  induction names generalizing start with
  | nil => simp
  | cons entry rest ih =>
    rw [List.foldl_cons, ih, Nat.testBit_or, List.any_cons, Nat.one_shiftLeft,
      Nat.testBit_two_pow, Bool.or_assoc]
    rfl

theorem knownBit : names.known.testBit i = names.any fun entry => entry.2 == i := by
  rw [known, foldBit, Nat.zero_testBit, Bool.false_or]

theorem unnamedBit :
    (names.unnamed bits).testBit i = (bits.testBit i && !names.any fun entry => entry.2 == i) := by
  rw [unnamed, Nat.testBit_xor, Nat.testBit_and, knownBit]
  cases bits.testBit i <;> simp

theorem unnamedSmall : names.unnamed bits ≤ bits := by
  have within : names.unnamed bits &&& bits = names.unnamed bits := by
    apply Nat.eq_of_testBit_eq
    intro i
    rw [Nat.testBit_and, unnamedBit]
    cases bits.testBit i <;> simp
  rw [← within]
  exact Nat.and_le_right

def together (meanings : List (List Char × Nat)) : Nat :=
  meanings.foldr (fun meaning bits => meaning.2 ||| bits) 0

theorem togetherBit {meanings : List (List Char × Nat)} :
    (together meanings).testBit i = meanings.any fun meaning => meaning.2.testBit i := by
  induction meanings with
  | nil => simp [together]
  | cons meaning rest ih =>
    rw [together, List.foldr_cons, Nat.testBit_or, List.any_cons, ← together, ih]

theorem namedBit :
    (names.any fun entry => bits.testBit entry.2 && decide (entry.2 = i)) =
      (bits.testBit i && names.any fun entry => entry.2 == i) := by
  induction names with
  | nil => simp
  | cons entry rest ih =>
    rw [List.any_cons, List.any_cons, ih]
    by_cases here : entry.2 = i
    · subst here
      cases bits.testBit entry.2 <;> simp
    · have elsewhere : (entry.2 == i) = false := by simpa using here
      simp [here, elsewhere]

theorem meaningsTogether : together (names.meanings bits) = bits := by
  apply Nat.eq_of_testBit_eq
  intro i
  have numbered : (if names.unnamed bits = 0 then []
      else [(Text.hexadecimal (names.unnamed bits), names.unnamed bits)]).any
        (fun meaning => meaning.2.testBit i) = (names.unnamed bits).testBit i := by
    split
    · next none => simp [none]
    · simp
  rw [togetherBit, meanings, List.any_append, numbered, unnamedBit, List.any_map, List.any_filter]
  simp only [Function.comp_def, Nat.one_shiftLeft, Nat.testBit_two_pow, namedBit]
  cases bits.testBit i <;> simp

theorem nameRead (legible : names.Legible) (member : entry ∈ names) :
    names.word? bound entry.1.toList = some (1 <<< entry.2) := by
  have own : ∀ other ∈ names, other.1.toList = entry.1.toList → other = entry := by
    intro other there same
    exact legible.apart entry member other there (String.toList_inj.mp same)
  have found := Slots.keyed member own
  unfold word?
  split
  · next digits same => exact absurd (by rw [same]; rfl) (legible.words entry member).2
  · rw [found]
    rfl

theorem numberRead (small : n < bound) :
    names.word? bound (Text.hexadecimal n) = some n :=
  Text.unsignedRead Text.sixteen small

theorem meaningRead (legible : names.Legible) (small : bits < bound) :
    ∀ meaning ∈ names.meanings bits, names.word? bound meaning.1 = some meaning.2 := by
  intro meaning member
  rcases List.mem_append.mp member with named | numbered
  · obtain ⟨entry, there, rfl⟩ := List.mem_map.mp named
    exact nameRead legible (List.mem_filter.mp there).1
  · split at numbered
    · contradiction
    · rw [List.mem_singleton.mp numbered]
      exact numberRead (Nat.lt_of_le_of_lt unnamedSmall small)

theorem wordsRead {meanings : List (List Char × Nat)}
    (read : ∀ meaning ∈ meanings, names.word? bound meaning.1 = some meaning.2)
    (cut : cuts.map Text.trim = meanings.map (·.1)) :
    names.words? bound cuts = some (together meanings) := by
  induction meanings generalizing cuts with
  | nil =>
    rw [List.map_eq_nil_iff.mp cut]
    rfl
  | cons meaning rest ih =>
    cases cuts with
    | nil => contradiction
    | cons first cuts =>
      obtain ⟨here, later⟩ := List.cons.inj cut
      rw [words?, here, read meaning (by simp),
        ih (fun other member => read other (List.mem_cons_of_mem _ member)) later]
      rfl

def Solid (word : List Char) : Prop := word ≠ [] ∧ ∀ c ∈ word, Text.isBlank c = false ∧ c ≠ '|'

theorem nameSolid (legible : names.Legible) (member : entry ∈ names) : Solid entry.1.toList := by
  have plain := List.all_eq_true.mp legible.plain entry member
  refine ⟨(legible.words entry member).1, fun c there => ?_⟩
  simpa using List.all_eq_true.mp plain c there

theorem numberSolid : Solid (Text.hexadecimal n) := by
  have plain : ∀ c ∈ Nat.toDigits 16 n, (Text.isBlank c || c == '|') = false :=
    Text.digitsPlain Text.sixteen (by decide)
  refine ⟨by simp [Text.hexadecimal], fun c there => ?_⟩
  simp only [Text.hexadecimal, List.mem_cons] at there
  rcases there with rfl | rfl | digit
  · decide
  · decide
  · simpa using plain c digit

theorem wordsSolid (legible : names.Legible) : ∀ word ∈ names.words bits, Solid word := by
  intro word member
  rcases List.mem_append.mp member with named | numbered
  · obtain ⟨entry, there, rfl⟩ := List.mem_map.mp named
    exact nameSolid legible (List.mem_filter.mp there).1
  · split at numbered
    · contradiction
    · rw [List.mem_singleton.mp numbered]
      exact numberSolid

theorem pieceCut {lead trail : List Char} (leads : ∀ c ∈ lead, c = ' ') (trails : ∀ c ∈ trail, c = ' ')
    (solid : Solid word) :
    (Text.pieces (· == '|') (lead ++ (word ++ trail))).map Text.trim = [word] := by
  have uncut : ∀ c ∈ lead ++ (word ++ trail), (c == '|') = false := by
    intro c there
    simp only [List.mem_append] at there
    rcases there with early | inside | late
    · rw [leads c early]
      decide
    · simpa using (solid.2 c inside).2
    · rw [trails c late]
      decide
  have blank : Text.isBlank ' ' = true := by decide
  rw [Text.piecesUncut uncut, List.map_singleton,
    Text.trimAround (fun c there => leads c there ▸ blank) (fun c there => trails c there ▸ blank)
      fun c there => (solid.2 c there).1]

theorem barredCut {lead : List Char} (leads : ∀ c ∈ lead, c = ' ') (some : words ≠ [])
    (solid : ∀ word ∈ words, Solid word) :
    (Text.pieces (· == '|') (lead ++ List.intercalate " | ".toList words)).map Text.trim =
      words := by
  induction words generalizing lead with
  | nil => contradiction
  | cons word rest ih =>
    have here := solid word (by simp)
    cases rest with
    | nil =>
      have single := pieceCut leads (by simp : ∀ c ∈ ([] : List Char), c = ' ') here
      rw [List.append_nil] at single
      rwa [List.intercalate_singleton]
    | cons next rest =>
      have bar : lead ++ List.intercalate " | ".toList (word :: next :: rest) =
          (lead ++ (word ++ [' '])) ++
            '|' :: ([' '] ++ List.intercalate " | ".toList (next :: rest)) := by
        simp
      rw [bar, Text.piecesCut (by decide), List.map_append, pieceCut leads (by simp) here,
        ih (by simp) (by simp) fun other member => solid other (List.mem_cons_of_mem _ member)]
      rfl

theorem textRead (legible : names.Legible) (small : bits < bound) :
    names.read? bound (names.text bits) = some bits := by
  have solid := @wordsSolid names bits legible
  have read := meaningRead legible small
  unfold read? text
  cases words : names.words bits with
  | nil =>
    have nothing : names.meanings bits = [] :=
      List.map_eq_nil_iff.mp (meaningWords.trans words)
    have empty : bits = 0 := by rw [← @meaningsTogether names bits, nothing]; rfl
    rw [empty]
    rfl
  | cons word rest =>
    rw [words] at solid
    have some : Text.trim (List.intercalate " | ".toList (word :: rest)) ≠ [] := by
      obtain ⟨nonempty, plain⟩ := solid word (by simp)
      obtain ⟨c, there⟩ := List.exists_mem_of_ne_nil word nonempty
      refine Text.trimSome ?_ (plain c there).1
      cases rest <;> simp [there]
    rw [if_neg some]
    have cut := @barredCut _ [] (by simp) (by simp) solid
    rw [List.nil_append, ← words, ← meaningWords] at cut
    rw [← words, ← meaningWords, wordsRead read cut, meaningsTogether]

theorem zeroRead (positive : 0 < bound) :
    names.read? bound (Text.hexadecimal 0) = some 0 := by
  have read := @numberRead names bound 0 positive
  change (do return (← names.word? bound (Text.hexadecimal 0)) ||| 0) = some 0
  rw [read]
  rfl

theorem termRead (legible : names.Legible) (small : bits < bound) :
    names.read? bound (if bits = 0 then Text.hexadecimal 0 else names.text bits) = some bits := by
  split
  · next empty =>
    rw [empty]
    exact zeroRead (Nat.lt_of_le_of_lt (Nat.zero_le bits) small)
  · exact textRead legible small

theorem termOwn {other : Nat} (legible : names.Legible) (small : bits < bound)
    (small' : other < bound) (same : names.term bits = names.term other) : bits = other := by
  have read := termRead legible small
  rw [Term.word.inj same, termRead legible small'] at read
  exact (Option.some.inj read).symm

end FaultWatch.BitNames
