import FaultWatch.Proofs.Text.Split

/-! Trimming and splitting by what they leave. A trimmed text neither starts nor ends with a blank,
and only blanks are gone; fields are nonempty runs without a separator, with separators only around
them and at least one between two; rows have no line feed, and joined by line feeds they are the
text. All are the only such texts. The main statements are `trimExact`, `runsExact` and
`rowsExact`. -/
namespace FaultWatch.Text

structure Trimmed (cs word : List Char) : Prop where
  around : ∃ before after, cs = before ++ (word ++ after) ∧
    (∀ c ∈ before, isBlank c = true) ∧ ∀ c ∈ after, isBlank c = true
  first : ∀ c, word.head? = some c → isBlank c = false
  last : ∀ c, word.getLast? = some c → isBlank c = false

/-- Fields with their gaps, where the next field starts after a separator. -/
inductive Runs (separates : Char → Bool) : List Char → List (List Char) → Prop
  | gap {gap : List Char} (apart : ∀ c ∈ gap, separates c = true) : Runs separates gap []
  | field {gap word rest : List Char} {words : List (List Char)}
      (apart : ∀ c ∈ gap, separates c = true) (nonempty : word ≠ [])
      (uncut : ∀ c ∈ word, separates c = false)
      (ended : ∀ c, rest.head? = some c → separates c = true)
      (more : Runs separates rest words) : Runs separates (gap ++ (word ++ rest)) (word :: words)

structure Rows (cs : List Char) (rows : List (List Char)) : Prop where
  nonempty : rows ≠ []
  unbroken : ∀ row ∈ rows, '\n' ∉ row
  joined : List.intercalate ['\n'] rows = cs

variable {separates : Char → Bool} {c : Char} {cs : List Char} {words rows : List (List Char)}

theorem droppedFirst {p : Char → Bool} (first : (cs.dropWhile p).head? = some c) : p c = false := by
  have stopped := List.head?_dropWhile_not p cs
  rw [first] at stopped
  exact stopped

theorem trimmed (cs : List Char) : Trimmed cs (trim cs) := by
  have lead := @List.takeWhile_append_dropWhile _ isBlank cs
  have trail := @List.takeWhile_append_dropWhile _ isBlank (cs.dropWhile isBlank).reverse
  have split : trim cs ++ ((cs.dropWhile isBlank).reverse.takeWhile isBlank).reverse =
      cs.dropWhile isBlank := by
    rw [trim, ← List.reverse_append, trail, List.reverse_reverse]
  refine ⟨⟨cs.takeWhile isBlank, _, by rw [split, lead], ?_, ?_⟩, ?_, ?_⟩
  · exact List.all_eq_true.mp List.all_takeWhile
  · intro c there
    exact List.all_eq_true.mp List.all_takeWhile c (List.mem_reverse.mp there)
  · intro c first
    apply @droppedFirst c cs
    rw [← split, List.head?_append, first]
    rfl
  · intro c last
    rw [trim, List.getLast?_reverse] at last
    exact droppedFirst last

theorem trimExact {word : List Char} : Trimmed cs word ↔ trim cs = word := by
  constructor
  · rintro ⟨⟨before, after, rfl, lead, trail⟩, first, last⟩
    exact trimBetween lead trail first last
  · rintro rfl
    exact trimmed cs

theorem fieldsOfRuns (runs : Runs separates cs words) : fields separates cs = words := by
  induction runs with
  | @gap gap apart =>
    rw [← List.nil_append gap, fieldsTrail apart]
    rfl
  | @field gap word rest words apart nonempty uncut ended more ih =>
    rw [fieldsLead apart]
    cases rest with
    | nil =>
      rw [← ih, List.append_nil, fieldsWord nonempty uncut]
      rfl
    | cons c rest =>
      have cut := ended c rfl
      rw [fieldsCut cut, fieldsWord nonempty uncut, ← ih, ← List.nil_append (c :: rest),
        fieldsCut cut]
      rfl

theorem runsOf : ∀ cs, ∃ words, Runs separates cs words
  | [] => ⟨[], .gap (by simp)⟩
  | c :: cs => by
    obtain ⟨words, runs⟩ := runsOf cs
    by_cases cut : separates c = true
    · cases runs with
      | gap apart =>
        have longer := (@List.forall_mem_cons _ (separates · = true) _ _).mpr ⟨cut, apart⟩
        exact ⟨_, .gap longer⟩
      | @field gap word rest _ apart nonempty uncut ended more =>
        have longer := (@List.forall_mem_cons _ (separates · = true) _ _).mpr ⟨cut, apart⟩
        exact ⟨_, @Runs.field _ (c :: gap) word rest _ longer nonempty uncut ended more⟩
    · have solid : separates c = false := Bool.eq_false_iff.mpr cut
      have alone : ∀ d ∈ [c], separates d = false := by simpa using solid
      have noGap : ∀ d ∈ ([] : List Char), separates d = true := by simp
      cases runs with
      | gap apart =>
        have ended : ∀ d, cs.head? = some d → separates d = true :=
          fun d first => apart d (List.mem_of_head? first)
        exact ⟨_, @Runs.field _ [] [c] cs _ noGap (by simp) alone ended (.gap apart)⟩
      | @field gap word rest words apart nonempty uncut ended more =>
        cases gap with
        | nil =>
          have longer := (@List.forall_mem_cons _ (separates · = false) _ _).mpr ⟨solid, uncut⟩
          exact ⟨_, @Runs.field _ [] (c :: word) rest _ noGap (by simp) longer ended more⟩
        | cons b gap =>
          have first : ∀ d, some b = some d → separates d = true := by
            intro d same
            rw [← Option.some.inj same]
            exact apart b List.mem_cons_self
          exact ⟨_, @Runs.field _ [] [c] (b :: gap ++ (word ++ rest)) _ noGap (by simp) alone first
            (.field apart nonempty uncut ended more)⟩

theorem runsExact : Runs separates cs words ↔ fields separates cs = words := by
  constructor
  · exact fieldsOfRuns
  · rintro rfl
    obtain ⟨words, runs⟩ := @runsOf separates cs
    rwa [fieldsOfRuns runs]

theorem piecesSolid :
    ∀ word ∈ pieces separates cs, ∀ d ∈ word, separates d = false := by
  induction cs with
  | nil => simp [pieces]
  | cons c cs ih =>
    rw [pieces]
    split
    · exact List.forall_mem_cons.mpr ⟨by simp, ih⟩
    · next solid =>
      rw [Bool.not_eq_true] at solid
      cases found : pieces separates cs with
      | nil => exact absurd found piecesSome
      | cons first rest =>
        rw [found] at ih
        obtain ⟨here, later⟩ := List.forall_mem_cons.mp ih
        exact List.forall_mem_cons.mpr ⟨List.forall_mem_cons.mpr ⟨solid, here⟩, later⟩

theorem extendJoined {gap : List Char} (some : words ≠ []) :
    List.intercalate gap (extendFirst c words) = c :: List.intercalate gap words := by
  match words with
  | [] => contradiction
  | [word] => simp [extendFirst]
  | word :: next :: rest => simp [extendFirst]

theorem piecesJoined : List.intercalate [c] (pieces (· == c) cs) = cs := by
  induction cs with
  | nil => rfl
  | cons d cs ih =>
    rw [pieces]
    split
    · next same =>
      rw [beq_iff_eq] at same
      cases found : pieces (· == c) cs with
      | nil => exact absurd found piecesSome
      | cons first rest =>
        rw [found] at ih
        rw [List.intercalate_cons_cons, ih, same]
        rfl
    · rw [extendJoined piecesSome, ih]

theorem rowsOf (cs : List Char) : Rows cs (pieces (· == '\n') cs) := by
  refine ⟨piecesSome, ?_, piecesJoined⟩
  intro row member there
  have solid := piecesSolid row member '\n' there
  contradiction

theorem piecesOfRows : ∀ rows, rows ≠ [] → (∀ row ∈ rows, '\n' ∉ row) →
    pieces (· == '\n') (List.intercalate ['\n'] rows) = rows
  | [row], _, unbroken => by
    rw [List.intercalate_singleton, lineWhole (unbroken row (by simp))]
  | row :: next :: rest, _, unbroken => by
    obtain ⟨here, later⟩ := List.forall_mem_cons.mp unbroken
    rw [List.intercalate_cons_cons, List.append_assoc, List.singleton_append, piecesCut rfl,
      lineWhole here, piecesOfRows (next :: rest) (by simp) later]
    rfl

theorem rowsExact : Rows cs rows ↔ pieces (· == '\n') cs = rows := by
  constructor
  · rintro ⟨nonempty, unbroken, rfl⟩
    exact piecesOfRows rows nonempty unbroken
  · rintro rfl
    exact rowsOf cs

end FaultWatch.Text
