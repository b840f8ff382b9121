import FaultWatch.Text.Blank
import FaultWatch.Text.Split

/-! Cutting text where it was put together. A separator cuts the text in two, and each side falls
into its own pieces; so separators at an end, or more than one in a row, give no field, and a word
between them gives just itself. What holds of the words and of what joins them holds of the text that
they make. The main statements are `fieldsGap` and `linesFeed`. -/
namespace FaultWatch.Text

variable {separates : Char → Bool} {c : Char} {cs before gap after word line : List Char}

theorem extendAppend {first rest : List (List Char)} (some : first ≠ []) :
    extendFirst c (first ++ rest) = extendFirst c first ++ rest := by
  cases first with
  | nil => contradiction
  | cons => rfl

theorem piecesSome : pieces separates cs ≠ [] := by
  cases cs with
  | nil => simp [pieces]
  | cons c rest =>
    rw [pieces]
    split
    · simp
    · cases pieces separates rest <;> simp [extendFirst]

theorem piecesCut (cut : separates c = true) :
    pieces separates (before ++ c :: after) = pieces separates before ++ pieces separates after := by
  induction before with
  | nil => simp [pieces, cut]
  | cons b before ih =>
    by_cases here : separates b = true
    · simp [pieces, here, ih]
    · simp [pieces, here, ih, extendAppend piecesSome]

theorem piecesUncut (uncut : ∀ c ∈ word, separates c = false) : pieces separates word = [word] := by
  induction word with
  | nil => rfl
  | cons c rest ih =>
    rw [pieces, ih fun other member => uncut other (List.mem_cons_of_mem _ member),
      uncut c (by simp)]
    rfl

theorem fieldsCut (cut : separates c = true) :
    fields separates (before ++ c :: after) = fields separates before ++ fields separates after := by
  rw [fields, piecesCut cut, List.filter_append]
  rfl

theorem fieldsTrail (run : ∀ c ∈ gap, separates c = true) :
    fields separates (before ++ gap) = fields separates before := by
  induction gap generalizing before with
  | nil => rw [List.append_nil]
  | cons c gap ih =>
    have rest : fields separates ([] ++ gap) = fields separates [] :=
      ih fun other member => run other (List.mem_cons_of_mem _ member)
    rw [fieldsCut (run c (by simp)), ← List.nil_append gap, rest]
    simp [fields, pieces]

theorem fieldsLead (run : ∀ c ∈ gap, separates c = true) :
    fields separates (gap ++ after) = fields separates after := by
  induction gap with
  | nil => rfl
  | cons c gap ih =>
    have rest := ih fun other member => run other (List.mem_cons_of_mem _ member)
    rw [List.cons_append, ← List.nil_append (c :: _), fieldsCut (run c (by simp)), rest]
    rfl

theorem fieldsGap (run : ∀ c ∈ gap, separates c = true) (apart : gap ≠ []) :
    fields separates (before ++ (gap ++ after)) =
      fields separates before ++ fields separates after := by
  cases gap with
  | nil => contradiction
  | cons c gap =>
    rw [List.cons_append, fieldsCut (run c (by simp)),
      fieldsLead fun other member => run other (List.mem_cons_of_mem _ member)]

theorem fieldsWord (some : word ≠ []) (uncut : ∀ c ∈ word, separates c = false) :
    fields separates word = [word] := by
  rw [fields, piecesUncut uncut]
  simp [some]

theorem lineWhole (unbroken : '\n' ∉ line) : pieces (· == '\n') line = [line] := by
  apply piecesUncut
  intro c member
  rw [beq_eq_false_iff_ne]
  rintro rfl
  exact unbroken member

theorem piecesCount : (pieces (· == c) cs).length = cs.count c + 1 := by
  induction cs with
  | nil => rfl
  | cons d cs ih =>
    rw [pieces, List.count_cons]
    split
    · rw [List.length_cons, ih]
    · cases found : pieces (· == c) cs with
      | nil => exact absurd found piecesSome
      | cons first rest =>
        rw [found] at ih
        exact ih

theorem linesOfAppend {later : List (List Char)} (some : later ≠ []) :
    ∀ earlier, linesOf (earlier ++ later) = earlier.map dropReturn ++ linesOf later
  | [] => rfl
  | first :: earlier => by
    have rest := linesOfAppend some earlier
    cases next : earlier ++ later with
    | nil => exact absurd (List.append_eq_nil_iff.mp next).2 some
    | cons second more =>
      rw [List.cons_append, next, linesOf, ← next, rest]
      rfl

theorem linesFeed : lines (before ++ '\n' :: after) =
    (pieces (· == '\n') before).map dropReturn ++ lines after := by
  rw [lines, piecesCut (by decide), linesOfAppend piecesSome]
  rfl

theorem linesCut (unbroken : '\n' ∉ line) :
    lines (line ++ '\n' :: after) = dropReturn line :: lines after := by
  rw [linesFeed, lineWhole unbroken]
  rfl

theorem linesLast (unbroken : '\n' ∉ line) : lines line = if line = [] then [] else [line] := by
  rw [lines, lineWhole unbroken]
  rfl

theorem dropExact {p : Char → Bool} {gap rest : List Char} (run : ∀ c ∈ gap, p c = true)
    (stopped : ∀ c, rest.head? = some c → p c = false) : (gap ++ rest).dropWhile p = rest := by
  rw [List.dropWhile_append_of_pos run]
  cases rest with
  | nil => rfl
  | cons c rest => exact List.dropWhile_cons_of_neg (by simp [stopped c rfl])

theorem dropAll {p : Char → Bool} (gone : cs.dropWhile p = []) : ∀ c ∈ cs, p c = true := by
  have kept := @List.takeWhile_append_dropWhile _ p cs
  rw [gone, List.append_nil] at kept
  rw [← kept]
  exact List.all_eq_true.mp List.all_takeWhile

theorem trimBetween (lead : ∀ c ∈ before, isBlank c = true)
    (trail : ∀ c ∈ after, isBlank c = true)
    (first : ∀ c, word.head? = some c → isBlank c = false)
    (last : ∀ c, word.getLast? = some c → isBlank c = false) :
    trim (before ++ (word ++ after)) = word := by
  cases word with
  | nil =>
    have blank := List.forall_mem_append.mpr ⟨lead, trail⟩
    have gone := @dropExact isBlank (before ++ after) [] blank (by simp)
    rw [List.append_nil] at gone
    rw [List.nil_append, trim, gone]
    rfl
  | cons c word =>
    have rear : ∀ c ∈ after.reverse, isBlank c = true :=
      fun c there => trail c (List.mem_reverse.mp there)
    have back : ∀ d, (c :: word).reverse.head? = some d → isBlank d = false := by
      rwa [List.head?_reverse]
    have front : ∀ d, (c :: word ++ after).head? = some d → isBlank d = false := first
    rw [trim, dropExact lead front, List.reverse_append, dropExact rear back,
      List.reverse_reverse]

theorem trimAround (lead : ∀ c ∈ before, isBlank c = true) (trail : ∀ c ∈ after, isBlank c = true)
    (solid : ∀ c ∈ word, isBlank c = false) : trim (before ++ (word ++ after)) = word :=
  trimBetween lead trail (fun c first => solid c (List.mem_of_head? first))
    fun c last => solid c (List.mem_of_getLast? last)

theorem trimUnblank (solid : ∀ c ∈ word, isBlank c = false) : trim word = word := by
  have around := @trimAround [] [] word (by simp) (by simp) solid
  rwa [List.nil_append, List.append_nil] at around

theorem trimHead (solid : isBlank c = false) : (trim (c :: cs)).head? = some c := by
  have kept : ¬ isBlank c = true := by simp [solid]
  rw [trim, List.dropWhile_cons_of_neg kept, List.reverse_cons, List.dropWhile_append,
    List.head?_reverse]
  split <;> simp [solid]

theorem trimSome (there : c ∈ cs) (solid : isBlank c = false) : trim cs ≠ [] := by
  intro gone
  have blank : ∀ c ∈ cs.dropWhile isBlank, isBlank c = true := by
    intro c member
    exact dropAll (List.reverse_eq_nil_iff.mp gone) c (List.mem_reverse.mpr member)
  rw [← @List.takeWhile_append_dropWhile _ isBlank cs] at there
  rcases List.mem_append.mp there with early | late
  · rw [List.all_eq_true.mp List.all_takeWhile c early] at solid
    contradiction
  · rw [blank c late] at solid
    contradiction

theorem joinedAll {p : Char → Prop} {gap : List Char} {words : List (List Char)}
    (between : ∀ c ∈ gap, p c) (within : ∀ word ∈ words, ∀ c ∈ word, p c) :
    ∀ c ∈ List.intercalate gap words, p c := by
  induction words with
  | nil => simp
  | cons word rest ih =>
    obtain ⟨here, later⟩ := List.forall_mem_cons.mp within
    cases rest with
    | nil => rwa [List.intercalate_singleton]
    | cons next rest =>
      rw [List.intercalate_cons_cons]
      intro c there
      rcases List.mem_append.mp there with early | late
      · rcases List.mem_append.mp early with inside | apart
        · exact here c inside
        · exact between c apart
      · exact ih later c late

end FaultWatch.Text
