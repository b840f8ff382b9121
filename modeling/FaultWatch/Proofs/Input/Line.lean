import FaultWatch.Proofs.Input.Code
import FaultWatch.Proofs.Mask

/-! Which lines hold a triple, and what is wrong with the others. `Told` is the meaning of a line: the
text before the first `#` is blank, or it falls into fields, which are a category and two code words,
or too many or too few, or one of them is the leftmost that cannot be read. The main statement is
`lineExact`. -/
namespace FaultWatch.Input

inductive CategoryWord (category : Category) : List Char → Prop
  | number {text : List Char} (numeral : Text.Signed text category.number) :
      CategoryWord category text
  | name {text : List Char}
      (anyCase : text.map Char.toLower = category.name.toList.map Char.toLower) :
      CategoryWord category text

inductive Held : Option Int64 → List Char → Prop
  | none {text : List Char} (absent : Absent text) : Held none text
  | some {text : List Char} {word : Int64} (written : CodeWord text word) : Held (some word) text

structure Uncommented (line text : List Char) : Prop where
  unmarked : '#' ∉ text
  cut : line = text ∨ ∃ comment, line = text ++ '#' :: comment

inductive Reading : List (List Char) → Except Problem Fault → Prop
  | count {fields : List (List Char)} (other : fields.length ≠ 3) :
      Reading fields (.error (.fieldCount fields.length))
  | category {first second third : List Char} (unknown : ∀ category, ¬ CategoryWord category first) :
      Reading [first, second, third] (.error (.category (String.ofList first)))
  | code {category : Category} {first second third : List Char}
      (known : CategoryWord category first) (unread : ∀ held, ¬ Held held second) :
      Reading [first, second, third] (.error (.code (String.ofList second)))
  | subcode {category : Category} {held : Option Int64} {first second third : List Char}
      (known : CategoryWord category first) (code : Held held second)
      (unread : ∀ held, ¬ Held held third) :
      Reading [first, second, third] (.error (.code (String.ofList third)))
  | triple {raw : Fault} {first second third : List Char}
      (known : CategoryWord raw.category first) (code : Held raw.code second)
      (subcode : Held raw.subcode third) : Reading [first, second, third] (.ok raw)

inductive Told : List Char → Except Problem (Option Fault) → Prop
  | blank {line text : List Char} (before : Uncommented line text)
      (blank : ∀ c ∈ text, Text.isBlank c = true) : Told line (.ok none)
  | fields {line text : List Char} {fields : List (List Char)} {result : Except Problem Fault}
      (before : Uncommented line text) (solid : ∃ c ∈ text, Text.isBlank c = false)
      (runs : Text.Runs separates text fields) (reading : Reading fields result) :
      Told line (result.map some)

def Fields (line : List Char) (fields : List (List Char)) : Prop :=
  ∃ text, Uncommented line text ∧ Text.Runs separates text fields

variable {z : Int} {line text : List Char} {fields : List (List Char)} {category : Category}
  {held : Option Int64}

theorem nameExact : Category.ofName? text = some category ↔
    text.map Char.toLower = category.name.toList.map Char.toLower := by
  constructor
  · intro found
    have same := List.find?_some found
    exact (eq_of_beq same).symm
  · intro anyCase
    simp only [Category.ofName?, Text.sameWord, anyCase]
    cases category <;> decide

theorem digitNoLetter : ∀ d < 10, (Nat.digitChar d).toLower.isAlpha = false ∧
    (Nat.digitChar d).toUpper.toLower.isAlpha = false := by
  decide

theorem nameUnsigned (anyCase : text.map Char.toLower = category.name.toList.map Char.toLower) :
    ¬ Text.Signed text z := by
  intro numeral
  have digit : ∀ d c, Text.DigitOf 10 d c → c.toLower.isAlpha = false := by
    rintro d c ⟨small, rfl | rfl⟩
    · exact (digitNoLetter d small).1
    · exact (digitNoLetter d small).2
  have plain : ∀ c ∈ text, c.toLower.isAlpha = false :=
    Text.signedAll (by decide) (by decide) digit numeral
  have letters : (text.map Char.toLower).any Char.isAlpha = true := by
    rw [anyCase]
    cases category <;> decide
  obtain ⟨c, there, letter⟩ := List.any_eq_true.mp letters
  obtain ⟨b, member, rfl⟩ := List.mem_map.mp there
  rw [plain b member] at letter
  contradiction

theorem signedNumber : Text.signed? 0x80000000 text = some (category.number : Int) ↔
    Text.Signed text category.number := by
  rw [Text.signedExact (by decide)]
  have bounds : -(0x80000000 : Int) ≤ category.number ∧ (category.number : Int) < 0x80000000 := by
    cases category <;> decide
  exact ⟨And.left, fun numeral => ⟨numeral, bounds⟩⟩

theorem categoryExact :
    Category.ofText? text = some category ↔ CategoryWord category (Text.trim text) := by
  rw [Category.ofText?]
  split
  · next z read =>
    have numeral := ((Text.signedExact (by decide)).mp read).1
    rw [Category.numberExact]
    constructor
    · rintro rfl
      exact .number numeral
    · rintro (same | anyCase)
      · rw [signedNumber.mpr same] at read
        exact (Option.some.inj read).symm
      · exact absurd numeral (nameUnsigned anyCase)
  · next unread =>
    rw [nameExact]
    constructor
    · exact .name
    · rintro (numeral | anyCase)
      · rw [signedNumber.mpr numeral] at unread
        contradiction
      · exact anyCase

theorem heldExact : code? text = some held ↔ Held held (Text.trim text) := by
  cases held with
  | none =>
    rw [codeAbsent]
    exact ⟨.none, fun | .none absent => absent⟩
  | some word =>
    rw [codePresent]
    exact ⟨.some, fun | .some written => written⟩

theorem contentOf (before : Uncommented line text) : content line = text := by
  have kept : ∀ c ∈ text, decide (c ≠ '#') = true := by
    intro c there
    rw [decide_eq_true_iff]
    rintro rfl
    exact before.unmarked there
  rcases before.cut with rfl | ⟨comment, rfl⟩
  · have whole := @List.takeWhile_append_of_pos _ _ line [] kept
    rwa [List.append_nil, List.takeWhile_nil, List.append_nil] at whole
  · rw [content, List.takeWhile_append_of_pos kept]
    simp

theorem uncommented (line : List Char) : Uncommented line (content line) := by
  have whole := @List.takeWhile_append_dropWhile _ (fun c => decide (c ≠ '#')) line
  refine ⟨?_, ?_⟩
  · intro there
    have other := List.all_eq_true.mp List.all_takeWhile _ there
    simp at other
  · cases rest : line.dropWhile (fun c => decide (c ≠ '#')) with
    | nil =>
      rw [rest, List.append_nil] at whole
      exact .inl whole.symm
    | cons mark comment =>
      have same : decide (mark ≠ '#') = false := Text.droppedFirst (by rw [rest]; rfl)
      rw [decide_eq_false_iff_not, Decidable.not_not] at same
      rw [rest, same] at whole
      exact .inr ⟨comment, whole.symm⟩

theorem runsUnblank (runs : Text.Runs separates text fields) :
    ∀ field ∈ fields, Text.trim field = field := by
  induction runs with
  | gap => simp
  | @field gap word rest words _ _ uncut _ _ ih =>
    refine List.forall_mem_cons.mpr ⟨?_, ih⟩
    apply Text.trimUnblank
    intro c there
    have plain := uncut c there
    rw [separates, Bool.or_eq_false_iff] at plain
    exact plain.1

theorem categoryKnown (unblank : Text.trim text = text) (known : CategoryWord category text) :
    Input.category (String.ofList text) = .ok category := by
  rw [Input.category, acceptOk, String.toList_ofList, categoryExact, unblank]
  exact known

theorem categoryUnknown (unblank : Text.trim text = text)
    (unknown : ∀ category, ¬ CategoryWord category text) :
    Input.category (String.ofList text) = .error (.category (String.ofList text)) := by
  rw [Input.category, acceptError, String.toList_ofList, Option.eq_none_iff_forall_ne_some]
  refine ⟨?_, rfl⟩
  intro category read
  rw [categoryExact, unblank] at read
  exact unknown category read

theorem codeHeld (unblank : Text.trim text = text) (written : Held held text) :
    code (String.ofList text) = .ok held := by
  rw [code, acceptOk, String.toList_ofList, heldExact, unblank]
  exact written

theorem codeUnread (unblank : Text.trim text = text) (unread : ∀ held, ¬ Held held text) :
    code (String.ofList text) = .error (.code (String.ofList text)) := by
  rw [code, acceptError, String.toList_ofList, Option.eq_none_iff_forall_ne_some]
  refine ⟨?_, rfl⟩
  intro held read
  rw [heldExact, unblank] at read
  exact unread held read

theorem readingRead {result : Except Problem Fault} (reading : Reading fields result)
    (unblank : ∀ field ∈ fields, Text.trim field = field) :
    tripleOf (fields.map String.ofList) = result := by
  cases reading with
  | count other =>
    match fields with
    | [] | [_] | [_, _] => rfl
    | [_, _, _] => exact absurd rfl other
    | _ :: _ :: _ :: _ :: _ => simp [tripleOf]
  | category unknown =>
    have first := categoryUnknown (unblank _ (by simp)) unknown
    change triple _ _ _ = _
    rw [triple, first]
    rfl
  | code known unread =>
    have first := categoryKnown (unblank _ (by simp)) known
    have second := codeUnread (unblank _ (by simp)) unread
    change triple _ _ _ = _
    rw [triple, first, second]
    rfl
  | subcode known written unread =>
    have first := categoryKnown (unblank _ (by simp)) known
    have second := codeHeld (unblank _ (by simp)) written
    have third := codeUnread (unblank _ (by simp)) unread
    change triple _ _ _ = _
    rw [triple, first, second, third]
    rfl
  | triple known written last =>
    have first := categoryKnown (unblank _ (by simp)) known
    have second := codeHeld (unblank _ (by simp)) written
    have third := codeHeld (unblank _ (by simp)) last
    change triple _ _ _ = _
    rw [triple, first, second, third]
    rfl

theorem readingThree (first second third : List Char) :
    ∃ result, Reading [first, second, third] result := by
  by_cases known : ∃ category, CategoryWord category first
  · obtain ⟨category, known⟩ := known
    by_cases written : ∃ held, Held held second
    · obtain ⟨held, written⟩ := written
      by_cases last : ∃ held, Held held third
      · obtain ⟨held', last⟩ := last
        exact ⟨_, @Reading.triple ⟨category, held, held'⟩ _ _ _ known written last⟩
      · exact ⟨_, .subcode known written (not_exists.mp last)⟩
    · exact ⟨_, .code known (not_exists.mp written)⟩
  · exact ⟨_, .category (not_exists.mp known)⟩

theorem readingOf (fields : List (List Char)) : ∃ result, Reading fields result := by
  by_cases other : fields.length = 3
  · match fields, other with
    | [first, second, third], _ => exact readingThree first second third
  · exact ⟨_, .count other⟩

theorem toldRead {result : Except Problem (Option Fault)} (told : Told line result) :
    lineOf line = result := by
  cases told with
  | blank before blank =>
    rw [lineOf, contentOf before, if_pos (List.all_eq_true.mpr blank)]
  | fields before solid runs reading =>
    obtain ⟨c, there, unblank⟩ := solid
    rw [lineOf, fieldsOf, contentOf before, if_neg, Text.runsExact.mp runs,
      readingRead reading (runsUnblank runs)]
    intro blank
    rw [List.all_eq_true.mp blank c there] at unblank
    contradiction

theorem toldOf (line : List Char) : ∃ result, Told line result := by
  have before := uncommented line
  by_cases solid : ∃ c ∈ content line, Text.isBlank c = false
  · obtain ⟨words, runs⟩ := @Text.runsOf separates (content line)
    obtain ⟨result, reading⟩ := readingOf words
    exact ⟨_, .fields before solid runs reading⟩
  · refine ⟨_, .blank before ?_⟩
    intro c there
    rw [← Bool.not_eq_false]
    exact fun unblank => solid ⟨c, there, unblank⟩

theorem toldExact {result : Except Problem (Option Fault)} :
    lineOf line = result ↔ Told line result := by
  constructor
  · rintro rfl
    obtain ⟨result, told⟩ := toldOf line
    rwa [toldRead told]
  · exact toldRead

theorem lineSplit (nonempty : fieldsOf line ≠ []) :
    lineOf line = (tripleOf (fieldsOf line)).map some := by
  rw [lineOf, if_neg]
  intro blank
  have run : ∀ c ∈ content line, separates c = true := by
    intro c there
    rw [separates, List.all_eq_true.mp blank c there, Bool.true_or]
  have gone := @Text.fieldsTrail _ [] _ run
  rw [List.nil_append] at gone
  exact nonempty (by rw [fieldsOf, gone]; rfl)

theorem fieldsRead {result : Except Problem Fault} (nonempty : fields ≠ [])
    (has : Fields line fields) (reading : Reading fields result) :
    lineOf line = result.map some := by
  obtain ⟨text, before, runs⟩ := has
  have split : fieldsOf line = fields.map String.ofList := by
    rw [fieldsOf, contentOf before, Text.runsExact.mp runs]
  rw [lineSplit (by rw [split]; simpa using nonempty), split,
    readingRead reading (runsUnblank runs)]

theorem lineExact :
    (∀ typed result, Input.line typed = result ↔ Told typed.toList result) ∧
    (∀ typed first second third number, Fields typed.toList [first, second, third] →
      Text.Signed first number → (∀ category : Category, (category.number : Int) ≠ number) →
        Input.line typed = .error (.category (String.ofList first))) ∧
    ∀ typed other fields, fields ≠ [] → Fields typed.toList fields →
      Fields other.toList fields → Input.line typed = Input.line other := by
  refine ⟨fun _ _ => toldExact, ?_, ?_⟩
  · intro typed first second third number has numeral unnumbered
    have unknown : ∀ category, ¬ CategoryWord category first := by
      rintro category (own | anyCase)
      · exact unnumbered category (Text.signedOne own numeral)
      · exact nameUnsigned anyCase numeral
    exact fieldsRead (by simp) has (.category unknown)
  · intro typed other fields some has same
    obtain ⟨result, reading⟩ := readingOf fields
    exact (fieldsRead some has reading).trans (fieldsRead some same reading).symm

theorem unwrappedNumber :
    Input.line "4294967297 1,2 # one, were it wrapped" = .error (.category "4294967297") ∧
      Input.line "software,, 1\t-" = Input.line " software 1 -,# the same" := by
  obtain ⟨-, refused, same⟩ := lineExact
  have has : Fields "4294967297 1,2 # one, were it wrapped".toList
      ["4294967297".toList, ['1'], ['2']] :=
    ⟨_, uncommented _, Text.runsExact.mpr (by decide)⟩
  have numeral : Text.Signed "4294967297".toList ((4294967297 : Nat) : Int) :=
    .unsigned (.bare ((Text.digitsExact Text.ten).mp (by decide)))
  have commas : Fields "software,, 1\t-".toList ["software".toList, ['1'], ['-']] :=
    ⟨_, uncommented _, Text.runsExact.mpr (by decide)⟩
  have blanks : Fields " software 1 -,# the same".toList ["software".toList, ['1'], ['-']] :=
    ⟨_, uncommented _, Text.runsExact.mpr (by decide)⟩
  refine ⟨refused _ _ _ _ _ has numeral ?_, same _ _ _ (by simp) commas blanks⟩
  intro category
  cases category <;> decide

end FaultWatch.Input
