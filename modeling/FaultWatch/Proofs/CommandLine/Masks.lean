import FaultWatch.CommandLine.Outcome
import FaultWatch.Proofs.CommandLine.Arguments
import FaultWatch.Proofs.Input.Line
import FaultWatch.Proofs.Input.Mask

/-! Masks, sets of categories, lists of names and mask text. Each is got from each of the others,
the unknown bits of a mask apart, which only the mask itself keeps. So the command that prints a
mask and the one that prints its categories undo each other. The main statement is `masksAgree`. -/
namespace FaultWatch.CommandLine

structure MasksAgree : Prop where
  members : ∀ cs c, c ∈ (Mask.ofCategories cs).categories ↔ c ∈ cs
  joined : ∀ cs more, Mask.ofCategories (cs ++ more) =
    (Mask.ofCategories cs).union (Mask.ofCategories more)
  numbering : ∀ m : Mask, m.categories.Pairwise (·.number < ·.number)
  known : ∀ a b : Mask, a.categories = b.categories ↔ a.truncate = b.truncate
  back : ∀ m : Mask, Mask.ofCategories m.categories = m.truncate
  union : ∀ (a b : Mask) c, c ∈ (a.union b).categories ↔ c ∈ a.categories ∨ c ∈ b.categories
  intersection : ∀ (a b : Mask) c,
    c ∈ (a.intersection b).categories ↔ c ∈ a.categories ∧ c ∈ b.categories
  text : ∀ m : Mask, Input.mask m.hexText = .ok m.truncate
  names : ∀ m : Mask, Input.maskNamed m.categoryNames = .ok m.truncate
  words : ∀ words,
    (∃ cs, Input.Names words cs ∧ Input.maskNamed words = .ok (Mask.ofCategories cs)) ∨
      ∃ word, Input.FirstUnknown words word ∧ Input.maskNamed words = .error (.category word)
  printed : ∀ (read : String → Except ReadError String) words cs, words ≠ [] →
    Input.Names words cs → let shown := (Mask.ofCategories cs).hexText
      run read ("mask" :: words) = ⟨0, ended shown, ""⟩ ∧
        ∀ passed : String, Text.trim passed.toList = shown.toList →
          run read ["categories", passed] =
            ⟨0, unlines ((Category.all.filter (· ∈ cs)).map Category.name), ""⟩

variable {c : Category} {word passed : String} {words : List String} {cs : List Category}
  {m : Mask} {options : Options} {read : String → Except ReadError String}

theorem plainTrimmed (head : (Text.trim word.toList).head? ≠ some '-') : Plain word := by
  have hyphen : ∀ rest, word.toList ≠ '-' :: rest := by
    intro rest opens
    rw [opens, Text.trimHead (by decide)] at head
    exact head rfl
  constructor
  · rintro rfl
    exact hyphen ['h'] rfl
  · rintro ⟨rest, opens⟩
    exact hyphen ('-' :: rest) opens.symm

theorem minusNumber {rest : List Char} {z : Int} (numeral : Text.Signed ('-' :: rest) z) :
    z ≤ 0 := by
  cases numeral with
  | unsigned numeral =>
    have lacks := Text.unsignedLack Text.ten (Text.minusUnread 10 Text.ten.few) (by decide) numeral
    exact absurd List.mem_cons_self lacks
  | minus digits => omega

theorem nameHead {text : List Char} (word : Input.CategoryWord c text) :
    text.head? ≠ some '-' := by
  intro hyphen
  obtain ⟨rest, rfl⟩ := List.head?_eq_some_iff.mp hyphen
  cases word with
  | number numeral =>
    have positive : 0 < c.number := by cases c <;> decide
    have negative := minusNumber numeral
    omega
  | name anyCase =>
    have heads := congrArg List.head? anyCase
    revert heads
    cases c <;> simp [Category.name]

theorem namesPlain (named : Input.Names words cs) : ∀ word ∈ words, Plain word := by
  induction named with
  | nil => simp
  | cons known _ ih =>
    exact List.forall_mem_cons.mpr ⟨plainTrimmed (nameHead (Input.categoryExact.mp known)), ih⟩

theorem plainSpelled (plain : ∀ word ∈ words, Plain word) :
    Spelled options words words options := by
  induction words with
  | nil => exact .nil
  | cons word words ih =>
    obtain ⟨here, later⟩ := List.forall_mem_cons.mp plain
    exact .word here (ih later)

theorem maskPrinted (some : words ≠ []) (named : Input.Names words cs) :
    run read ("mask" :: words) = ⟨0, ended (Mask.ofCategories cs).hexText, ""⟩ := by
  have spelled : Spelled .none words words .none := plainSpelled (namesPlain named)
  have command : maskCommand words = .ok (.mask words) := by
    cases words with
    | nil => contradiction
    | cons => rfl
  rw [run, requestRead (by decide) spelled]
  change respond read ((withoutOptions "mask" .none (maskCommand words)).map .run) = _
  rw [withoutOptions, if_pos rfl, command]
  change runMask words = _
  rw [runMask, Input.namesMask named]
  simp [Outcome.results, unlines]

theorem categoriesPrinted (shown : Text.trim passed.toList = m.hexText.toList) :
    run read ["categories", passed] = ⟨0, unlines (m.categories.map Category.name), ""⟩ := by
  have plain : Plain passed := by
    apply plainTrimmed
    rw [shown, Mask.hexText, String.toList_ofList]
    simp [Text.hexadecimal]
  rw [run, requestRead (by decide) (.word plain .nil)]
  change runCategories passed = _
  rw [runCategories, Input.maskRead shown]
  simp only [Mask.categoryNames, Mask.categoriesTruncate, Outcome.results]

theorem masksAgree : MasksAgree where
  members _ _ := by rw [Mask.categoriesMember, Mask.includesOf]
  joined _ _ := Mask.ofAppend
  numbering _ := Mask.categoriesRising
  known _ _ := Mask.categoriesSame
  back _ := Mask.ofCategoriesAll
  union a b c := by
    simp only [Mask.categoriesMember, Mask.includesUnion, Bool.or_eq_true]
  intersection a b c := by
    simp only [Mask.categoriesMember, Mask.includesIntersection, Bool.and_eq_true]
  text _ := Input.maskRead Input.hexadecimalSolid.unblank
  names _ := Input.namesRead
  words := Input.maskTold
  printed read words cs some named := by
    refine ⟨maskPrinted some named, fun passed shown => ?_⟩
    rw [categoriesPrinted shown, Mask.categoriesOf]

theorem repeatedNamesPrinted :
    let read : String → Except ReadError String := fun _ => .error .notFound
    let words := ["arithmetic", " 1", "BAD-ACCESS"]
    Input.Names words [.arithmetic, .badAccess, .badAccess] ∧
      run read ("mask" :: words) = ⟨0, ended "0xa", ""⟩ ∧
      run read ["categories", ended "0xa"] = ⟨0, unlines ["bad-access", "arithmetic"], ""⟩ ∧
      Input.mask (Mask.hexText ⟨0xffff000b⟩) = .ok ⟨0xa⟩ := by
  intro read words
  have named : Input.Names words [.arithmetic, .badAccess, .badAccess] :=
    .cons rfl (.cons rfl (.cons rfl .nil))
  obtain ⟨mask, categories⟩ := masksAgree.printed read words _ (by simp [words]) named
  exact ⟨named, mask, categories _ (by decide), masksAgree.text _⟩

end FaultWatch.CommandLine
