import FaultWatch.Proofs.Input.Code
import FaultWatch.Proofs.Input.Word
import FaultWatch.Proofs.Mask

/-! Masks typed in and shown. A shown mask is read as itself without its unknown bits, by its
hexadecimal text as well as by the names of its categories. Words are read as the mask of the
categories that they name, or the first that names none is refused. The main statements are
`maskRead`, `namesRead` and `maskTold`. -/
namespace FaultWatch.Input

inductive Names : List String → List Category → Prop
  | nil : Names [] []
  | cons {word : String} {c : Category} {words : List String} {cs : List Category}
      (known : Category.ofText? word.toList = some c) (more : Names words cs) :
      Names (word :: words) (c :: cs)

inductive FirstUnknown : List String → String → Prop
  | here {word : String} {words : List String} (unknown : Category.ofText? word.toList = none) :
      FirstUnknown (word :: words) word
  | later {word unknown : String} {c : Category} {words : List String}
      (known : Category.ofText? word.toList = some c) (more : FirstUnknown words unknown) :
      FirstUnknown (word :: words) unknown

variable {typed word : String} {words : List String} {m : Mask} {cs : List Category}

theorem hexadecimalSolid : Solid m.hexText.toList := by
  rw [Mask.hexText, String.toList_ofList]
  exact ((digitsSolid Text.sixteen).after (by decide)).after (by decide)

theorem maskRead (shown : Text.trim typed.toList = m.hexText.toList) :
    mask typed = .ok m.truncate := by
  have bits : maskBits? m.hexText.toList = some m.bits.toNat := by
    rw [Mask.hexText, String.toList_ofList]
    exact Text.unsignedRead Text.sixteen m.bits.toNat_lt
  rw [mask, rawMask, shown, bits, Option.map_some, UInt32.ofNat_toNat]
  rfl

theorem categoriesCons : categories (word :: words) =
    (category word).bind fun c => (categories words).map (c :: ·) := by
  rw [categories, List.mapM_cons]
  rfl

theorem namesCategories (named : Names words cs) : categories words = .ok cs := by
  induction named with
  | nil => rfl
  | cons known _ ih =>
    rw [categoriesCons, category, acceptOk.mpr known, ih]
    rfl

theorem unknownRefused (first : FirstUnknown words word) :
    categories words = .error (.category word) := by
  induction first with
  | here unknown =>
    rw [categoriesCons, category, acceptError.mpr ⟨unknown, rfl⟩]
    rfl
  | later known _ ih =>
    rw [categoriesCons, category, acceptOk.mpr known, ih]
    rfl

theorem namesOrUnknown (words : List String) :
    (∃ cs, Names words cs) ∨ ∃ word, FirstUnknown words word := by
  induction words with
  | nil => exact .inl ⟨[], .nil⟩
  | cons word words ih =>
    cases known : Category.ofText? word.toList with
    | none => exact .inr ⟨word, .here known⟩
    | some c =>
      rcases ih with ⟨cs, more⟩ | ⟨unknown, more⟩
      · exact .inl ⟨c :: cs, .cons known more⟩
      · exact .inr ⟨unknown, .later known more⟩

theorem namesMask (named : Names words cs) : maskNamed words = .ok (Mask.ofCategories cs) := by
  rw [maskNamed, namesCategories named]
  rfl

theorem maskTold (words : List String) :
    (∃ cs, Names words cs ∧ maskNamed words = .ok (Mask.ofCategories cs)) ∨
      ∃ word, FirstUnknown words word ∧ maskNamed words = .error (.category word) := by
  rcases namesOrUnknown words with ⟨cs, named⟩ | ⟨word, first⟩
  · exact .inl ⟨cs, named, namesMask named⟩
  · refine .inr ⟨word, first, ?_⟩
    rw [maskNamed, unknownRefused first]
    rfl

theorem ownNames (cs : List Category) : Names (cs.map Category.name) cs := by
  induction cs with
  | nil => exact .nil
  | cons c cs ih => exact .cons (categoryRead .name) ih

theorem namesRead : maskNamed m.categoryNames = .ok m.truncate := by
  have own := namesMask (ownNames m.categories)
  rwa [Mask.ofCategoriesAll] at own

end FaultWatch.Input
