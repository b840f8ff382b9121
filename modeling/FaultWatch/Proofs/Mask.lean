import FaultWatch.Mask

/-! Masks as sets of categories. Each category has a number and a bit of its own, so a mask made of
some categories includes just these, two masks with the same categories have the same known bits,
and a mask made of the categories of another is that one without its unknown bits. The main
statements are `includesOf`, `categoriesSame` and `ofCategoriesAll`. -/
namespace FaultWatch

theorem Category.numberSmall (c : Category) : c.number < 32 := by cases c <;> decide

theorem Category.numberSame {c other : Category} : c.number = other.number ↔ c = other := by
  constructor
  · cases c <;> cases other <;> simp [number]
  · rintro rfl
    rfl

theorem Category.numberExact {z : Int} {c : Category} :
    Category.ofNumber? z = some c ↔ z = c.number := by
  constructor
  · intro found
    have same := List.find?_some found
    exact (eq_of_beq same).symm
  · rintro rfl
    cases c <;> rfl

namespace Mask

variable {a b m : Mask} {c other : Category} {categories : List Category}

theorem maskBits : c.mask.bits.toBitVec = BitVec.twoPow 32 c.number := by
  cases c <;> rfl

theorem includesBit : m.includes c = m.bits.toBitVec.getLsbD c.number := by
  have small := c.numberSmall
  simp only [includes, intersection]
  rw [Bool.eq_iff_iff, beq_iff_eq, ← UInt32.toBitVec_inj, UInt32.toBitVec_and, maskBits]
  constructor
  · intro same
    have bit := congrArg (BitVec.getLsbD · c.number) same
    simpa [small] using bit
  · intro bit
    apply BitVec.eq_of_getLsbD_eq
    intro i inside
    simp only [BitVec.getLsbD_and, BitVec.getLsbD_twoPow]
    by_cases here : c.number = i
    · simp [← here, bit, small]
    · simp [here]

theorem includesUnion : (a.union b).includes c = (a.includes c || b.includes c) := by
  simp [includesBit, union]

theorem includesMask : other.mask.includes c = decide (c = other) := by
  have small := other.numberSmall
  rw [includesBit, maskBits, BitVec.getLsbD_twoPow]
  simp [small, Category.numberSame, eq_comm]

theorem includesFold : (categories.foldl (fun m c => m.union c.mask) m).includes c = true ↔
    m.includes c = true ∨ c ∈ categories := by
  induction categories generalizing m with
  | nil => simp
  | cons head tail ih =>
    rw [List.foldl_cons, ih, includesUnion, includesMask]
    simp [or_assoc]

theorem includesIntersection :
    (a.intersection b).includes c = (a.includes c && b.includes c) := by
  simp [includesBit, intersection]

theorem includesOf : (ofCategories categories).includes c = true ↔ c ∈ categories := by
  rw [ofCategories, includesFold]
  simp [includesBit, empty]

theorem allMember (c : Category) : c ∈ Category.all := by cases c <;> decide

theorem allRising : Category.all.Pairwise (·.number < ·.number) := by decide

theorem categoriesMember : c ∈ m.categories ↔ m.includes c = true := by
  rw [Mask.categories, List.mem_filter]
  exact and_iff_right (allMember c)

theorem categoriesOf : (ofCategories categories).categories =
    Category.all.filter (· ∈ categories) := by
  rw [Mask.categories]
  refine List.filter_congr fun c _ => ?_
  rw [Bool.eq_iff_iff, includesOf, decide_eq_true_iff]

theorem categoriesRising : m.categories.Pairwise (·.number < ·.number) := allRising.filter _

theorem knownMember {i : Nat} (small : i < 32) :
    allCategories.bits.toBitVec.getLsbD i = true ↔ ∃ c : Category, c.number = i := by
  constructor
  · intro known
    have some : ∀ i < 32, allCategories.bits.toBitVec.getLsbD i = true →
        ∃ c ∈ Category.all, c.number = i := by
      decide
    obtain ⟨c, -, same⟩ := some i small known
    exact ⟨c, same⟩
  · rintro ⟨c, rfl⟩
    rw [← includesBit, allCategories, includesOf]
    exact allMember c

theorem includesTruncate : m.truncate.includes c = m.includes c := by
  have known : allCategories.includes c = true := includesOf.mpr (allMember c)
  rw [truncate, includesIntersection, known, Bool.and_true]

theorem truncateSame : a.truncate = b.truncate ↔ ∀ c, a.includes c = b.includes c := by
  constructor
  · intro same c
    rw [← includesTruncate, same, includesTruncate]
  · intro alike
    have bits : a.truncate.bits = b.truncate.bits := by
      apply UInt32.toBitVec_inj.mp
      apply BitVec.eq_of_getLsbD_eq
      intro i small
      simp only [truncate, intersection, UInt32.toBitVec_and, BitVec.getLsbD_and]
      cases known : allCategories.bits.toBitVec.getLsbD i with
      | false => simp
      | true =>
        obtain ⟨c, rfl⟩ := (knownMember small).mp known
        rw [← includesBit, ← includesBit, alike]
    exact congrArg Mask.mk bits

theorem categoriesSame : a.categories = b.categories ↔ a.truncate = b.truncate := by
  rw [truncateSame]
  constructor
  · intro same c
    rw [Bool.eq_iff_iff, ← categoriesMember, same, categoriesMember]
  · intro alike
    rw [Mask.categories, Mask.categories, funext alike]

theorem categoriesTruncate : m.truncate.categories = m.categories :=
  categoriesSame.mpr (truncateSame.mpr fun _ => includesTruncate)

theorem unionAssoc {d : Mask} : (a.union b).union d = a.union (b.union d) := by
  simp [union, UInt32.or_assoc]

theorem foldUnion :
    categories.foldl (fun m c => m.union c.mask) m = m.union (ofCategories categories) := by
  rw [ofCategories]
  induction categories generalizing m with
  | nil => simp [union, empty]
  | cons head tail ih =>
    rw [List.foldl_cons, List.foldl_cons, ih, @ih (empty.union head.mask), ← unionAssoc]
    simp [union, empty]

theorem ofAppend {more : List Category} :
    ofCategories (categories ++ more) = (ofCategories categories).union (ofCategories more) := by
  rw [ofCategories, List.foldl_append, foldUnion]
  rfl

theorem truncateUnion : (a.union b).truncate = a.truncate.union b.truncate := by
  have distributes : (a.bits ||| b.bits) &&& allCategories.bits =
      a.bits &&& allCategories.bits ||| b.bits &&& allCategories.bits := by
    rw [← UInt32.toBitVec_inj]
    exact BitVec.and_or_distrib_right
  rw [truncate, intersection, union, distributes]
  rfl

theorem truncateOf : (ofCategories categories).truncate = ofCategories categories := by
  induction categories with
  | nil => decide
  | cons head tail ih =>
    have own : (ofCategories [head]).truncate = ofCategories [head] := by cases head <;> decide
    rw [← List.singleton_append, ofAppend, truncateUnion, own, ih]

theorem ofCategoriesAll : ofCategories m.categories = m.truncate := by
  rw [← truncateOf, truncateSame]
  intro c
  rw [Bool.eq_iff_iff, includesOf, categoriesMember]

end Mask
end FaultWatch
