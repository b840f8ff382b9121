import FaultWatch.Category

/-! A fault as delivered: its category and up to two 64-bit words. An absent word differs from zero.
In text a word is hexadecimal, a negative one by its two's complement, and an absent one is a
hyphen. What an exception carries beyond two words is ignored. -/
namespace FaultWatch

structure Fault where
  category : Category
  code : Option Int64
  subcode : Option Int64
  deriving DecidableEq, Repr

namespace Fault

def ofException? (number : Int) (words : List Int64) : Option Fault :=
  (Category.ofNumber? number).map fun c => ⟨c, words[0]?, words[1]?⟩

def wordText : Option Int64 → List Char
  | some word => Text.hexadecimal word.toUInt64.toNat
  | none => ['-']

def text (raw : Fault) : List Char :=
  raw.category.name.toList ++ '(' :: wordText raw.code ++ ", ".toList ++
    wordText raw.subcode ++ [')']

def wordJson : Option Int64 → Json := Json.ofOption fun word => .number word.toInt

def toJson (raw : Fault) : Json :=
  .object
    [("category", raw.category.toJson), ("code", wordJson raw.code),
      ("subcode", wordJson raw.subcode)]

def ofJson? (j : Json) : Option Fault := do
  let [category, code, subcode] ← j.fields? ["category", "code", "subcode"] | none
  return ⟨← Json.required Category.ofJson? category, ← Json.optional Json.int64? code,
    ← Json.optional Json.int64? subcode⟩

end Fault
end FaultWatch
