import FaultWatch.Family
import FaultWatch.Mask
import FaultWatch.Fault
import FaultWatch.Text.Split

/-! What people type: categories, families, code words, masks, and triples of words. Blanks around a
word do not matter. A refusal carries the word just as it was typed, and of several bad words the
leftmost is refused. A code word without a minus is a bit pattern, one with a minus a value down to
-2^63; underscores may group hexadecimal digits. A mask as typed keeps bits without a category. -/
namespace FaultWatch

inductive Input.Problem
  | category (word : String)
  | family (word : String)
  | code (word : String)
  | mask (word : String)
  | fieldCount (count : Nat)
  deriving DecidableEq, Repr

def Input.Problem.message : Input.Problem → String
  | .category word => "unknown fault category `" ++ word ++ "`"
  | .family word => "unknown architecture `" ++ word ++ "` (expected arm64 or x86_64)"
  | .code word => "invalid code word `" ++ word ++ "`"
  | .mask word => "invalid mask `" ++ word ++ "`"
  | .fieldCount count => "expected 3 fields, found " ++ String.ofList (Text.decimal count)

namespace Input

def accept (refusal : String → Input.Problem) (word : String) : Option α → Except Input.Problem α
  | some value => .ok value
  | none => .error (refusal word)

def category (word : String) : Except Input.Problem Category :=
  accept .category word (Category.ofText? word.toList)

def family (word : String) : Except Input.Problem Family :=
  accept .family word (Family.ofText? word.toList)

def isAbsent (cs : List Char) : Bool := cs == ['-'] || Text.sameWord "none".toList cs

def magnitude? : List Char → Option Nat
  | '0' :: 'x' :: digits => Text.unsigned? 16 UInt64.size (digits.filter (· ≠ '_'))
  | '0' :: 'X' :: digits => Text.unsigned? 16 UInt64.size (digits.filter (· ≠ '_'))
  | digits => Text.unsigned? 10 UInt64.size digits

def word? : List Char → Option Int64
  | '-' :: digits =>
    ((magnitude? digits).filter (· ≤ 0x8000000000000000)).map fun n => Int64.ofInt (-(n : Int))
  | digits => (magnitude? digits).map fun n => (UInt64.ofNat n).toInt64

def code? (cs : List Char) : Option (Option Int64) :=
  if isAbsent (Text.trim cs) then some none else (word? (Text.trim cs)).map some

def code (word : String) : Except Input.Problem (Option Int64) :=
  accept .code word (code? word.toList)

def maskBits? : List Char → Option Nat
  | '0' :: 'x' :: digits => Text.unsigned? 16 UInt32.size digits
  | '0' :: 'X' :: digits => Text.unsigned? 16 UInt32.size digits
  | digits => Text.unsigned? 10 UInt32.size digits

def rawMask (word : String) : Except Input.Problem Mask :=
  accept .mask word
    ((maskBits? (Text.trim word.toList)).map fun bits => ⟨UInt32.ofNat bits⟩)

def mask (word : String) : Except Input.Problem Mask := do return (← rawMask word).truncate

def categories (words : List String) : Except Input.Problem (List Category) := words.mapM category

def maskNamed (words : List String) : Except Input.Problem Mask := do
  return Mask.ofCategories (← categories words)

def triple (first second third : String) : Except Input.Problem Fault := do
  return ⟨← category first, ← code second, ← code third⟩

end Input

def Mask.hexText (m : Mask) : String := String.ofList (Text.hexadecimal m.bits.toNat)

def Mask.categoryNames (m : Mask) : List String := m.categories.map Category.name

end FaultWatch
