import FaultWatch.Category
import FaultWatch.BitNames

/-! Registration masks. Category number `n` is bit `n` of a 32-bit word; the other bits have no
category. Such bits can be carried along, and `truncate` drops them. -/
namespace FaultWatch

structure Mask where
  bits : UInt32
  deriving DecidableEq, Repr

def Category.mask (c : Category) : Mask := ⟨1 <<< UInt32.ofNat c.number⟩

namespace Mask

def empty : Mask := ⟨0⟩

def union (a b : Mask) : Mask := ⟨a.bits ||| b.bits⟩

def intersection (a b : Mask) : Mask := ⟨a.bits &&& b.bits⟩

def ofCategories (cs : List Category) : Mask := cs.foldl (fun m c => m.union c.mask) empty

def allCategories : Mask := ofCategories Category.all

def hardware : Mask :=
  ofCategories [.badAccess, .badInstruction, .arithmetic, .breakpoint]

def truncate (m : Mask) : Mask := m.intersection allCategories

def leftover (m : Mask) : UInt32 := m.bits &&& ~~~m.truncate.bits

def includes (m : Mask) (c : Category) : Bool := (m.intersection c.mask).bits == c.mask.bits

def categories (m : Mask) : List Category := Category.all.filter m.includes

def names : BitNames := Category.all.map fun c => (c.bitName, c.number)

def text (m : Mask) : List Char := names.text m.bits.toNat

def term (m : Mask) : Term := .applied "FaultMask" (names.term m.bits.toNat)

def ofText? (cs : List Char) : Option Mask :=
  (names.read? UInt32.size cs).map fun bits => ⟨UInt32.ofNat bits⟩

def toJson (m : Mask) : Json := .string (String.ofList m.text)

def ofJson? (j : Json) : Option Mask := j.text?.bind fun s => ofText? s.toList

end Mask
end FaultWatch
