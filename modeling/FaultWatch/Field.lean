/-! Bit fields of a 64-bit word. A field covers the bits from `lsb` to `msb`, both included; a field
over all 64 bits is allowed. Writing reduces the value to the width of the field and leaves every
other bit alone. A reversed range is refused before one that lies too high. -/
namespace FaultWatch

def wordBits : Nat := 64

structure Field where
  name : String
  lsb : Nat
  msb : Nat
  ordered : lsb ≤ msb := by decide
  fits : msb < wordBits := by decide
  deriving DecidableEq, Repr

namespace Field

inductive Refusal
  | reversed
  | tooHigh
  deriving DecidableEq, Repr

def Refusal.message : Refusal → String
  | .reversed => "field lsb must not exceed msb"
  | .tooHigh => "field must fit in 64 bits"

def make (name : String) (lsb msb : Nat) : Except Refusal Field :=
  if ordered : lsb ≤ msb then
    if fits : msb < wordBits then .ok ⟨name, lsb, msb, ordered, fits⟩ else .error .tooHigh
  else .error .reversed

def width (f : Field) : Nat := f.msb - f.lsb + 1

def mask (f : Field) : UInt64 :=
  if f.width ≥ wordBits then 0xffffffffffffffff else (1 <<< UInt64.ofNat f.width) - 1

def extract (f : Field) (word : UInt64) : UInt64 := (word >>> UInt64.ofNat f.lsb) &&& f.mask

def insert (f : Field) (word value : UInt64) : UInt64 :=
  (word &&& ~~~(f.mask <<< UInt64.ofNat f.lsb)) ||| ((value &&& f.mask) <<< UInt64.ofNat f.lsb)

def overlaps (f g : Field) : Bool := f.lsb ≤ g.msb && g.lsb ≤ f.msb

end Field
end FaultWatch
