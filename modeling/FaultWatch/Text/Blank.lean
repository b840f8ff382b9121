/-! The blank characters are those with the Unicode property White_Space. Zero-width space, byte
order mark and the ASCII separators 1C to 1F do not have it. -/
namespace FaultWatch.Text

def isBlank (c : Char) : Bool :=
  (0x09 ≤ c.toNat && c.toNat ≤ 0x0D) || c.toNat == 0x20 || c.toNat == 0x85 || c.toNat == 0xA0 ||
  c.toNat == 0x1680 || (0x2000 ≤ c.toNat && c.toNat ≤ 0x200A) ||
  c.toNat == 0x2028 || c.toNat == 0x2029 || c.toNat == 0x202F || c.toNat == 0x205F ||
  c.toNat == 0x3000

def trim (cs : List Char) : List Char :=
  ((cs.dropWhile isBlank).reverse.dropWhile isBlank).reverse

def sameWord (a b : List Char) : Bool := a.map Char.toLower == b.map Char.toLower

end FaultWatch.Text
