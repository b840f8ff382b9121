/-! Numerals. Reading takes at most one sign, then at least one digit and nothing else; leading
zeros are allowed, group marks are not, and a value outside the stated range is refused. Writing
gives the shortest digits, with lower-case letters in base sixteen. -/
namespace FaultWatch.Text

def digitValue? (base : Nat) (c : Char) : Option Nat :=
  let value :=
    if '0' ≤ c ∧ c ≤ '9' then c.toNat - '0'.toNat
    else if 'a' ≤ c ∧ c ≤ 'z' then c.toNat - 'a'.toNat + 10
    else if 'A' ≤ c ∧ c ≤ 'Z' then c.toNat - 'A'.toNat + 10
    else base
  if value < base then some value else none

def digitsFrom? (base value : Nat) : List Char → Option Nat
  | [] => some value
  | c :: rest => do digitsFrom? base (value * base + (← digitValue? base c)) rest

def digits? (base : Nat) (cs : List Char) : Option Nat :=
  if cs = [] then none else digitsFrom? base 0 cs

def natural? (base : Nat) : List Char → Option Nat
  | '+' :: rest => digits? base rest
  | cs => digits? base cs

def unsigned? (base bound : Nat) (cs : List Char) : Option Nat :=
  (natural? base cs).filter (· < bound)

def signed? (half : Nat) : List Char → Option Int
  | '-' :: rest => ((digits? 10 rest).filter (· ≤ half)).map fun n => -(n : Int)
  | cs => ((natural? 10 cs).filter (· < half)).map fun n => (n : Int)

def decimal (n : Nat) : List Char := Nat.toDigits 10 n

def signedDecimal : Int → List Char
  | .ofNat n => decimal n
  | .negSucc n => '-' :: decimal (n + 1)

def hexadecimal (n : Nat) : List Char := '0' :: 'x' :: Nat.toDigits 16 n

end FaultWatch.Text
