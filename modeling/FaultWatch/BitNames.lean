import FaultWatch.Text.Blank
import FaultWatch.Text.Split
import FaultWatch.Term

/-! The text of a set of bits some of which have names: the names of the bits that are set, in the
order of the table, then what is left as one hexadecimal number, all joined by bars. The empty set
has the empty text. Reading takes names and hexadecimal numbers in any order and keeps bits
without a name. -/
namespace FaultWatch

abbrev BitNames := List (String × Nat)

namespace BitNames

def known (names : BitNames) : Nat := names.foldl (fun bits entry => bits ||| 1 <<< entry.2) 0

def unnamed (names : BitNames) (bits : Nat) : Nat := bits ^^^ (bits &&& names.known)

def words (names : BitNames) (bits : Nat) : List (List Char) :=
  (names.filter fun entry => bits.testBit entry.2).map (·.1.toList) ++
    (if names.unnamed bits = 0 then [] else [Text.hexadecimal (names.unnamed bits)])

def text (names : BitNames) (bits : Nat) : List Char :=
  List.intercalate " | ".toList (names.words bits)

def term (names : BitNames) (bits : Nat) : Term :=
  .word (if bits = 0 then Text.hexadecimal 0 else names.text bits)

def word? (names : BitNames) (bound : Nat) : List Char → Option Nat
  | '0' :: 'x' :: digits => Text.unsigned? 16 bound digits
  | word => (names.find? (·.1.toList == word)).map (1 <<< ·.2)

def words? (names : BitNames) (bound : Nat) : List (List Char) → Option Nat
  | [] => some 0
  | word :: rest => do
    return (← names.word? bound (Text.trim word)) ||| (← names.words? bound rest)

def read? (names : BitNames) (bound : Nat) (cs : List Char) : Option Nat :=
  if Text.trim cs = [] then some 0 else names.words? bound (Text.pieces (· == '|') cs)

end BitNames
end FaultWatch
