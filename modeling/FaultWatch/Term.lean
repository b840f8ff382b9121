import FaultWatch.Text.Numeral

/-! Structured text of a value: a bare word, a head with one argument in parentheses, or a head with
named parts in braces. -/
namespace FaultWatch

inductive Term
  | word (text : List Char)
  | applied (head : String) (argument : Term)
  | record (head : String) (parts : List (String × Term))
  deriving Repr

namespace Term

def name (s : String) : Term := word s.toList

def number (n : Int) : Term := word (Text.signedDecimal n)

mutual

def text : Term → List Char
  | word cs => cs
  | applied head argument => head.toList ++ '(' :: text argument ++ [')']
  | record head parts =>
    head.toList ++ " \x7b ".toList ++ List.intercalate ", ".toList (partTexts parts) ++
      " \x7d".toList

def partTexts : List (String × Term) → List (List Char)
  | [] => []
  | (label, part) :: rest => (label.toList ++ ": ".toList ++ text part) :: partTexts rest

end

end Term
end FaultWatch
