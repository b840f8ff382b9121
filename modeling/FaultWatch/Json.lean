import FaultWatch.Text.Numeral

/-! JSON values and their compact text: members in the order given, no blanks, control characters by
their short escapes or as four hexadecimal digits, all else as it is. Numbers are whole; one with a
fraction or an exponent has no use here and is kept as it is written. -/
namespace FaultWatch

inductive Json
  | null
  | bool (value : Bool)
  | number (value : Int)
  | real (written : String)
  | string (value : String)
  | array (items : List Json)
  | object (members : List (String × Json))
  deriving Repr

namespace Json

def fourDigits (n : Nat) : List Char :=
  List.replicate (4 - (Nat.toDigits 16 n).length) '0' ++ Nat.toDigits 16 n

def escaped (c : Char) : List Char :=
  if c = '"' ∨ c = '\\' then ['\\', c]
  else if c = '\n' then ['\\', 'n']
  else if c = '\r' then ['\\', 'r']
  else if c = '\t' then ['\\', 't']
  else if c.toNat = 8 then ['\\', 'b']
  else if c.toNat = 12 then ['\\', 'f']
  else if c.toNat < 32 then '\\' :: 'u' :: fourDigits c.toNat
  else [c]

def quoted (s : String) : List Char := '"' :: s.toList.flatMap escaped ++ ['"']

mutual

def text : Json → List Char
  | null => "null".toList
  | bool true => "true".toList
  | bool false => "false".toList
  | number n => Text.signedDecimal n
  | real written => written.toList
  | string s => quoted s
  | array items => '[' :: List.intercalate [','] (texts items) ++ [']']
  | object members => '\x7b' :: List.intercalate [','] (memberTexts members) ++ ['\x7d']

def texts : List Json → List (List Char)
  | [] => []
  | item :: rest => text item :: texts rest

def memberTexts : List (String × Json) → List (List Char)
  | [] => []
  | (key, value) :: rest => (quoted key ++ ':' :: text value) :: memberTexts rest

end

end Json
end FaultWatch
