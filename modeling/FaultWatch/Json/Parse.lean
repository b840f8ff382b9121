import FaultWatch.Json

/-! Reading JSON text, blanks between the parts allowed. A number without a fraction and an exponent
is whole, any other is kept as it is written. A character beyond 16 bits may be escaped as its two
surrogates, half a pair is refused. Each reader gives the rest of the text. The recursion is bounded
by the length of the text: every level of it has a character of its own, a bracket, a comma or the
first of a value. -/
namespace FaultWatch.Json

def isSpace (c : Char) : Bool := c == ' ' || c == '\n' || c == '\r' || c == '\t'

def skipSpace (cs : List Char) : List Char := cs.dropWhile isSpace

def literal? (word : List Char) (cs : List Char) : Option (List Char) :=
  if word.isPrefixOf cs then some (cs.drop word.length) else none

def codeUnit? : List Char → Option (Nat × List Char)
  | a :: b :: c :: d :: rest => (Text.digits? 16 [a, b, c, d]).map fun unit => (unit, rest)
  | _ => none

def isHighSurrogate (unit : Nat) : Bool := 0xD800 ≤ unit && unit < 0xDC00

def isLowSurrogate (unit : Nat) : Bool := 0xDC00 ≤ unit && unit < 0xE000

def codePoint? (cs : List Char) : Option (Char × List Char) := do
  let (unit, rest) ← codeUnit? cs
  if isLowSurrogate unit then none
  else if isHighSurrogate unit then
    let (low, rest) ← codeUnit? (← literal? ['\\', 'u'] rest)
    if isLowSurrogate low then
      some (Char.ofNat (0x10000 + (unit - 0xD800) * 0x400 + (low - 0xDC00)), rest)
    else none
  else some (Char.ofNat unit, rest)

def shortEscape? : Char → Option Char
  | '"' => some '"'
  | '\\' => some '\\'
  | '/' => some '/'
  | 'n' => some '\n'
  | 'r' => some '\r'
  | 't' => some '\t'
  | 'b' => some (Char.ofNat 8)
  | 'f' => some (Char.ofNat 12)
  | _ => none

def character? : List Char → Option (Char × List Char)
  | '\\' :: 'u' :: rest => codePoint? rest
  | '\\' :: letter :: rest => (shortEscape? letter).map fun c => (c, rest)
  | c :: rest => if c = '\\' ∨ c.toNat < 32 then none else some (c, rest)
  | [] => none

def unquoted? : Nat → List Char → Option (List Char × List Char)
  | 0, _ => none
  | _ + 1, '"' :: rest => some ([], rest)
  | bound + 1, cs => do
    let (c, rest) ← character? cs
    let (others, rest) ← unquoted? bound rest
    return (c :: others, rest)

def stringBody? (cs : List Char) : Option (String × List Char) :=
  (unquoted? cs.length cs).map fun found => (String.ofList found.1, found.2)

def signOf : List Char → List Char
  | '-' :: _ => ['-']
  | _ => []

def digitsOf (cs : List Char) : List Char := cs.takeWhile Char.isDigit

def fractionOf : List Char → List Char
  | '.' :: rest => if digitsOf rest = [] then [] else '.' :: digitsOf rest
  | _ => []

def exponentOf : List Char → List Char
  | mark :: rest =>
    let sign := rest.take 1 |>.filter fun c => c == '+' || c == '-'
    let power := digitsOf (rest.drop sign.length)
    if (mark = 'e' ∨ mark = 'E') ∧ power ≠ [] then mark :: sign ++ power else []
  | [] => []

def isWhole (digits : List Char) : Bool :=
  digits == ['0'] || (!digits.isEmpty && digits.head? != some '0')

def numeral? (cs : List Char) : Option (Json × List Char) :=
  let sign := signOf cs
  let digits := digitsOf (cs.drop sign.length)
  let written := sign ++ digits
  let fraction := fractionOf (cs.drop written.length)
  let exponent := exponentOf (cs.drop (written ++ fraction).length)
  let all := written ++ fraction ++ exponent
  if isWhole digits then
    if fraction = [] ∧ exponent = [] then
      (Text.digits? 10 digits).map fun n =>
        (number (if sign = [] then (n : Int) else -(n : Int)), cs.drop all.length)
    else some (real (String.ofList all), cs.drop all.length)
  else none

mutual

def value? : Nat → List Char → Option (Json × List Char)
  | 0, _ => none
  | bound + 1, cs =>
    match cs with
    | 'n' :: _ => (literal? "null".toList cs).map fun rest => (null, rest)
    | 't' :: _ => (literal? "true".toList cs).map fun rest => (bool true, rest)
    | 'f' :: _ => (literal? "false".toList cs).map fun rest => (bool false, rest)
    | '"' :: rest => (stringBody? rest).map fun found => (string found.1, found.2)
    | '[' :: rest => do
      match skipSpace rest with
      | ']' :: rest => return (array [], rest)
      | rest =>
        let (items, rest) ← items? bound rest
        return (array items, rest)
    | '\x7b' :: rest => do
      match skipSpace rest with
      | '\x7d' :: rest => return (object [], rest)
      | rest =>
        let (members, rest) ← memberList? bound rest
        return (object members, rest)
    | _ => numeral? cs

def items? : Nat → List Char → Option (List Json × List Char)
  | 0, _ => none
  | bound + 1, cs => do
    let (item, rest) ← value? bound cs
    match skipSpace rest with
    | ']' :: rest => return ([item], rest)
    | ',' :: rest =>
      let (others, rest) ← items? bound (skipSpace rest)
      return (item :: others, rest)
    | _ => none

def memberList? : Nat → List Char → Option (List (String × Json) × List Char)
  | 0, _ => none
  | bound + 1, cs => do
    let (key, rest) ← stringBody? (← literal? ['"'] cs)
    let (value, rest) ← value? bound (skipSpace (← literal? [':'] (skipSpace rest)))
    match skipSpace rest with
    | '\x7d' :: rest => return ([(key, value)], rest)
    | ',' :: rest =>
      let (others, rest) ← memberList? bound (skipSpace rest)
      return ((key, value) :: others, rest)
    | _ => none

end

def parse? (cs : List Char) : Option Json :=
  match value? cs.length (skipSpace cs) with
  | some (value, rest) => if skipSpace rest = [] then some value else none
  | none => none

end FaultWatch.Json
