import FaultWatch.Input
import FaultWatch.Log

/-! Batches: one triple a line. The text before the first `#` counts; fields are what blanks and
commas leave between them. Every failing line is reported with its number, and one is enough for the
batch to fail. A line of blanks alone holds no triple; commas alone make a bad line. -/
namespace FaultWatch

structure Input.LineProblem where
  line : Nat
  error : Input.Problem
  deriving DecidableEq, Repr

def Input.LineProblem.message (e : Input.LineProblem) : String :=
  "line " ++ String.ofList (Text.decimal e.line) ++ ": " ++ e.error.message

namespace Input

def separates (c : Char) : Bool := Text.isBlank c || c == ','

def content (line : List Char) : List Char := line.takeWhile (· ≠ '#')

def fieldsOf (line : List Char) : List String :=
  (Text.fields separates (content line)).map String.ofList

def tripleOf : List String → Except Input.Problem Fault
  | [first, second, third] => triple first second third
  | other => .error (.fieldCount other.length)

def lineOf (line : List Char) : Except Input.Problem (Option Fault) :=
  if (content line).all Text.isBlank then .ok none
  else (tripleOf (fieldsOf line)).map some

def line (text : String) : Except Input.Problem (Option Fault) := lineOf text.toList

structure Tally where
  faults : List Fault
  errors : List Input.LineProblem
  deriving DecidableEq, Repr

def tally (number : Nat) : List (List Char) → Tally
  | [] => ⟨[], []⟩
  | first :: rest =>
    let after := tally (number + 1) rest
    match lineOf first with
    | .ok none => after
    | .ok (some raw) => { after with faults := raw :: after.faults }
    | .error e => { after with errors := ⟨number, e⟩ :: after.errors }

def tallyText (text : String) : Tally := tally 1 (Text.lines text.toList)

def Tally.result (t : Tally) : Except (List Input.LineProblem) (List Fault) :=
  if t.errors = [] then .ok t.faults else .error t.errors

def batch (text : String) : Except (List Input.LineProblem) (List Fault) := (tallyText text).result

def batchLog (text : String) : List LogRecord :=
  [.batchRead (tallyText text).faults.length (tallyText text).errors.length]

def maskLog (word : String) : List LogRecord :=
  match rawMask word with
  | .ok mask => if mask.leftover = 0 then [] else [.bitsIgnored mask.leftover]
  | .error _ => []

end Input
end FaultWatch
