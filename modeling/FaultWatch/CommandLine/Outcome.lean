import FaultWatch.CommandLine.Request
import FaultWatch.Input.Batch

/-! What a run of the program prints and how it exits. Results go to the output and refusals to the
error output. Help asked for after the command is printed like a result, but the run counts as
failed. Faults are printed one a line, and the lines before one that cannot be written stay printed.
Text can always be written, and so can JSON, whose members are keyed by text and whose numbers are
whole. -/
namespace FaultWatch.CommandLine

structure Outcome where
  exit : Nat
  stdout : String
  stderr : String
  deriving DecidableEq, Repr

namespace Outcome

def results (lines : List String) : Outcome := ⟨0, unlines lines, ""⟩

def complaints (lines : List String) : Outcome := ⟨1, "", unlines lines⟩

end Outcome

inductive ReadError
  | notFound
  | notDirectory
  | isDirectory
  | nameTooLong
  | denied
  | notText
  | other (text : String)
  deriving DecidableEq, Repr

def ReadError.message : ReadError → String
  | .notFound => "No such file or directory (os error 2)"
  | .notDirectory => "Not a directory (os error 20)"
  | .isDirectory => "Is a directory (os error 21)"
  | .nameTooLong => "File name too long (os error 36)"
  | .denied => "Permission denied (os error 13)"
  | .notText => "stream did not contain valid UTF-8"
  | .other text => text

def opensUsage (message : String) : Bool := "Usage:".toList.isPrefixOf message.toList

def refused (refusal : Refusal) : Outcome :=
  if opensUsage refusal.message then ⟨1, ended refusal.message, ""⟩
  else .complaints ["error: " ++ refusal.message, usage]

def Options.report (options : Options) (raw : Fault) : String :=
  (Decoder.choose options.family).report options.form raw

def Options.render (options : Options) (raw : Fault) : Except String String :=
  .ok (options.report raw)

def printEach (render : Fault → Except String String) : List Fault → Outcome
  | [] => .results []
  | raw :: rest =>
    match render raw with
    | .ok line =>
      let after := printEach render rest
      { after with stdout := ended line ++ after.stdout }
    | .error reason =>
      .complaints ["error: failed to encode " ++ String.ofList raw.text ++ ": " ++ reason]

def runBatch (path : String) (options : Options) : Except ReadError String → Outcome
  | .error error => .complaints ["error: failed to read " ++ path ++ ": " ++ error.message]
  | .ok text =>
    match Input.batch text with
    | .ok faults => printEach options.render faults
    | .error errors => .complaints (errors.map fun e => path ++ ":" ++ e.message)

def runMask (categories : List String) : Outcome :=
  match Input.maskNamed categories with
  | .ok mask => .results [mask.hexText]
  | .error error => .complaints ["error: " ++ error.message]

def runCategories (word : String) : Outcome :=
  match Input.mask word with
  | .ok mask => .results mask.categoryNames
  | .error error => .complaints ["error: " ++ error.message]

def Command.run (read : String → Except ReadError String) : Command → Outcome
  | .decode raw options => printEach options.render [raw]
  | .batch path options => runBatch path options (read path)
  | .mask words => runMask words
  | .categories word => runCategories word

def respond (read : String → Except ReadError String) : Except Refusal Request → Outcome
  | .error refusal => refused refusal
  | .ok .help => .results [usage]
  | .ok (.run command) => command.run read

def run (read : String → Except ReadError String) (words : List String) : Outcome :=
  respond read (Request.ofWords words)

end FaultWatch.CommandLine
