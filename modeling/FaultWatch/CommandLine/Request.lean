import FaultWatch.Input
import FaultWatch.Report

/-! Reading the command line. Options may stand anywhere after the command; each `--arch` takes the
next word whatever it is, and the last one counts. The options are read before the command is looked
at, so what is wrong with them is reported first. Two hyphens open an option; a lone hyphen or a
negative number is a plain word. -/
namespace FaultWatch.CommandLine

structure Options where
  family : Option Family
  form : Report.Form
  deriving DecidableEq, Repr

def Options.none : Options := ⟨.none, .text⟩

inductive Command
  | decode (raw : Fault) (options : Options)
  | batch (path : String) (options : Options)
  | mask (categories : List String)
  | categories (mask : String)
  deriving DecidableEq, Repr

inductive Request
  | help
  | run (command : Command)
  deriving DecidableEq, Repr

inductive Refusal
  | helpAsked
  | missingCommand
  | unknownCommand (word : String)
  | missingFamily
  | unknownOption (word : String)
  | input (error : Input.Problem)
  | optionsNotTaken (command : String)
  | missingCategory
  | missingMask
  | manyMasks
  | wordCount (count : Nat)
  | missingPath
  | manyPaths
  deriving DecidableEq, Repr

def usageLines : List String :=
  ["Usage: fault-decode <command> [options]",
    "",
    "Commands:",
    "  decode <category> <code> <subcode>  Decode one fault triple",
    "  batch <file>                        Decode one triple per line of a file",
    "  mask <category>...                  Print the registration mask for categories",
    "  categories <mask>                   Print the categories in a mask",
    "",
    "Options:",
    "  --arch <arm64|x86_64>  Processor family (default: host)",
    "  --json                 Print one JSON object per fault",
    "  -h, --help             Show this help message",
    "",
    "Codes are decimal, 0x hex, or negative; - or none marks an absent code.",
    "Batch files skip blank lines and # comments.",
    "",
    "Examples:",
    "  fault-decode decode bad-instruction 1 0x4000 --arch x86_64",
    "  fault-decode batch faults.txt --json",
    "  fault-decode mask bad-access arithmetic",
    "  fault-decode categories 0x4e"]

def ended (line : String) : String := line ++ "\n"

def unlines : List String → String
  | [] => ""
  | line :: rest => ended line ++ unlines rest

def usage : String := unlines usageLines

def Refusal.message : Refusal → String
  | .helpAsked => usage
  | .missingCommand => "missing command"
  | .unknownCommand word => "unknown command: " ++ word
  | .missingFamily => "missing value for --arch"
  | .unknownOption word => "unknown option: " ++ word
  | .input error => error.message
  | .optionsNotTaken command => command ++ " takes no --arch or --json"
  | .missingCategory => "missing category"
  | .missingMask => "missing mask"
  | .manyMasks => "expected exactly one mask"
  | .wordCount count =>
    "decode expects <category> <code> <subcode>, got " ++ String.ofList (Text.decimal count) ++
      " words"
  | .missingPath => "missing input path"
  | .manyPaths => "multiple input paths provided"

def isHelp (word : String) : Bool := word == "--help" || word == "-h"

def isOption (word : String) : Bool := word.toList.take 2 == ['-', '-']

def split (options : Options) : List String → Except Refusal (List String × Options)
  | [] => .ok ([], options)
  | word :: rest =>
    if isHelp word then .error .helpAsked
    else if word = "--json" then split { options with form := .json } rest
    else if word = "--arch" then
      match rest with
      | [] => .error .missingFamily
      | value :: rest =>
        match Input.family value with
        | .ok family => split { options with family := some family } rest
        | .error error => .error (.input error)
    else if isOption word then .error (.unknownOption word)
    else
      match split options rest with
      | .ok (words, options) => .ok (word :: words, options)
      | .error refusal => .error refusal

def withoutOptions (command : String) (options : Options) (after : Except Refusal Command) :
    Except Refusal Command :=
  if options = .none then after else .error (.optionsNotTaken command)

def decodeCommand (options : Options) : List String → Except Refusal Command
  | [category, code, subcode] =>
    match Input.triple category code subcode with
    | .ok raw => .ok (.decode raw options)
    | .error error => .error (.input error)
  | words => .error (.wordCount words.length)

def batchCommand (options : Options) : List String → Except Refusal Command
  | [] => .error .missingPath
  | [path] => .ok (.batch path options)
  | _ => .error .manyPaths

def maskCommand : List String → Except Refusal Command
  | [] => .error .missingCategory
  | words => .ok (.mask words)

def categoriesCommand : List String → Except Refusal Command
  | [] => .error .missingMask
  | [mask] => .ok (.categories mask)
  | _ => .error .manyMasks

def commandOf (name : String) (words : List String) (options : Options) :
    Except Refusal Command :=
  if name = "decode" then decodeCommand options words
  else if name = "batch" then batchCommand options words
  else if name = "mask" then withoutOptions name options (maskCommand words)
  else if name = "categories" then withoutOptions name options (categoriesCommand words)
  else .error (.unknownCommand name)

def Request.ofWords : List String → Except Refusal Request
  | [] => .error .missingCommand
  | first :: rest =>
    if isHelp first then .ok .help
    else
      match split .none rest with
      | .error refusal => .error refusal
      | .ok (words, options) => (commandOf first words options).map .run

def Request.path? : Request → Option String
  | .run (.batch path _) => some path
  | _ => Option.none

end FaultWatch.CommandLine
