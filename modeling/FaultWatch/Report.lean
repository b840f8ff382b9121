import FaultWatch.Decoder

/-! The report on one raw fault, as one line of text or as one JSON object. A fault that the decoder
does not know is reported as it came. -/
namespace FaultWatch

inductive Report.Form
  | text
  | json
  deriving DecidableEq, Repr

namespace Report

def line (raw : Fault) : Option Diagnosis → List Char
  | some fault => fault.category.name.toList ++ ": ".toList ++ fault.payloadTerm.text
  | none => "unrecognized: ".toList ++ raw.text

def json (raw : Fault) : Option Diagnosis → Json
  | some fault => fault.toJson
  | none => .object [("unrecognized", raw.toJson)]

end Report

def Decoder.report (decoder : Decoder) (form : Report.Form) (raw : Fault) : String :=
  match form with
  | .text => String.ofList (Report.line raw (decoder.decode? raw))
  | .json => String.ofList (Report.json raw (decoder.decode? raw)).text

end FaultWatch
