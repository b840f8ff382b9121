import FaultWatch.Json.Read

/-! The two process-wide checks that a catch relaxes while it listens. -/
namespace FaultWatch

structure Safeguards where
  fatalErrorEscalation : Bool
  exclusivityChecking : Bool
  deriving DecidableEq, Repr

namespace Safeguards

def strict : Safeguards := ⟨true, true⟩

def relaxed : Safeguards := ⟨false, false⟩

def toJson (flags : Safeguards) : Json :=
  .object
    [("fatal_error_escalation", .bool flags.fatalErrorEscalation),
      ("exclusivity_checking", .bool flags.exclusivityChecking)]

def ofJson? (j : Json) : Option Safeguards := do
  let [escalation, exclusivity] ←
    j.fields? ["fatal_error_escalation", "exclusivity_checking"] | none
  return ⟨← Json.required Json.boolean? escalation, ← Json.required Json.boolean? exclusivity⟩

end Safeguards
end FaultWatch
