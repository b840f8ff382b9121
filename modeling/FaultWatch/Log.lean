import FaultWatch.Diagnosis
import FaultWatch.Catch.Channel

/-! Log records, kept as what happened; the wording and the level follow from it. -/
namespace FaultWatch

inductive Side
  | operation
  | listener
  deriving DecidableEq, Repr

def Side.name : Side → String
  | .operation => "operation"
  | .listener => "listener"

inductive LogRecord
  | armed (mask : Mask)
  | decided (winner : Side)
  | disarming
  | releaseFailed (error : ChannelFailure)
  | tornDown
  | caught (fault : Diagnosis)
  | caughtUnknown (raw : Fault)
  | dropped (raw : Fault)
  | bitsIgnored (bits : UInt32)
  | batchRead (faults bad : Nat)
  deriving DecidableEq, Repr

namespace LogRecord

def level : LogRecord → String
  | releaseFailed _ => "warn"
  | caughtUnknown _ => "warn"
  | bitsIgnored _ => "warn"
  | caught _ => "info"
  | _ => "debug"

def message : LogRecord → List Char
  | armed mask => "armed fault channel for mask ".toList ++ Text.hexadecimal mask.bits.toNat
  | decided winner => "race resolved by the ".toList ++ winner.name.toList
  | disarming => "disarming fault channel".toList
  | releaseFailed error => "fault channel teardown failed: ".toList ++ error.message.toList
  | tornDown => "catch session torn down".toList
  | caught fault => "caught ".toList ++ fault.sentence
  | caughtUnknown raw => "caught unrecognized fault ".toList ++ raw.text
  | dropped raw =>
    "dropping ".toList ++ raw.text ++ ": no channel armed for ".toList ++
      raw.category.name.toList
  | bitsIgnored bits =>
    "ignoring mask bits ".toList ++ Text.hexadecimal bits.toNat ++ " with no category".toList
  | batchRead faults bad =>
    "parsed batch: ".toList ++ Text.decimal faults ++ " triples, ".toList ++ Text.decimal bad ++
      " bad lines".toList

def text (record : LogRecord) : String :=
  record.level ++ ": " ++ String.ofList record.message

end LogRecord
end FaultWatch
