import FaultWatch.Proofs.Json.Settings
import FaultWatch.Report

/-! All that is written as JSON is read back as it was. Of a report in JSON the text is one object:
the diagnosis, or else the raw fault under a key of its own that no diagnosis has. The main
statement is `roundTrip`. -/
namespace FaultWatch.Report

variable {decoder : Decoder} {raw : Fault} {body : Json} {decoded : Option Diagnosis}

def members (raw : Fault) : Option Diagnosis → List (String × Json)
  | some fault => [("category", fault.category.toJson), ("info", fault.payloadJson)]
  | none => [("unrecognized", raw.toJson)]

theorem jsonMembers : json raw decoded = .object (members raw decoded) := by
  cases decoded <;> rfl

theorem jsonWhole : (json raw decoded).Whole := by
  cases decoded with
  | some fault => exact Diagnosis.faithful.whole fault
  | none => simp [json, Fault.faithful.whole]

theorem reportRead :
    Json.parse? (decoder.report .json raw).toList =
      some (.object (members raw (decoder.decode? raw))) := by
  rw [Decoder.report, String.toList_ofList, Json.textRead jsonWhole, jsonMembers]

theorem unrecognizedRead : Diagnosis.ofJson? (.object [("unrecognized", body)]) = none := rfl

theorem membersRead : Diagnosis.ofJson? (.object (members raw decoded)) = decoded := by
  cases decoded with
  | some fault => exact Diagnosis.faithful.read fault
  | none => exact unrecognizedRead

theorem membersKeyed :
    decoded = none ↔ (members raw decoded).map Prod.fst = ["unrecognized"] := by
  cases decoded <;> simp [members]

theorem membersRaw :
    decoded = none ↔
      ∃ body, members raw decoded = [("unrecognized", body)] ∧ Fault.ofJson? body = some raw := by
  cases decoded with
  | some fault => simp [members]
  | none => simp [members, Fault.faithful.read]

theorem roundTrip :
    (∀ fault : Diagnosis, Diagnosis.ofJson? fault.toJson = some fault) ∧
    (∀ raw : Fault, Fault.ofJson? raw.toJson = some raw) ∧
    (∀ mask : Mask, Mask.ofJson? mask.toJson = some mask) ∧
    (∀ word : UInt64, (Json.number word.toNat).uint64? = some word) ∧
    (∀ settings : Settings, Settings.ofJson? settings.toJson = some settings) ∧
    ∀ (decoder : Decoder) (raw : Fault), ∃ members,
      Json.parse? (decoder.report .json raw).toList = some (.object members) ∧
      Diagnosis.ofJson? (.object members) = decoder.decode? raw ∧
      (decoder.decode? raw = none ↔ members.map Prod.fst = ["unrecognized"]) ∧
      (decoder.decode? raw = none ↔
        ∃ body, members = [("unrecognized", body)] ∧ Fault.ofJson? body = some raw) :=
  ⟨Diagnosis.faithful.read, Fault.faithful.read, Mask.faithful.read, Json.uint64Read,
    Settings.faithful.read, fun _ _ =>
      ⟨_, reportRead, membersRead, membersKeyed, membersRaw⟩⟩

end FaultWatch.Report
