import FaultWatch.Proofs.Json.Report
import FaultWatch.Proofs.Term.Payload

/-! What a report tells. Its first mark is the colon after the category or after the word for an
unrecognized fault, which is no category; what follows is the payload's text or the raw fault's, and
both tell all that they are made of. The main statement is `reportTells`. -/
namespace FaultWatch
open Term (Unmarked cut)

theorem Category.namePlain (category : Category) : Unmarked category.name.toList := by
  cases category <;> decide

theorem Category.nameSame {a b : Category} : a.name = b.name ↔ a = b := by
  refine ⟨fun same => ?_, fun same => by rw [same]⟩
  cases a <;> cases b <;> first | rfl | exact absurd same (by decide)

namespace Fault

variable {raw other : Fault} {a b : Option Int64} {word : Int64} {rest others : List Char}

theorem wordUnmarked : Unmarked (wordText a) := by
  cases a with
  | none => decide
  | some word => exact Term.hexadecimalUnmarked _

theorem wordOwn (same : wordText a = wordText b) : a = b := by
  cases a with
  | none =>
    cases b with
    | none => rfl
    | some word => exact absurd (List.cons.inj same).1 (by decide)
  | some word =>
    cases b with
    | none => exact absurd (List.cons.inj same).1 (by decide)
    | some word' =>
      have bits := UInt64.toNat_inj.mp (Text.hexadecimalOwn same)
      rw [← word.toInt64_toUInt64, bits, word'.toInt64_toUInt64]

theorem textOwn (same : raw.text = other.text) : raw = other := by
  obtain ⟨category, code, subcode⟩ := raw
  obtain ⟨category', code', subcode'⟩ := other
  simp only [text, List.append_assoc, List.cons_append] at same
  obtain ⟨names, _, words⟩ := cut category.namePlain category'.namePlain rfl rfl same
  obtain ⟨codes, _, words⟩ := cut wordUnmarked wordUnmarked rfl rfl words
  obtain ⟨subcodes, _⟩ := cut wordUnmarked wordUnmarked rfl rfl (List.cons.inj words).2
  rw [Category.nameSame.mp (String.toList_inj.mp names), wordOwn codes, wordOwn subcodes]

theorem textLine : ∀ c ∈ raw.text, c ≠ '\n' := by
  have name := Term.unmarkedLine raw.category.namePlain
  have code := Term.unmarkedLine (@wordUnmarked raw.code)
  have subcode := Term.unmarkedLine (@wordUnmarked raw.subcode)
  simpa [text, or_imp, forall_and] using ⟨name, code, subcode⟩

end Fault

namespace Report

variable {decoder : Decoder} {raw other : Fault} {decoded decoded' : Option Diagnosis}

def opening : Option Diagnosis → String
  | some fault => fault.category.name
  | none => "unrecognized"

def told (raw : Fault) : Option Diagnosis → List Char
  | some fault => fault.payloadTerm.text
  | none => raw.text

theorem lineText :
    line raw decoded = (opening decoded).toList ++ ':' :: ' ' :: told raw decoded := by
  cases decoded with
  | some fault =>
    change fault.category.name.toList ++ ": ".toList ++ fault.payloadTerm.text =
      fault.category.name.toList ++ ':' :: ' ' :: fault.payloadTerm.text
    simp
  | none =>
    change "unrecognized: ".toList ++ raw.text = "unrecognized".toList ++ ':' :: ' ' :: raw.text
    simp

theorem openingUnmarked : Unmarked (opening decoded).toList := by
  cases decoded with
  | none => decide
  | some fault => exact fault.category.namePlain

theorem categoryRecognized (category : Category) : category.name ≠ "unrecognized" := by
  cases category <;> decide

theorem openingTold (same : (opening decoded).toList = (opening decoded').toList) :
    decoded.map Diagnosis.category = decoded'.map Diagnosis.category := by
  have same := String.toList_inj.mp same
  cases decoded with
  | none =>
    cases decoded' with
    | none => rfl
    | some fault => exact absurd same.symm (categoryRecognized fault.category)
  | some fault =>
    cases decoded' with
    | none => exact absurd same (categoryRecognized fault.category)
    | some fault' => exact congrArg some (Category.nameSame.mp same)

theorem lineOwn (same : line raw decoded = line other decoded') :
    decoded = decoded' ∧ (decoded = none → raw = other) := by
  rw [lineText, lineText] at same
  obtain ⟨openings, _, after⟩ := cut openingUnmarked openingUnmarked rfl rfl same
  have kinds := openingTold openings
  have same := (List.cons.inj after).2
  cases decoded with
  | none =>
    cases decoded' with
    | none => exact ⟨rfl, fun _ => Fault.textOwn same⟩
    | some fault => contradiction
  | some fault =>
    cases decoded' with
    | none => contradiction
    | some fault' =>
      have terms := Term.textOwn fault.payloadPlain fault'.payloadPlain same
      rw [Diagnosis.payloadOwn (Option.some.inj kinds) terms]
      exact ⟨rfl, fun none => by contradiction⟩

theorem lineSame : line raw decoded = line other decoded' ↔
    decoded = decoded' ∧ (decoded = none → raw = other) := by
  refine ⟨lineOwn, ?_⟩
  rintro ⟨rfl, raws⟩
  cases decoded with
  | none => rw [raws rfl]
  | some fault => rfl

theorem lineUnrecognized : "unrecognized: ".toList <+: line raw decoded ↔ decoded = none := by
  constructor
  · rintro ⟨rest, same⟩
    have split : (opening none).toList ++ ':' :: ' ' :: rest = line raw decoded := by
      rw [← same]
      change "unrecognized".toList ++ ':' :: ' ' :: rest = "unrecognized: ".toList ++ rest
      simp
    rw [lineText] at split
    have kinds := openingTold (cut openingUnmarked openingUnmarked rfl rfl split).1
    exact Option.map_eq_none_iff.mp kinds.symm
  · rintro rfl
    exact List.prefix_append _ _

theorem lineRecognized {fault : Diagnosis} (recognized : decoded = some fault) :
    (fault.category.name ++ ": ").toList <+: line raw decoded := by
  rw [recognized, String.toList_append]
  exact List.prefix_append _ _

theorem oneLine : ∀ c ∈ line raw decoded, c ≠ '\n' := by
  have opened := Term.unmarkedLine (@openingUnmarked decoded)
  have rest : ∀ c ∈ told raw decoded, c ≠ '\n' := by
    cases decoded with
    | none => exact Fault.textLine
    | some fault => exact Term.oneLine fault.payloadTerm fault.payloadPlain
  simpa [lineText, or_imp, forall_and] using ⟨opened, rest⟩

theorem reportText :
    (decoder.report .text raw).toList = line raw (decoder.decode? raw) :=
  String.toList_ofList

theorem reportLine (form : Form) : '\n' ∉ (decoder.report form raw).toList := by
  intro there
  cases form with
  | text =>
    rw [reportText] at there
    exact oneLine _ there rfl
  | json =>
    rw [Decoder.report, String.toList_ofList] at there
    exact Json.oneLine _ jsonWhole _ there rfl

theorem reportTells (decoder : Decoder) (raw : Fault) :
    (∀ other, decoder.report .text raw = decoder.report .text other ↔
      decoder.decode? raw = decoder.decode? other ∧ (decoder.decode? raw = none → raw = other)) ∧
    ("unrecognized: ".toList <+: (decoder.report .text raw).toList ↔ decoder.decode? raw = none) ∧
    (∀ fault, decoder.decode? raw = some fault →
      (fault.category.name ++ ": ").toList <+: (decoder.report .text raw).toList) ∧
    ∀ form, '\n' ∉ (decoder.report form raw).toList := by
  refine ⟨fun other => ?_, ?_, fun fault recognized => ?_, reportLine⟩
  · rw [← String.toList_inj, reportText, reportText]
    exact lineSame
  · rw [reportText]
    exact lineUnrecognized
  · rw [reportText]
    exact lineRecognized recognized

theorem absenceTold :
    Decoder.host.decode? ⟨.badAccess, none, some (-1)⟩ = none ∧
      Decoder.host.report .text ⟨.badAccess, none, some (-1)⟩ ≠
        Decoder.host.report .text ⟨.badAccess, some 0, some (-1)⟩ ∧
      Decoder.host.decode? ⟨.emulation, some 0, some (-1)⟩ = some (.emulation ⟨0, -1⟩) ∧
      (Category.emulation.name ++ ": ").toList <+:
        (Decoder.host.report .text ⟨.emulation, some 0, some (-1)⟩).toList := by
  refine ⟨rfl, fun same => ?_, rfl, (reportTells Decoder.host _).2.2.1 (.emulation ⟨0, -1⟩) rfl⟩
  have raws := (((reportTells Decoder.host _).1 _).mp same).2 rfl
  contradiction

end Report
end FaultWatch
