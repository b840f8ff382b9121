import FaultWatch.Catch.Settings
import FaultWatch.Mask
import FaultWatch.Proofs.BitNames
import FaultWatch.Proofs.Json.Payload

/-! What a catch is asked for, read back from JSON: the mask with all its bits, and the settings with
a span of time that needs no carrying and any name for the worker. -/
namespace FaultWatch
open Json (Faithful)

namespace Mask

theorem legible : names.Legible := by
  constructor <;> decide +kernel

theorem faithful : Faithful toJson ofJson? where
  whole := fun _ => trivial
  read := fun m => by
    have read := names.textRead legible m.bits.toNat_lt
    simp [toJson, ofJson?, Json.text?, ofText?, text, UInt32.size, read]

end Mask

theorem Safeguards.faithful : Faithful toJson ofJson? where
  whole := fun flags => by simp [toJson]
  read := fun _ => rfl

namespace Span

variable {secs nanos : Json} {s : UInt64} {n : UInt32}

theorem partsRead (span : Span) : ofParts? span.secs.toNat span.nanos.toNat = some span := by
  obtain ⟨secs, nanos, carried⟩ := span
  have whole : nanos.toNat / nanosPerSecond = 0 := Nat.div_eq_of_lt carried
  have part : nanos.toNat % nanosPerSecond = nanos.toNat := Nat.mod_eq_of_lt carried
  have small := secs.toNat_lt
  simp [ofParts?, whole, part, carried, UInt64.size, small]

theorem recordRead (readSecs : secs.uint64? = some s) (readNanos : nanos.uint32? = some n) :
    ofJson? (.object [("secs", secs), ("nanos", nanos)]) = ofParts? s.toNat n.toNat := by
  have record : (Json.object [("secs", secs), ("nanos", nanos)]).fields? ["secs", "nanos"] =
    some [some secs, some nanos] := rfl
  have parts : isParts (.object [("secs", secs), ("nanos", nanos)]) = true := rfl
  simp [ofJson?, parts, record, Json.requiredRead, readSecs, readNanos]

theorem faithful : Faithful toJson ofJson? where
  whole := fun span => by simp [toJson]
  read := fun span =>
    (recordRead (Json.uint64Read span.secs) (Json.uint32Read span.nanos)).trans span.partsRead

end Span

namespace Settings

variable {settings : Settings} {j timeout flags worker family : Json}

theorem familyRead (family : Option Family) :
    Json.optional Family.ofJson? (some (Json.ofOption Family.toJson family)) = some family :=
  Json.optionalRead (fun _ => Json.noConfusion) Family.faithful.read family

theorem recordRead
    (record : j.optionalFields? ["listener_timeout", "session_flags", "worker_name", "arch"] =
      some [some timeout, some flags, some worker, some family])
    (readTimeout : Span.ofJson? timeout = some settings.timeout)
    (readFlags : Safeguards.ofJson? flags = some settings.flags)
    (readWorker : worker.text? = some settings.workerName)
    (readFamily : Json.optional Family.ofJson? (some family) = some settings.family) :
    ofJson? j = some settings := by
  unfold ofJson?
  rw [record]
  simp only [Json.defaultRead readTimeout, Json.defaultRead readFlags, Json.defaultRead readWorker,
    readFamily, Option.bind_eq_bind, Option.bind_some]
  rfl

theorem faithful : Faithful toJson ofJson? where
  whole := fun settings => by
    obtain ⟨timeout, flags, worker, family⟩ := settings
    cases family <;>
      simp [toJson, Json.ofOption, Span.faithful.whole, Safeguards.faithful.whole,
        Family.faithful.whole]
  read := fun settings =>
    recordRead rfl (Span.faithful.read settings.timeout) (Safeguards.faithful.read settings.flags)
      rfl (familyRead settings.family)

end Settings
end FaultWatch
