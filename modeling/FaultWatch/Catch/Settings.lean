import FaultWatch.Family
import FaultWatch.Catch.Safeguards

/-! Settings of a catch call. A field that JSON leaves out takes its default. A span of time has
less than a second in its nanoseconds; a reading that has more is carried over. An object that tells
a span has no other members. -/
namespace FaultWatch

def nanosPerSecond : Nat := 1000000000

structure Span where
  secs : UInt64
  nanos : UInt32
  carried : nanos.toNat < nanosPerSecond
  deriving DecidableEq, Repr

namespace Span

def ofParts? (secs nanos : Nat) : Option Span :=
  let total := secs + nanos / nanosPerSecond
  let rest := UInt32.ofNat (nanos % nanosPerSecond)
  if total < UInt64.size then
    if h : rest.toNat < nanosPerSecond then some ⟨UInt64.ofNat total, rest, h⟩ else none
  else none

def ofMillis (millis : UInt64) : Span where
  secs := millis / 1000
  nanos := (millis % 1000).toUInt32 * 1000000
  carried := by
    have bound : (millis % 1000).toNat < 1000 := by
      simpa using Nat.mod_lt millis.toNat (by decide : 1000 > 0)
    simp only [UInt32.toNat_mul, UInt64.toNat_toUInt32, nanosPerSecond]
    have small : (millis % 1000).toNat % 2 ^ 32 = (millis % 1000).toNat :=
      Nat.mod_eq_of_lt (by omega)
    rw [small]
    have product : (millis % 1000).toNat * (1000000 : UInt32).toNat < 2 ^ 32 := by
      simp only [UInt32.reduceToNat]; omega
    rw [Nat.mod_eq_of_lt product]
    simp only [UInt32.reduceToNat]; omega

def toJson (span : Span) : Json :=
  .object [("secs", .number span.secs.toNat), ("nanos", .number span.nanos.toNat)]

def isParts : Json → Bool
  | .object members => members.all fun member => member.1 == "secs" || member.1 == "nanos"
  | _ => true

def ofJson? (j : Json) : Option Span :=
  if isParts j then do
    let [secs, nanos] ← j.fields? ["secs", "nanos"] | none
    ofParts? (← Json.required Json.uint64? secs).toNat (← Json.required Json.uint32? nanos).toNat
  else none

end Span

structure Settings where
  timeout : Span
  flags : Safeguards
  workerName : String
  family : Option Family
  deriving DecidableEq, Repr

namespace Settings

def default : Settings := ⟨Span.ofMillis 10, .relaxed, "fault-catch-operation", none⟩

def toJson (settings : Settings) : Json :=
  .object
    [("listener_timeout", settings.timeout.toJson), ("session_flags", settings.flags.toJson),
      ("worker_name", .string settings.workerName),
      ("arch", Json.ofOption Family.toJson settings.family)]

def ofJson? (j : Json) : Option Settings := do
  let [timeout, flags, worker, family] ←
    j.optionalFields? ["listener_timeout", "session_flags", "worker_name", "arch"] | none
  return ⟨← Json.withDefault default.timeout Span.ofJson? timeout,
    ← Json.withDefault default.flags Safeguards.ofJson? flags,
    ← Json.withDefault default.workerName Json.text? worker,
    ← Json.optional Family.ofJson? family⟩

end Settings
end FaultWatch
