import FaultWatch.Proofs.Decoder
import FaultWatch.Proofs.Mask
import FaultWatch.Proofs.Race.Service
import FaultWatch.Proofs.Race.Winner

/-! Where a reported fault comes from. Calls follow one another on a port, and faults are raised
before, during, between and after them. A fault that a call reports is the first one accepted in its
own window; no call finds or leaves behind anything that was accepted for another. The main
statement is `reportedFaultOwn`. -/
namespace FaultWatch.Race

variable {α ε π : Type}

/-- One call on a loopback port. Its events may begin before the caller enters, and go on after the
call is over. -/
structure Call (α ε π : Type) where
  categories : List Category
  settings : Settings
  events : List (Event Loopback.Signal α ε π)

namespace Call

def setup (call : Call α ε π) : Setup := .of call.categories call.settings

def run? (call : Call α ε π) (port : Loopback) (flags : SafeguardStore) :
    Option (State Loopback LoopbackChannel α ε π) :=
  (run Loopback.port call.setup (start port flags) call.events).filter State.isOver

def deeds (call : Call α ε π) (port : Loopback) (flags : SafeguardStore) :
    List (LoopbackDeed α ε π) :=
  trace Loopback.port call.setup (start port flags) call.events

def runAll : List (Call α ε π) → Loopback → SafeguardStore → Option (Loopback × SafeguardStore)
  | [], port, flags => some (port, flags)
  | call :: rest, port, flags =>
    (call.run? port flags).bind fun s => runAll rest s.port s.flags

end Call

variable {call : Call α ε π} {calls : List (Call α ε π)} {port met : Loopback}
  {flags flagsMet : SafeguardStore} {s : State Loopback LoopbackChannel α ε π}
  {error : CatchFailure ε}

theorem callReached (ran : call.run? port flags = some s) :
    Reached Loopback.port call.setup (start port flags) s (call.deeds port flags) ∧
      s.isOver = true := by
  obtain ⟨ran, complete⟩ := Option.filter_eq_some_iff.mp ran
  exact ⟨reachedExact.mpr ⟨call.events, ran, rfl⟩, complete⟩

theorem queuedCalls (queued : port.Queued)
    (ran : Call.runAll calls port flags = some (met, flagsMet)) : met.Queued := by
  induction calls generalizing port flags with
  | nil =>
    cases ran
    exact queued
  | cons call rest ih =>
    obtain ⟨s, one, ran⟩ := Option.bind_eq_some_iff.mp ran
    exact ih (queuedReached (callReached one).1 queued) ran

theorem setupDecoder : call.setup.decoder = ⟨some (call.settings.family.getD .host)⟩ := by
  unfold Call.setup Setup.of Decoder.choose
  cases call.settings.family <;> rfl

theorem reportedVerdict {verdict : Verdict α ε π} {decoder : Decoder}
    (same : .error error = verdict.ending decoder) (reported : error.isFault = true) :
    ∃ raw, verdict = .fault raw ∧ error = .ofFault decoder raw := by
  cases verdict with
  | fault raw =>
    cases same
    exact ⟨raw, rfl, rfl⟩
  | listenerFailed failure =>
    cases same
    contradiction
  | operation finish =>
    cases finish with
    | failed failure =>
      cases same
      contradiction
    | returned | panicked => contradiction

theorem ofFaultKnown {decoder : Decoder} {raw : Fault} {decoded : Diagnosis} :
    (.ofFault decoder raw : CatchFailure ε) = .fault decoded ↔
      decoder.decode? raw = some decoded := by
  unfold CatchFailure.ofFault
  split <;> simp [*]

theorem ofFaultUnknown {decoder : Decoder} {raw other : Fault} :
    (.ofFault decoder raw : CatchFailure ε) = .unrecognized other ↔
      other = raw ∧ decoder.decode? raw = none := by
  unfold CatchFailure.ofFault
  split <;> simp [*, eq_comm]

theorem reportedFaultOwn (used : PortUse.Reaches port)
    (earlier : Call.runAll calls port flags = some (met, flagsMet))
    (ran : call.run? met flagsMet = some s) (returned : s.ending? = some (.error error))
    (reported : error.isFault = true) :
    let deeds := call.deeds met flagsMet
    let decoder : Decoder := ⟨some (call.settings.family.getD .host)⟩
    ∃ before during rest opened last answer, Window deeds before during rest opened last answer ∧
      (∃ there opening closing next,
        Service Loopback.port call.setup (start met flagsMet) there opening closing next s before
          during rest opened last answer) ∧
      ∃ raw unread, accepted during = raw :: unread ∧ accepted deeds = accepted during ∧
        raw.category ∈ call.categories ∧
        (∀ decoded, error = .fault decoded ↔ decoder.decode? raw = some decoded) ∧
        (∀ decoded, decoder.decode? raw = some decoded → decoded.category = raw.category) ∧
        (∀ other, error = .unrecognized other ↔ other = raw ∧ decoder.decode? raw = none) ∧
        (met.armed = none ∧ met.pending = []) ∧ s.port.armed = none ∧ s.port.pending = [] := by
  intro deeds decoder
  obtain ⟨reached, complete⟩ := callReached ran
  have queued := queuedCalls (PortUse.queuedReaches used) earlier
  have queuedThere := queuedReached reached queued
  obtain ⟨failure, same, _⟩ | ⟨verdict, took, same⟩ := returnedHow reached returned
  · cases same
    contradiction
  rw [setupDecoder] at same
  obtain ⟨raw, rfl, rfl⟩ := reportedVerdict same reported
  obtain ⟨later, first, _⟩ := tookFirst reached took
  have heardOne : heard deeds = [.fault raw] := by
    have offered : (.fault raw, true) ∈ offers deeds := by simp [deeds, first]
    obtain got | ⟨finish, other, _⟩ := offerOrigin reached offered
    · exact got
    · contradiction
  obtain ⟨before, during, rest, opened, last, answer, window⟩ := tookWindow reached complete took
  have fed := windowFed reached queued window
  obtain ⟨unread, faults⟩ := fed.faults
  rw [← fed.inside.1, heardOne] at faults
  have oldest : accepted during = raw :: unread := faults
  refine ⟨before, during, rest, opened, last, answer, window, windowService reached window, raw,
    unread, oldest, fed.inside.2, ?_, fun decoded => ofFaultKnown,
    fun decoded => Decoder.decodeCategory, fun other => ofFaultUnknown,
    ⟨fed.opens, Loopback.queuedUnarmed queued fed.opens⟩, fed.closes,
    Loopback.queuedUnarmed queuedThere fed.closes⟩
  exact Mask.includesOf.mp (fed.inMask raw (by simp [oldest]))

def leaving : Call Nat Unit Unit :=
  ⟨[.arithmetic], .default,
    [.caller, .caller, .caller, .caller, .signal (.raise ⟨.arithmetic, some 1, some 0⟩),
      .finish (.returned 7), .worker, .caller, .caller, .listener, .caller, .caller, .caller,
      .caller, .caller, .signal (.raise ⟨.arithmetic, some 2, some 0⟩)]⟩

def reporting : Call Nat Unit Unit :=
  ⟨[.arithmetic], { Settings.default with family := some .arm64 },
    [.signal (.raise ⟨.arithmetic, some 3, some 0⟩), .caller, .caller, .caller, .caller, .listener,
      .listener, .signal (.raise ⟨.arithmetic, some 6, some 0⟩), .listener, .listener, .caller,
      .caller, .caller, .caller, .caller, .caller, .caller]⟩

theorem reportingAfterLeaving :
    let raw : Fault := ⟨.arithmetic, some 6, some 0⟩
    let decoded : Diagnosis := .arithmetic ⟨.arm64, .denormalInput, 0⟩
    ∃ met s, Call.runAll [leaving] .fresh (.holding .strict) = some (met, .holding .strict) ∧
      reporting.run? met (.holding .strict) = some s ∧
      s.ending? = some (.error (.fault decoded)) ∧
      accepted (reporting.deeds met (.holding .strict)) = [raw] ∧
      Decoder.decode? ⟨some .arm64⟩ raw = some decoded ∧ Decoder.host.decode? raw = none := by
  intro raw decoded
  have earlier : Call.runAll [leaving] .fresh (.holding .strict) =
      some (⟨[], none, 1, 1, 0, [], []⟩, .holding .strict) := rfl
  obtain ⟨s, ran, returned⟩ : ∃ s,
      reporting.run? ⟨[], none, 1, 1, 0, [], []⟩ (.holding .strict) = some s ∧
        s.ending? = some (.error (.fault decoded)) := ⟨_, rfl, rfl⟩
  have raised : accepted (reporting.deeds ⟨[], none, 1, 1, 0, [], []⟩ (.holding .strict)) =
      [raw] := rfl
  obtain ⟨_, during, _, _, _, _, _, _, first, unread, oldest, own, _, known, _⟩ :=
    reportedFaultOwn ⟨.strict, [], rfl⟩ earlier ran returned rfl
  obtain ⟨rfl, _⟩ := List.cons.inj ((own.trans oldest).symm.trans raised)
  exact ⟨_, s, earlier, ran, returned, raised, (known decoded).mp rfl, rfl⟩

end FaultWatch.Race
