import FaultWatch.Catch.Tokens
import FaultWatch.Proofs.Slots
import Mathlib.Data.List.InsertIdx
import Mathlib.Logic.Function.Basic
import Mathlib.Logic.Relation

/-! Which tokens a cancellation reaches. A register tells the tokens apart for good: it numbers them
in the order in which they are made, and knows which are live, who was copied from whom and who was
cancelled, but no flags. Relatives are joined by copies, in either direction and by way of tokens
that are long gone. A token reads cancelled when it or a relative was cancelled, and no other family
ever hears of it. Whatever more is done, a token that lives on changes only for a relative. The main
statement is `cancelsFamily`. -/
namespace FaultWatch.Tokens

structure Register where
  made : Nat
  present : List Nat
  copies : List (Nat × Nat)
  cancelled : List Nat
  deriving DecidableEq, Repr

namespace Register

def blank : Register := ⟨0, [], [], []⟩

def note (register : Register) : Action → Register
  | .create =>
    { register with made := register.made + 1, present := register.present ++ [register.made] }
  | .clone index =>
    match register.present[index]? with
    | some original =>
      { register with
        made := register.made + 1, present := register.present ++ [register.made],
        copies := register.copies ++ [(original, register.made)] }
    | none => register
  | .cancel index =>
    { register with cancelled := register.cancelled ++ register.present[index]?.toList }
  | .drop index => { register with present := register.present.eraseIdx index }

def noteAll (register : Register) (actions : List Action) : Register := actions.foldl note register

def Related (register : Register) : Nat → Nat → Prop :=
  Relation.EqvGen fun original copy => (original, copy) ∈ register.copies

def source (register : Register) (original token : Nat) : Nat :=
  if token = register.made then original else token

structure Sound (register : Register) : Prop where
  present : ∀ token ∈ register.present, token < register.made
  copies : ∀ original copy, (original, copy) ∈ register.copies →
    original < register.made ∧ copy < register.made
  cancelled : ∀ token ∈ register.cancelled, token < register.made

variable {register : Register} {action : Action} {a b token original index : Nat}

theorem Sound.here (sound : register.Sound) (listed : register.present[index]? = some token) :
    token < register.made := sound.present token (List.mem_of_getElem? listed)

theorem soundBlank : blank.Sound := by
  constructor <;> simp [blank]

theorem soundNote (sound : register.Sound) (action : Action) : (register.note action).Sound := by
  have present := sound.present
  have copies := sound.copies
  have cancelled := sound.cancelled
  cases action with
  | create => constructor <;> grind [note]
  | clone index =>
    cases listed : register.present[index]? with
    | none => simpa [note, listed] using sound
    | some original =>
      have small := sound.here listed
      constructor <;> grind [note]
  | cancel index => constructor <;> grind [note]
  | drop index =>
    exact ⟨fun token member => present token (List.eraseIdx_subset member), copies, cancelled⟩

theorem soundAll (sound : register.Sound) (actions : List Action) :
    (register.noteAll actions).Sound := by
  induction actions generalizing register with
  | nil => exact sound
  | cons action rest ih => exact ih (soundNote sound action)

theorem madeNote (register : Register) (action : Action) :
    register.made ≤ (register.note action).made := by
  cases action with
  | create => exact Nat.le_succ _
  | clone index => cases listed : register.present[index]? <;> simp [note, listed]
  | cancel | drop => exact Nat.le_refl _

theorem copiesNote (register : Register) (action : Action) :
    ∀ copy ∈ register.copies, copy ∈ (register.note action).copies := by
  intro copy member
  cases action with
  | create | cancel | drop => exact member
  | clone index =>
    cases listed : register.present[index]? with
    | none => simpa [note, listed] using member
    | some original => simp [note, listed, member]

theorem cancelledNote (register : Register) (action : Action) :
    ∃ fresh, (register.note action).cancelled = register.cancelled ++ fresh := by
  cases action with
  | create | drop => exact ⟨[], (List.append_nil _).symm⟩
  | clone index => cases listed : register.present[index]? <;> exact ⟨[], by simp [note, listed]⟩
  | cancel index => exact ⟨register.present[index]?.toList, rfl⟩

theorem cancelledAll (register : Register) (actions : List Action) :
    ∃ fresh, (register.noteAll actions).cancelled = register.cancelled ++ fresh := by
  induction actions generalizing register with
  | nil => exact ⟨[], (List.append_nil _).symm⟩
  | cons action rest ih =>
    obtain ⟨here, first⟩ := register.cancelledNote action
    obtain ⟨fresh, more⟩ := ih (register.note action)
    exact ⟨here ++ fresh, more.trans (by rw [first, List.append_assoc])⟩

theorem relatedEquivalence (register : Register) : Equivalence register.Related :=
  Relation.EqvGen.is_equivalence _

theorem relatedMore {later : Register} (copied : ∀ copy ∈ register.copies, copy ∈ later.copies)
    (related : register.Related a b) : later.Related a b :=
  Relation.EqvGen.mono (fun _ _ listed => copied _ listed) a b related

theorem relatedShare {γ : Type} {r : γ → γ → Prop} (equivalence : Equivalence r) (share : Nat → γ)
    (copied : ∀ original copy, (original, copy) ∈ register.copies → r (share original) (share copy))
    (related : register.Related a b) : r (share a) (share b) :=
  (equivalence.comap share).eqvGen_iff.mp (Relation.EqvGen.mono copied a b related)

theorem sourceOld (small : token < register.made) : register.source original token = token :=
  if_neg (Nat.ne_of_lt small)

theorem sourceCopy : register.source original register.made = original := if_pos rfl

theorem sourceSmall (small : original < register.made) (known : token < register.made + 1) :
    register.source original token < register.made := by
  unfold source
  split <;> omega

theorem relatedSource (listed : register.present[index]? = some original) (token : Nat) :
    (register.note (.clone index)).Related token (register.source original token) := by
  by_cases copy : token = register.made
  · rw [copy, sourceCopy]
    refine .symm _ _ (.rel _ _ ?_)
    simp [note, listed]
  · rw [source, if_neg copy]
    exact .refl token

theorem relatedSources (sound : register.Sound) (listed : register.present[index]? = some original)
    (related : (register.note (.clone index)).Related a b) :
    register.Related (register.source original a) (register.source original b) := by
  refine relatedShare register.relatedEquivalence (register.source original) ?_ related
  intro first copy member
  simp only [note, listed, List.mem_append, List.mem_singleton, Prod.mk.injEq] at member
  rcases member with old | ⟨rfl, rfl⟩
  · obtain ⟨small, smallCopy⟩ := sound.copies first copy old
    rw [sourceOld small, sourceOld smallCopy]
    exact .rel first copy old
  · rw [sourceOld (sound.here listed), sourceCopy]
    exact .refl first

theorem relatedNote (sound : register.Sound) (smallA : a < register.made)
    (smallB : b < register.made) (action : Action) :
    (register.note action).Related a b ↔ register.Related a b := by
  refine ⟨fun related => ?_, relatedMore (register.copiesNote action)⟩
  cases action with
  | create | cancel | drop => exact related
  | clone index =>
    cases listed : register.present[index]? with
    | none => simpa [note, listed] using related
    | some original =>
      have sources := relatedSources sound listed related
      rwa [sourceOld smallA, sourceOld smallB] at sources

theorem relatedAll (sound : register.Sound) (smallA : a < register.made)
    (smallB : b < register.made) (actions : List Action) :
    (register.noteAll actions).Related a b ↔ register.Related a b := by
  induction actions generalizing register with
  | nil => rfl
  | cons action rest ih =>
    have grown := register.madeNote action
    have kept := ih (soundNote sound action) (Nat.lt_of_lt_of_le smallA grown)
      (Nat.lt_of_lt_of_le smallB grown)
    exact kept.trans (relatedNote sound smallA smallB action)

end Register

variable {family : Nat → Nat} {tokens : Tokens} {register : Register} {action : Action}
  {place index original token : Nat}

theorem cancelledCreated : (tokens.step .create).cancelled place = tokens.cancelled place := by
  simp only [step, cancelled, List.getD_eq_getElem?_getD, Slots.added]
  split
  · next last => simp [last]
  · rfl

theorem cancelledSet {hit : Nat} (known : hit < tokens.flags.length) :
    (⟨tokens.flags.set hit true, tokens.live⟩ : Tokens).cancelled place = true ↔
      tokens.cancelled place = true ∨ hit = place := by
  simp only [cancelled, List.getD_eq_getElem?_getD, List.getElem?_set]
  split
  · next same => simp [same ▸ known, same]
  · next other => simp [other]

/-- What the register tells of the flags, where `family` gives the flag of each token. -/
structure Held (family : Nat → Nat) (tokens : Tokens) (register : Register) : Prop where
  live : tokens.live = register.present.map family
  known : ∀ token < register.made, family token < tokens.flags.length
  flag : ∀ place, tokens.cancelled place = true ↔
    ∃ token ∈ register.cancelled, family token = place

structure Kin (family : Nat → Nat) (register : Register) : Prop where
  copied : ∀ original copy, (original, copy) ∈ register.copies → family original = family copy
  related : ∀ a < register.made, ∀ b < register.made, family a = family b → register.Related a b

def Told (tokens : Tokens) (register : Register) : Prop :=
  ∃ family, Held family tokens register ∧ Kin family register

theorem Held.lookup (held : Held family tokens register) :
    tokens.live[place]? = register.present[place]?.map family := by
  rw [held.live, List.getElem?_map]

theorem toldStart : Told start .blank := by
  refine ⟨id, ⟨rfl, ?_, ?_⟩, ?_, ?_⟩ <;> simp [cancelled, start, Register.blank]

theorem heldMade (sound : register.Sound) (held : Held family tokens register)
    {more : Nat → Nat} {flag : Nat} {flags : List Bool} {copies : List (Nat × Nat)}
    (old : ∀ token < register.made, more token = family token) (own : more register.made = flag)
    (grown : tokens.flags.length ≤ flags.length) (inside : flag < flags.length)
    (same : ∀ place,
      (⟨flags, tokens.live ++ [flag]⟩ : Tokens).cancelled place = tokens.cancelled place) :
    Held more ⟨flags, tokens.live ++ [flag]⟩
      ⟨register.made + 1, register.present ++ [register.made], copies, register.cancelled⟩ where
  live := by
    have present : register.present.map more = register.present.map family :=
      List.map_congr_left fun token member => old token (sound.present token member)
    rw [List.map_append, present, held.live, List.map_singleton, own]
  known := by
    intro token small
    rcases Nat.lt_succ_iff_lt_or_eq.mp small with before | rfl
    · rw [old token before]
      exact Nat.lt_of_lt_of_le (held.known token before) grown
    · rwa [own]
  flag := by
    intro place
    rw [same, held.flag]
    refine exists_congr fun token => and_congr_right fun member => ?_
    rw [old token (sound.cancelled token member)]

theorem kinCreate (sound : register.Sound) (kin : Kin family register) {flag : Nat}
    (apart : ∀ token < register.made, family token ≠ flag) :
    Kin (Function.update family register.made flag) (register.note .create) := by
  have old : ∀ token < register.made, Function.update family register.made flag token =
      family token := fun token small => Function.update_of_ne (Nat.ne_of_lt small) _ _
  constructor
  · intro original copy listed
    obtain ⟨small, smallCopy⟩ := sound.copies original copy listed
    rw [old original small, old copy smallCopy]
    exact kin.copied original copy listed
  · intro a smallA b smallB same
    rcases Nat.lt_succ_iff_lt_or_eq.mp smallA with beforeA | rfl <;>
      rcases Nat.lt_succ_iff_lt_or_eq.mp smallB with beforeB | rfl
    · rw [old a beforeA, old b beforeB] at same
      exact kin.related a beforeA b beforeB same
    · rw [old a beforeA, Function.update_self] at same
      exact absurd same (apart a beforeA)
    · rw [old b beforeB, Function.update_self] at same
      exact absurd same.symm (apart b beforeB)
    · exact .refl _

theorem kinClone (sound : register.Sound) (kin : Kin family register)
    (listed : register.present[index]? = some original) :
    Kin (fun token => family (register.source original token)) (register.note (.clone index)) := by
  have small := sound.here listed
  constructor
  · intro first copy member
    simp only [Register.note, listed, List.mem_append, List.mem_singleton, Prod.mk.injEq] at member
    rcases member with old | ⟨rfl, rfl⟩
    · obtain ⟨smallFirst, smallCopy⟩ := sound.copies first copy old
      rw [Register.sourceOld smallFirst, Register.sourceOld smallCopy]
      exact kin.copied first copy old
    · rw [Register.sourceOld small, Register.sourceCopy]
  · intro a smallA b smallB same
    simp only [Register.note, listed] at smallA smallB
    have sources := kin.related _ (Register.sourceSmall small smallA) _
      (Register.sourceSmall small smallB) same
    have toA := Register.relatedSource listed a
    have toB := Register.relatedSource listed b
    have across := Register.relatedMore (register.copiesNote (.clone index)) sources
    exact (toA.trans _ _ _ across).trans _ _ _ (toB.symm _ _)

theorem toldCreate (sound : register.Sound) (told : Told tokens register) :
    Told (tokens.step .create) (register.note .create) := by
  obtain ⟨family, held, kin⟩ := told
  refine ⟨Function.update family register.made tokens.flags.length, ?_, ?_⟩
  · refine heldMade sound held (fun token small => ?_) ?_ ?_ ?_ fun place => cancelledCreated
    · exact Function.update_of_ne (Nat.ne_of_lt small) _ _
    · exact Function.update_self _ _ _
    · simp
    · simp
  · exact kinCreate sound kin fun token small => Nat.ne_of_lt (held.known token small)

theorem toldClone (sound : register.Sound) (told : Told tokens register) (index : Nat) :
    Told (tokens.step (.clone index)) (register.note (.clone index)) := by
  obtain ⟨family, held, kin⟩ := told
  cases listed : register.present[index]? with
  | none =>
    refine ⟨family, ?_⟩
    simpa [step, held.lookup, listed, Register.note] using And.intro held kin
  | some original =>
    refine ⟨_, ?_, kinClone sound kin listed⟩
    simp only [step, held.lookup, listed, Option.map_some, Option.toList_some, Register.note]
    refine heldMade sound held (fun token small => ?_) ?_ (Nat.le_refl _)
      (held.known original (sound.here listed)) fun place => rfl
    · rw [Register.sourceOld small]
    · rw [Register.sourceCopy]

theorem toldCancel (sound : register.Sound) (told : Told tokens register) (index : Nat) :
    Told (tokens.step (.cancel index)) (register.note (.cancel index)) := by
  obtain ⟨family, held, kin⟩ := told
  refine ⟨family, ?_, kin.copied, kin.related⟩
  cases listed : register.present[index]? with
  | none => simpa [step, held.lookup, listed, Register.note] using held
  | some hit =>
    simp only [step, held.lookup, listed, Option.map_some, Register.note, Option.toList_some]
    refine ⟨held.live, fun token small => ?_, fun place => ?_⟩
    · rw [List.length_set]
      exact held.known token small
    · rw [cancelledSet (held.known hit (sound.here listed)), held.flag]
      simp [or_and_right, exists_or]

theorem toldStep (sound : register.Sound) (told : Told tokens register) (action : Action) :
    Told (tokens.step action) (register.note action) := by
  cases action with
  | create => exact toldCreate sound told
  | clone index => exact toldClone sound told index
  | cancel index => exact toldCancel sound told index
  | drop index =>
    obtain ⟨family, held, kin⟩ := told
    refine ⟨family, ⟨?_, held.known, held.flag⟩, kin.copied, kin.related⟩
    simp only [step, Register.note]
    rw [held.live, List.eraseIdx_map]

theorem toldRun (sound : register.Sound) (told : Told tokens register) (actions : List Action) :
    Told (tokens.run actions) (register.noteAll actions) := by
  induction actions generalizing tokens register with
  | nil => exact told
  | cons action rest ih => exact ih (Register.soundNote sound action) (toldStep sound told action)

theorem toldCount (told : Told tokens register) :
    tokens.readings.length = register.present.length := by
  obtain ⟨family, held, _⟩ := told
  rw [readings, held.live, List.length_map, List.length_map]

theorem toldReading (sound : register.Sound) (told : Told tokens register)
    (listed : register.present[place]? = some token) :
    tokens.readings[place]? = some true ↔
      ∃ hit ∈ register.cancelled, register.Related token hit := by
  obtain ⟨family, held, kin⟩ := told
  have small := sound.here listed
  have reading : tokens.readings[place]? = some (tokens.cancelled (family token)) := by
    rw [readings, List.getElem?_map, held.lookup, listed]
    rfl
  rw [reading, Option.some.injEq, held.flag]
  refine exists_congr fun hit => and_congr_right fun member => ⟨fun same => ?_, fun related => ?_⟩
  · exact kin.related token small hit (sound.cancelled hit member) same.symm
  · exact (Register.relatedShare eq_equivalence family kin.copied related).symm

theorem cancelsFamily (actions more : List Action) :
    let tokens := start.run actions
    let register := Register.blank.noteAll actions
    let later := register.noteAll more
    tokens.readings.length = register.present.length ∧
      (∀ place token : Nat, register.present[place]? = some token →
        (tokens.readings[place]? = some true ↔
          ∃ hit ∈ register.cancelled, register.Related token hit)) ∧
      ∃ fresh, later.cancelled = register.cancelled ++ fresh ∧
        ∀ place after token : Nat, register.present[place]? = some token →
          later.present[after]? = some token →
          ((tokens.run more).readings[after]? = some true ↔
            tokens.readings[place]? = some true ∨ ∃ hit ∈ fresh, later.Related token hit) := by
  intro tokens register later
  have sound : register.Sound := Register.soundAll Register.soundBlank actions
  have told : Told tokens register := toldRun Register.soundBlank toldStart actions
  have soundLater : later.Sound := Register.soundAll sound more
  have toldLater : Told (tokens.run more) later := toldRun sound told more
  obtain ⟨fresh, grown⟩ : ∃ fresh, later.cancelled = register.cancelled ++ fresh :=
    register.cancelledAll more
  refine ⟨toldCount told, fun place token => toldReading sound told, fresh, grown, ?_⟩
  intro place after token listed listedLater
  have kept : (∃ hit ∈ register.cancelled, later.Related token hit) ↔
      ∃ hit ∈ register.cancelled, register.Related token hit :=
    exists_congr fun hit => and_congr_right fun member =>
      Register.relatedAll sound (sound.here listed) (sound.cancelled hit member) more
  rw [toldReading soundLater toldLater listedLater, toldReading sound told listed, ← kept, grown]
  simp [or_and_right, exists_or]

theorem orphanCancelled :
    let actions : List Action :=
      [.create, .clone 0, .create, .cancel 0, .drop 0, .clone 0, .drop 0]
    let register := Register.blank.noteAll actions
    register.present = [2, 3] ∧ (start.run actions).readings = [false, true] ∧
      register.Related 3 0 ∧ ¬ register.Related 2 0 ∧
      ¬ (register.noteAll [.cancel 1]).Related 2 3 := by
  intro actions register
  obtain ⟨_, exactly, fresh, grown, steady⟩ := cancelsFamily actions [.cancel 1]
  refine ⟨rfl, rfl, ?_, fun related => ?_, fun related => ?_⟩
  · obtain ⟨hit, member, related⟩ := (exactly 1 3 rfl).mp rfl
    cases List.mem_singleton.mp member
    exact related
  · have reads := (exactly 0 2 rfl).mpr ⟨0, List.mem_singleton.mpr rfl, related⟩
    exact absurd reads (by decide)
  · have only : [3] = fresh := List.append_cancel_left grown
    have reads := (steady 0 0 2 rfl rfl).mpr (.inr ⟨3, only ▸ List.mem_singleton.mpr rfl, related⟩)
    exact absurd reads (by decide)

end FaultWatch.Tokens
