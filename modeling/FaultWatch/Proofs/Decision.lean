import FaultWatch.Catch.Decision

/-! What a decision cell holds, told from what was offered to it and taken out of it. The first
offer is the only one accepted, and what is taken is that offer. Until the first wait after it the
cell gives that offer to whoever waits, and to nobody after that. The main statement is
`decidedOnce`, about offers, waits and readings that come in any order. -/
namespace FaultWatch.Decision

variable {τ : Type}

def Action.offered? : Action τ → Option τ
  | offer value => some value
  | wait | read => none

def Answer.accepted? : Answer τ → Option Bool
  | accepted first => some first
  | value _ | blocked | isDecided _ => none

def Answer.taken? : Answer τ → Option τ
  | value won => some won
  | accepted _ | blocked | isDecided _ => none

def answers (cell : Decision τ) : List (Action τ) → List (Answer τ)
  | [] => []
  | action :: rest => cell.answer action :: answers (cell.step action) rest

inductive Told : Decision τ → List (τ × Bool) → List τ → Prop
  | blank : Told undecided [] []
  | full {first : τ} {later : List (τ × Bool)} (lost : ∀ offer ∈ later, offer.2 = false) :
      Told ⟨true, some first⟩ ((first, true) :: later) []
  | spent {first : τ} {later : List (τ × Bool)} (lost : ∀ offer ∈ later, offer.2 = false) :
      Told ⟨true, none⟩ ((first, true) :: later) [first]

theorem offerDecided {cell : Decision τ} (decided : cell.decided = true) (value : τ) :
    cell.offer value = cell := by
  simp [offer, decided]

private theorem lostAppend {later : List (τ × Bool)} (lost : ∀ offer ∈ later, offer.2 = false)
    (value : τ) : ∀ offer ∈ later ++ [(value, false)], offer.2 = false := by
  intro offer member
  rcases List.mem_append.mp member with old | new
  · exact lost offer old
  · cases List.mem_singleton.mp new
    rfl

theorem toldOffer {cell : Decision τ} {offers takes} (told : Told cell offers takes) (value : τ) :
    Told (cell.offer value) (offers ++ [(value, cell.accepts)]) takes := by
  cases told with
  | blank => exact .full (by simp)
  | full lost => exact .full (lostAppend lost value)
  | spent lost => exact .spent (lostAppend lost value)

theorem toldTake {cell : Decision τ} {offers takes} (told : Told cell offers takes) {value rest}
    (took : cell.take? = some (value, rest)) : Told rest offers (takes ++ [value]) := by
  cases told with
  | blank => simp [take?, undecided] at took
  | full lost =>
    simp only [take?, Option.map_some, Option.some.injEq, Prod.mk.injEq] at took
    obtain ⟨rfl, rfl⟩ := took
    exact .spent lost
  | spent lost => simp [take?] at took

theorem takenIsFirst {cell : Decision τ} {offers takes} (told : Told cell offers takes) {value}
    (took : value ∈ takes) :
    ∃ later, offers = (value, true) :: later ∧ ∀ offer ∈ later, offer.2 = false := by
  cases told with
  | blank => simp at took
  | full lost => simp at took
  | spent lost =>
    cases List.mem_singleton.mp took
    exact ⟨_, rfl, lost⟩

theorem takenDecided {cell : Decision τ} {offers takes} (told : Told cell offers takes) {value}
    (took : value ∈ takes) : cell.decided = true := by
  cases told with
  | blank => simp at took
  | full | spent => rfl

theorem toldDecided {cell : Decision τ} {offers takes} (told : Told cell offers takes) :
    cell.decided = !offers.isEmpty := by
  cases told <;> rfl

private theorem lostVerdicts {later : List (τ × Bool)} (lost : ∀ offer ∈ later, offer.2 = false) :
    later.map Prod.snd = (later.map Prod.fst).mapIdx fun place _ => place + 1 == 0 := by
  have never : (later.map Prod.fst).mapIdx (fun place _ => place + 1 == 0) =
      List.replicate (later.map Prod.fst).length false :=
    List.mapIdx_eq_replicate_iff.mpr fun _ _ => rfl
  rw [never, List.length_map]
  exact List.map_eq_replicate_iff.mpr lost

theorem toldVerdicts {cell : Decision τ} {offers takes} (told : Told cell offers takes) :
    offers.map Prod.snd = (offers.map Prod.fst).mapIdx fun place _ => place == 0 := by
  cases told with
  | blank => rfl
  | full lost | spent lost =>
    rw [List.map_cons, List.map_cons, List.mapIdx_cons, lostVerdicts lost]
    rfl

theorem toldTakes {cell : Decision τ} {offers takes} (told : Told cell offers takes) :
    takes = [] ∨ ∃ value, (offers.map Prod.fst).head? = some value ∧ takes = [value] := by
  cases told with
  | blank | full => exact .inl rfl
  | spent => exact .inr ⟨_, rfl, rfl⟩

theorem toldWait {cell : Decision τ} {offers takes} (told : Told cell offers takes) (value : τ) :
    cell.answer .wait = .value value ↔
      (offers.map Prod.fst).head? = some value ∧ takes = [] := by
  cases told <;> simp [answer, take?, undecided]

theorem toldBlocked {cell : Decision τ} {offers takes} (told : Told cell offers takes) :
    cell.answer .wait = .blocked ↔ offers.map Prod.fst = [] ∨ takes ≠ [] := by
  cases told <;> simp [answer, take?, undecided]

theorem toldStep {cell : Decision τ} {offers takes} (told : Told cell offers takes)
    (action : Action τ) :
    ∃ new : List (τ × Bool), new.map Prod.fst = [action].filterMap Action.offered? ∧
      new.map Prod.snd = [cell.answer action].filterMap Answer.accepted? ∧
      Told (cell.step action) (offers ++ new)
        (takes ++ [cell.answer action].filterMap Answer.taken?) := by
  cases action with
  | offer value =>
    refine ⟨[(value, cell.accepts)], rfl, rfl, ?_⟩
    simpa [step, answer, Answer.taken?, List.filterMap_cons] using toldOffer told value
  | wait =>
    refine ⟨[], rfl, ?_⟩
    cases took : cell.take? with
    | none =>
      simpa [step, answer, took, Answer.accepted?, Answer.taken?, List.filterMap_cons] using told
    | some taken =>
      have spent := toldTake told took
      simpa [step, answer, took, Answer.accepted?, Answer.taken?, List.filterMap_cons] using spent
  | read =>
    refine ⟨[], rfl, rfl, ?_⟩
    simpa [step, answer, Answer.taken?, List.filterMap_cons] using told

theorem toldRun {cell : Decision τ} {offers takes} (told : Told cell offers takes)
    (actions : List (Action τ)) :
    ∃ new : List (τ × Bool), new.map Prod.fst = actions.filterMap Action.offered? ∧
      new.map Prod.snd = (cell.answers actions).filterMap Answer.accepted? ∧
      Told (cell.run actions) (offers ++ new)
        (takes ++ (cell.answers actions).filterMap Answer.taken?) := by
  induction actions generalizing cell offers takes with
  | nil => exact ⟨[], rfl, rfl, by simpa [answers, run] using told⟩
  | cons action rest ih =>
    obtain ⟨here, values, verdicts, told⟩ := toldStep told action
    obtain ⟨later, laterValues, laterVerdicts, told⟩ := ih told
    refine ⟨here ++ later, ?_, ?_, ?_⟩
    · rw [List.map_append, values, laterValues, ← List.filterMap_append]
      rfl
    · rw [List.map_append, verdicts, laterVerdicts, ← List.filterMap_append]
      rfl
    · rw [List.append_assoc, List.append_assoc, ← List.filterMap_append] at told
      exact told

theorem decidedOnce (past : List (Action τ)) :
    let cell := undecided.run past
    let made := past.filterMap Action.offered?
    let taken := (undecided.answers past).filterMap Answer.taken?
    (undecided.answers past).filterMap Answer.accepted? =
        made.mapIdx (fun place _ => place == 0) ∧
      (∀ value, cell.answer (.offer value) = .accepted made.isEmpty) ∧
      cell.answer .read = .isDecided (!made.isEmpty) ∧
      (taken = [] ∨ ∃ value, made.head? = some value ∧ taken = [value]) ∧
      (∀ value, cell.answer .wait = .value value ↔ made.head? = some value ∧ taken = []) ∧
      (cell.answer .wait = .blocked ↔ made = [] ∨ taken ≠ []) := by
  intro cell made taken
  obtain ⟨offers, values, verdicts, told⟩ := toldRun .blank past
  rw [List.nil_append, List.nil_append] at told
  have decided : cell.decided = !made.isEmpty := by
    rw [toldDecided told, ← List.isEmpty_map, values]
  have wins := toldVerdicts told
  have takes := toldTakes told
  have waits := toldWait told
  have blocks := toldBlocked told
  rw [values] at wins takes blocks
  simp only [values] at waits
  refine ⟨verdicts.symm.trans wins, fun value => ?_, ?_, takes, waits, blocks⟩
  · rw [answer, accepts, decided, Bool.not_not]
  · rw [answer, decided]

end FaultWatch.Decision
