import FaultWatch.Proofs.SafeguardStore
import FaultWatch.Proofs.Slots

/-! Holders that overlap in any order. Whatever was done to a store, it is told by who passed its
door: how many are inside, and with which flags the last one came in. What the last one out brings
back stays what it was at first. The main statement is `overlapRestores`. -/
namespace FaultWatch.StoreUse

inductive Passage
  | comes (flags : Safeguards)
  | goes
  deriving DecidableEq, Repr

def Passage.flags? : Passage → Option Safeguards
  | comes flags => some flags
  | goes => none

def Passage.counted (inside : Nat) : Passage → Nat
  | comes _ => inside + 1
  | goes => inside - 1

def inside (past : List Passage) : Nat := past.foldl Passage.counted 0

def latest? (past : List Passage) : Option Safeguards := (past.filterMap Passage.flags?).getLast?

def passage? (s : StoreUse) : Action → Option Passage
  | .enter flags => some (.comes flags)
  | .leave => some .goes
  | .acquire flags => some (.comes flags)
  | .drop index => (s.liveGuard? index).map fun _ => .goes

def passages (s : StoreUse) : List Action → List Passage
  | [] => []
  | action :: rest => (s.passage? action).toList ++ passages (s.step action) rest

variable {s : StoreUse} {past : List Passage} {first flags saved : Safeguards} {index : Nat}

theorem insideComes : inside (past ++ [.comes flags]) = inside past + 1 := by
  simp [inside, Passage.counted]

theorem insideGoes : inside (past ++ [.goes]) = inside past - 1 := by
  simp [inside, Passage.counted]

theorem insideAllGo (n : Nat) : inside (past ++ List.replicate n .goes) = inside past - n := by
  induction n with
  | zero => simp
  | succ n ih =>
    rw [List.replicate_succ', ← List.append_assoc, insideGoes, ih]
    omega

theorem latestComes : latest? (past ++ [.comes flags]) = some flags := by
  simp [latest?, Passage.flags?]

theorem latestAllGo (n : Nat) : latest? (past ++ List.replicate n .goes) = latest? past := by
  have nobody : (List.replicate n Passage.goes).filterMap Passage.flags? = [] := by
    simp [List.filterMap_replicate, Passage.flags?]
  rw [latest?, List.filterMap_append, nobody, List.append_nil, latest?]

structure Told (first : Safeguards) (s : StoreUse) (past : List Passage) : Prop where
  holders : s.store.holders = inside past
  kept : s.store.kept = first
  current : 0 < s.store.holders → latest? past = some s.store.current
  guards : ∀ index saved, s.liveGuard? index = some saved → saved = first

theorem Told.free (told : Told first s past) (nobody : s.store.holders = 0) :
    s.store.current = first :=
  (SafeguardStore.currentOfFree nobody).trans told.kept

theorem liveGuardAcquired : (s.step (.acquire flags)).liveGuard? index =
    if index = s.guards.length then some s.store.kept else s.liveGuard? index := by
  rw [step, liveGuard?, Slots.added]
  split <;> rfl

theorem liveGuardDropped {dropped : Nat} : (s.step (.drop dropped)).liveGuard? index =
    if index = dropped then none else s.liveGuard? index := by
  cases live : s.liveGuard? dropped with
  | none =>
    simp only [step, live]
    split
    · next same => rw [same, live]
    · rfl
  | some saved =>
    simp only [step, live]
    rw [liveGuard?, Slots.replaced (Option.join_eq_some_iff.mp live)]
    split <;> rfl

theorem toldComes (told : Told first s past) {guards : List (Option Safeguards)}
    (same : ∀ index saved, (⟨s.store.enter flags, guards⟩ : StoreUse).liveGuard? index = some saved →
      saved = first) :
    Told first ⟨s.store.enter flags, guards⟩ (past ++ [.comes flags]) where
  holders := by rw [SafeguardStore.holdersEnter, told.holders, insideComes]
  kept := SafeguardStore.keptEnter.trans told.kept
  current := fun _ => latestComes
  guards := same

theorem toldGoes (told : Told first s past) {guards : List (Option Safeguards)}
    (same : ∀ index saved, (⟨s.store.leave, guards⟩ : StoreUse).liveGuard? index = some saved →
      saved = first) :
    Told first ⟨s.store.leave, guards⟩ (past ++ [.goes]) where
  holders := by rw [SafeguardStore.holdersLeave, told.holders, insideGoes]
  kept := SafeguardStore.keptLeave.trans told.kept
  current := by
    intro held
    have heldBefore : 0 < s.store.holders := by
      rw [SafeguardStore.holdersLeave] at held
      omega
    rw [SafeguardStore.currentLeave held, ← told.current heldBefore]
    exact latestAllGo 1
  guards := same

theorem toldStep (told : Told first s past) (action : Action) :
    Told first (s.step action) (past ++ (s.passage? action).toList) := by
  cases action with
  | enter flags => exact toldComes told told.guards
  | leave => exact toldGoes told told.guards
  | acquire flags =>
    refine toldComes told fun index saved live => ?_
    change (s.step (.acquire flags)).liveGuard? index = some saved at live
    rw [liveGuardAcquired] at live
    split at live
    · exact (Option.some.inj live).symm.trans told.kept
    · exact told.guards index saved live
  | drop dropped =>
    have others : ∀ index saved, (s.step (.drop dropped)).liveGuard? index = some saved →
        saved = first := by
      intro index saved live
      rw [liveGuardDropped, Option.ite_none_left_eq_some] at live
      exact told.guards index saved live.2
    cases live : s.liveGuard? dropped with
    | none => simpa [step, passage?, live] using told
    | some saved =>
      simp only [step, live] at others ⊢
      simpa [passage?, live] using toldGoes told others

theorem toldRun (told : Told first s past) (actions : List Action) :
    Told first (s.run actions) (past ++ s.passages actions) := by
  induction actions generalizing s past with
  | nil => simpa [run, passages] using told
  | cons action rest ih =>
    rw [passages, ← List.append_assoc]
    exact ih (toldStep told action)

theorem toldStart : Told first (start first) [] where
  holders := rfl
  kept := rfl
  current := fun held => by contradiction
  guards := by simp [start, liveGuard?]

theorem droppedAllGo {order : List Nat} (once : order.Nodup)
    (live : ∀ index ∈ order, (s.liveGuard? index).isSome = true) :
    s.passages (order.map .drop) = List.replicate order.length .goes := by
  induction order generalizing s with
  | nil => rfl
  | cons head rest ih =>
    obtain ⟨unrepeated, once⟩ := List.nodup_cons.mp once
    obtain ⟨saved, here⟩ := Option.isSome_iff_exists.mp (live head List.mem_cons_self)
    have others : ∀ index ∈ rest, ((s.step (.drop head)).liveGuard? index).isSome = true := by
      intro index member
      have different : index ≠ head := fun same => unrepeated (same ▸ member)
      rw [liveGuardDropped, if_neg different]
      exact live index (List.mem_cons_of_mem _ member)
    rw [List.map_cons, passages, ih once others]
    simp [passage?, here, List.replicate_succ]

theorem allGone (told : Told first s past) {order : List Action}
    (leaving : s.passages order = List.replicate order.length .goes) :
    (s.run order).store.holders = s.store.holders - order.length ∧
      (s.run order).store.current =
        if order.length < s.store.holders then s.store.current else first := by
  have after := toldRun told order
  rw [leaving] at after
  have holders : (s.run order).store.holders = s.store.holders - order.length := by
    rw [after.holders, insideAllGo, told.holders]
  refine ⟨holders, ?_⟩
  split
  · have stillHeld := after.current (by omega)
    rw [latestAllGo, told.current (by omega)] at stillHeld
    exact (Option.some.inj stillHeld).symm
  · exact after.free (by omega)

theorem overlapRestores (first : Safeguards) (actions : List Action) :
    let s := (start first).run actions
    let past := (start first).passages actions
    s.store.holders = inside past ∧
      (∀ flags, s.answer (.enter flags) = some first ∧ s.answer (.acquire flags) = some first ∧
        (s.step (.acquire flags)).liveGuard? s.guards.length = some first) ∧
      (∀ index saved, s.liveGuard? index = some saved → saved = first) ∧
      (s.store.holders = 0 → s.store.current = first) ∧
      (0 < s.store.holders → latest? past = some s.store.current) ∧
      ∀ order : List Nat, order.Nodup →
        (∀ index ∈ order, (s.liveGuard? index).isSome = true) →
        (s.run (order.map .drop)).store.holders = s.store.holders - order.length ∧
        (s.run (order.map .drop)).store.current =
          if order.length < s.store.holders then s.store.current else first := by
  intro s past
  have told : Told first s past := toldRun toldStart actions
  have kept : some s.store.kept = some first := congrArg some told.kept
  refine ⟨told.holders, fun flags => ⟨kept, kept, ?_⟩, told.guards, told.free, told.current, ?_⟩
  · rw [liveGuardAcquired, if_pos rfl, kept]
  · intro order once live
    have length : (order.map Action.drop).length = order.length := by rw [List.length_map]
    have leaving := droppedAllGo once live
    rw [← length] at leaving ⊢
    exact allGone told leaving

end FaultWatch.StoreUse
