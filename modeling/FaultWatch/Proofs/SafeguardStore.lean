import FaultWatch.Catch.SafeguardStore

/-! Holders and kept flags of a store. Entering and leaving move the count by one; neither changes
the flags that the last holder brings back, which are the current ones when nobody is inside. -/
namespace FaultWatch.SafeguardStore

variable {store : SafeguardStore} {flags : Safeguards}

@[simp] theorem holdersEnter : (store.enter flags).holders = store.holders + 1 := rfl

@[simp] theorem holdersLeave : store.leave.holders = store.holders - 1 := by
  unfold leave
  split <;> simp_all

@[simp] theorem keptEnter : (store.enter flags).kept = store.kept := by
  simp [enter, kept]

@[simp] theorem keptLeave : store.leave.kept = store.kept := by
  unfold leave
  split
  · rfl
  · next one => simp [kept, one]
  · next more => simp [kept, more]

theorem currentOfFree (free : store.holders = 0) : store.current = store.kept := by
  simp [kept, free]

theorem currentLeave (held : 0 < store.leave.holders) : store.leave.current = store.current := by
  unfold leave at *
  split at held
  · rfl
  · contradiction
  · rfl

theorem currentEnterLeave :
    (store.enter flags).leave.current = if store.holders = 0 then store.current else flags := by
  cases inside : store.holders with
  | zero => simp [enter, leave, kept, inside]
  | succ n => simp [enter, leave, inside]

end FaultWatch.SafeguardStore
