import FaultWatch.Catch.Safeguards

/-! The store of the current safeguards. Holders may overlap in any order; the flags from before the
first holder come back when the last one leaves. While anyone holds the store, the flags are those
of the latest to enter, even after that holder has left. A guard enters when it is made and leaves
when it is dropped. -/
namespace FaultWatch

structure SafeguardStore where
  current : Safeguards
  saved : Safeguards
  holders : Nat
  deriving DecidableEq, Repr

namespace SafeguardStore

def holding (flags : Safeguards) : SafeguardStore := ⟨flags, flags, 0⟩

def kept (store : SafeguardStore) : Safeguards :=
  if store.holders = 0 then store.current else store.saved

def enter (flags : Safeguards) (store : SafeguardStore) : SafeguardStore :=
  ⟨flags, store.kept, store.holders + 1⟩

def leave (store : SafeguardStore) : SafeguardStore :=
  match store.holders with
  | 0 => store
  | 1 => { store with current := store.saved, holders := 0 }
  | n + 2 => { store with holders := n + 1 }

end SafeguardStore

structure StoreUse where
  store : SafeguardStore
  guards : List (Option Safeguards)
  deriving DecidableEq, Repr

namespace StoreUse

inductive Action
  | enter (flags : Safeguards)
  | leave
  | acquire (flags : Safeguards)
  | drop (index : Nat)
  deriving DecidableEq, Repr

def start (flags : Safeguards) : StoreUse := ⟨.holding flags, []⟩

def liveGuard? (s : StoreUse) (index : Nat) : Option Safeguards := s.guards[index]?.join

def answer (s : StoreUse) : Action → Option Safeguards
  | .enter _ => some s.store.kept
  | .leave => none
  | .acquire _ => some s.store.kept
  | .drop index => s.liveGuard? index

def step (s : StoreUse) : Action → StoreUse
  | .enter flags => { s with store := s.store.enter flags }
  | .leave => { s with store := s.store.leave }
  | .acquire flags => ⟨s.store.enter flags, s.guards ++ [some s.store.kept]⟩
  | .drop index =>
    match s.liveGuard? index with
    | some _ => ⟨s.store.leave, s.guards.set index none⟩
    | none => s

def run (s : StoreUse) (actions : List Action) : StoreUse := actions.foldl step s

def finish (s : StoreUse) : StoreUse := s.run ((List.range s.guards.length).map .drop)

end StoreUse
end FaultWatch
