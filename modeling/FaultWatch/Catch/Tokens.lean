/-! Cancellation tokens. Clones share one flag: they form a family, and cancelling any of them
cancels all, for good. Tokens are known by their place among the live ones. -/
namespace FaultWatch

structure Tokens where
  flags : List Bool
  live : List Nat
  deriving DecidableEq, Repr

namespace Tokens

inductive Action
  | create
  | clone (index : Nat)
  | cancel (index : Nat)
  | drop (index : Nat)
  deriving DecidableEq, Repr

def start : Tokens := ⟨[], []⟩

def cancelled (tokens : Tokens) (family : Nat) : Bool := tokens.flags.getD family false

def readings (tokens : Tokens) : List Bool := tokens.live.map tokens.cancelled

def step (tokens : Tokens) : Action → Tokens
  | .create => ⟨tokens.flags ++ [false], tokens.live ++ [tokens.flags.length]⟩
  | .clone index => { tokens with live := tokens.live ++ tokens.live[index]?.toList }
  | .cancel index =>
    match tokens.live[index]? with
    | some family => { tokens with flags := tokens.flags.set family true }
    | none => tokens
  | .drop index => { tokens with live := tokens.live.eraseIdx index }

def run (tokens : Tokens) (actions : List Action) : Tokens := actions.foldl step tokens

end Tokens
end FaultWatch
