/-! A cell that takes the first value offered and gives it away once. -/
namespace FaultWatch

structure Decision (τ : Type) where
  decided : Bool
  value : Option τ
  deriving DecidableEq, Repr

namespace Decision

variable {τ : Type}

def undecided : Decision τ := ⟨false, none⟩

def offer (value : τ) (cell : Decision τ) : Decision τ :=
  if cell.decided then cell else ⟨true, some value⟩

def accepts (cell : Decision τ) : Bool := !cell.decided

def take? (cell : Decision τ) : Option (τ × Decision τ) :=
  cell.value.map fun value => (value, { cell with value := none })

inductive Action (τ : Type)
  | offer (value : τ)
  | wait
  | read
  deriving DecidableEq, Repr

inductive Answer (τ : Type)
  | accepted (first : Bool)
  | value (value : τ)
  | blocked
  | isDecided (decided : Bool)
  deriving DecidableEq, Repr

def answer (cell : Decision τ) : Action τ → Answer τ
  | .offer _ => .accepted cell.accepts
  | .wait =>
    match cell.take? with
    | some (value, _) => .value value
    | none => .blocked
  | .read => .isDecided cell.decided

def step (cell : Decision τ) : Action τ → Decision τ
  | .offer value => cell.offer value
  | .wait =>
    match cell.take? with
    | some (_, rest) => rest
    | none => cell
  | .read => cell

def run (cell : Decision τ) (actions : List (Action τ)) : Decision τ := actions.foldl step cell

end Decision
end FaultWatch
