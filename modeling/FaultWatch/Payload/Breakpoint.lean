import FaultWatch.Family
import FaultWatch.Term
import FaultWatch.Json.Read

/-! Breakpoints, watchpoints and trace traps. On arm64 the subcode of a breakpoint tells a single
step (zero) and the two instruction words of debuggers from an address; all 64 bits count. -/
namespace FaultWatch

inductive Breakpoint.Trap
  | debug
  | breakpoint
  | outOfBounds
  deriving DecidableEq, Repr

inductive Breakpoint
  | breakpoint (address : UInt64)
  | debuggerTrap (instruction : UInt32)
  | watchpoint (address : UInt64)
  | singleStep
  | trap (kind : Breakpoint.Trap) (subcode : UInt64)
  deriving DecidableEq, Repr

namespace Breakpoint
namespace Trap

def ofCode? : Int → Option Trap
  | 1 => some debug
  | 2 => some breakpoint
  | 7 => some outOfBounds
  | _ => none

def all : List Trap := [debug, breakpoint, outOfBounds]

def title : Trap → String
  | debug => "Debug"
  | breakpoint => "Breakpoint"
  | outOfBounds => "OutOfBounds"

end Trap

def debuggerWords : List UInt64 := [0xe7ffdefe, 0xe7ffdeff]

def ofArmSubcode (subcode : UInt64) : Breakpoint :=
  if subcode = 0 then singleStep
  else if subcode ∈ debuggerWords then debuggerTrap subcode.toUInt32
  else breakpoint subcode

def decode? (family : Family) (code subcode : Int64) : Option Breakpoint :=
  match family, code.toInt with
  | .arm64, 1 => some (ofArmSubcode subcode.toUInt64)
  | .arm64, 0x102 => some (watchpoint subcode.toUInt64)
  | .arm64, _ => none
  | .x86, n => (Trap.ofCode? n).map fun kind => trap kind subcode.toUInt64

def term : Breakpoint → Term
  | breakpoint address => .record "Breakpoint" [("address", .number address.toNat)]
  | debuggerTrap word => .record "DebuggerTrap" [("instruction", .number word.toNat)]
  | watchpoint address => .record "Watchpoint" [("address", .number address.toNat)]
  | singleStep => .name "SingleStep"
  | trap kind subcode =>
    .record "Trap" [("kind", .name kind.title), ("subcode", .number subcode.toNat)]

def toJson : Breakpoint → Json
  | breakpoint address =>
    .object [("Breakpoint", .object [("address", .number address.toNat)])]
  | debuggerTrap word =>
    .object [("DebuggerTrap", .object [("instruction", .number word.toNat)])]
  | watchpoint address =>
    .object [("Watchpoint", .object [("address", .number address.toNat)])]
  | singleStep => .string "SingleStep"
  | trap kind subcode =>
    .object [("Trap",
      .object [("kind", .string kind.title), ("subcode", .number subcode.toNat)])]

def ofJson? (j : Json) : Option Breakpoint :=
  match j.choice? with
  | some ("Breakpoint", some body) => do
    let [address] ← body.members? ["address"] | none
    return breakpoint (← Json.required Json.uint64? address)
  | some ("DebuggerTrap", some body) => do
    let [word] ← body.members? ["instruction"] | none
    return debuggerTrap (← Json.required Json.uint32? word)
  | some ("Watchpoint", some body) => do
    let [address] ← body.members? ["address"] | none
    return watchpoint (← Json.required Json.uint64? address)
  | some ("Trap", some body) => do
    let [kind, subcode] ← body.members? ["kind", "subcode"] | none
    return trap (← Json.required (Json.named? Trap.all Trap.title) kind)
      (← Json.required Json.uint64? subcode)
  | _ => do
    let "SingleStep" ← j.bareChoice? | none
    return singleStep

end Breakpoint
end FaultWatch
