import FaultWatch.Text.Blank
import FaultWatch.Text.Numeral
import FaultWatch.Json.Read

/-! The thirteen kinds of execution fault, in the order of the kernel's exception numbers 1 to 13.
A category is written by its number or, in any case, by its hyphenated name. -/
namespace FaultWatch

inductive Category
  | badAccess
  | badInstruction
  | arithmetic
  | emulation
  | software
  | breakpoint
  | syscall
  | kernelSyscall
  | rpcAlert
  | crash
  | resourceLimit
  | guardViolation
  | corpseNotify
  deriving DecidableEq, Repr

namespace Category

def all : List Category :=
  [badAccess, badInstruction, arithmetic, emulation, software, breakpoint, syscall, kernelSyscall,
    rpcAlert, crash, resourceLimit, guardViolation, corpseNotify]

def number : Category → Nat
  | badAccess => 1
  | badInstruction => 2
  | arithmetic => 3
  | emulation => 4
  | software => 5
  | breakpoint => 6
  | syscall => 7
  | kernelSyscall => 8
  | rpcAlert => 9
  | crash => 10
  | resourceLimit => 11
  | guardViolation => 12
  | corpseNotify => 13

def ofNumber? (n : Int) : Option Category := all.find? fun c => (c.number : Int) == n

def name : Category → String
  | badAccess => "bad-access"
  | badInstruction => "bad-instruction"
  | arithmetic => "arithmetic"
  | emulation => "emulation"
  | software => "software"
  | breakpoint => "breakpoint"
  | syscall => "syscall"
  | kernelSyscall => "kernel-syscall"
  | rpcAlert => "rpc-alert"
  | crash => "crash"
  | resourceLimit => "resource-limit"
  | guardViolation => "guard-violation"
  | corpseNotify => "corpse-notify"

def title : Category → String
  | badAccess => "BadAccess"
  | badInstruction => "BadInstruction"
  | arithmetic => "Arithmetic"
  | emulation => "Emulation"
  | software => "Software"
  | breakpoint => "Breakpoint"
  | syscall => "Syscall"
  | kernelSyscall => "KernelSyscall"
  | rpcAlert => "RpcAlert"
  | crash => "Crash"
  | resourceLimit => "ResourceLimit"
  | guardViolation => "GuardViolation"
  | corpseNotify => "CorpseNotify"

def bitName : Category → String
  | badAccess => "BAD_ACCESS"
  | badInstruction => "BAD_INSTRUCTION"
  | arithmetic => "ARITHMETIC"
  | emulation => "EMULATION"
  | software => "SOFTWARE"
  | breakpoint => "BREAKPOINT"
  | syscall => "SYSCALL"
  | kernelSyscall => "KERNEL_SYSCALL"
  | rpcAlert => "RPC_ALERT"
  | crash => "CRASH"
  | resourceLimit => "RESOURCE_LIMIT"
  | guardViolation => "GUARD_VIOLATION"
  | corpseNotify => "CORPSE_NOTIFY"

def ofName? (word : List Char) : Option Category :=
  all.find? fun c => Text.sameWord c.name.toList word

def ofText? (cs : List Char) : Option Category :=
  let word := Text.trim cs
  match Text.signed? 0x80000000 word with
  | some n => ofNumber? n
  | none => ofName? word

def toJson (c : Category) : Json := .string c.name

def ofJson? (j : Json) : Option Category := j.named? all name

end Category
end FaultWatch
