import FaultWatch.Text.Blank
import FaultWatch.Json.Read

/-! Processor families. Each has tables of its own for the faults that the processor raises. -/
namespace FaultWatch

inductive Family
  | arm64
  | x86
  deriving DecidableEq, Repr

namespace Family

def name : Family → String
  | arm64 => "arm64"
  | x86 => "x86_64"

def title : Family → String
  | arm64 => "Arm64"
  | x86 => "X86_64"

def spellings : Family → List String
  | arm64 => ["arm64", "aarch64", "arm"]
  | x86 => ["x86_64", "x86-64", "amd64", "x86", "i386"]

def ofText? (cs : List Char) : Option Family :=
  [arm64, x86].find? fun f => f.spellings.any fun s => Text.sameWord s.toList (Text.trim cs)

def toJson (f : Family) : Json := .string f.name

def ofJson? (j : Json) : Option Family := j.named? [arm64, x86] name

/-- The family of the machine that the program is built for, which is settled when it is compiled.
Here that is x86_64, the build on which the program was compared. -/
def host : Family := x86

end Family
end FaultWatch
