import FaultWatch.CommandLine.Outcome

/-! The program itself: it reads the file that a request names, if any, and prints the outcome. -/
namespace FaultWatch.CommandLine

/-- The system's number of an error; opening a file reports it negated. -/
def systemNumber (code : UInt32) : UInt32 := if code < 0x80000000 then code else 0 - code

def readErrorOf : IO.Error → ReadError
  | .noFileOrDirectory .. => .notFound
  | .permissionDenied .. => .denied
  | .inappropriateType _ code _ =>
    if systemNumber code = 20 then .notDirectory else .isDirectory
  | .invalidArgument _ code details =>
    if systemNumber code = 36 then .nameTooLong else .other details
  | error => .other (toString error)

def readFile (path : String) : IO (Except ReadError String) := do
  try
    match String.fromUTF8? (← IO.FS.readBinFile path) with
    | some text => return .ok text
    | none => return .error .notText
  catch error => return .error (readErrorOf error)

def contentsFor : Except Refusal Request → IO (Except ReadError String)
  | .ok request =>
    match request.path? with
    | some path => readFile path
    | none => return .error .notFound
  | .error _ => return .error .notFound

end FaultWatch.CommandLine

def main (args : List String) : IO UInt32 := do
  let request := FaultWatch.CommandLine.Request.ofWords args
  let contents ← FaultWatch.CommandLine.contentsFor request
  let outcome := FaultWatch.CommandLine.respond (fun _ => contents) request
  (← IO.getStdout).putStr outcome.stdout
  (← IO.getStderr).putStr outcome.stderr
  return UInt32.ofNat outcome.exit
