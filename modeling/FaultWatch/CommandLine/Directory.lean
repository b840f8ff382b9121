import FaultWatch.CommandLine.Outcome
import FaultWatch.Text.Split

/-! A flat directory of files as a value, for runs without a disk, and the walk along a path through
it. A path is walked part by part: nothing lies below a file, a final slash asks for a folder, and
two dots lead to the folder above, where the root is its own parent. The directory is one for
temporary files, in a folder at the root of which nothing else is known; of the root the standard
folders are known. A place is a folder that the walk has reached, with the folders above it, nearest
first. -/
namespace FaultWatch.CommandLine

inductive Content
  | text (text : String)
  | bytes (bytes : List UInt8)
  deriving DecidableEq, Repr

abbrev Directory := List (String × Content)

inductive Node
  | file (content : Content)
  | folder (entries : List (String × Node))

structure Place where
  entries : List (String × Node)
  above : List (List (String × Node))

def Content.read : Content → Except ReadError String
  | .text body => .ok body
  | .bytes raw =>
    match String.fromUTF8? ⟨raw.toArray⟩ with
    | some body => .ok body
    | none => .error .notText

def longestName : Nat := 255

def longestPath : Nat := 4095

namespace Place

def parent (place : Place) : Place :=
  match place.above with
  | [] => place
  | entries :: above => ⟨entries, above⟩

def enter (place : Place) (entries : List (String × Node)) : Place :=
  ⟨entries, place.entries :: place.above⟩

def read (place : Place) : List String → Except ReadError String
  | [] => .error .isDirectory
  | part :: rest =>
    if part = "." then place.read rest
    else if part = ".." then place.parent.read rest
    else if part.utf8ByteSize > longestName then .error .nameTooLong
    else
      match List.lookup part place.entries with
      | none => .error .notFound
      | some (.folder entries) => (place.enter entries).read rest
      | some (.file content) => if rest = [] then content.read else .error .notDirectory

def rootFolders : List String :=
  ["bin", "boot", "etc", "home", "lib", "media", "mnt", "opt", "proc", "root", "run", "sbin", "srv",
    "sys", "tmp", "usr", "var"]

def rootEntries : List (String × Node) :=
  ("dev", .folder [("null", .file (.text ""))]) :: rootFolders.map fun name => (name, .folder [])

def root : Place := ⟨rootEntries, []⟩

end Place

namespace Directory

def place (directory : Directory) : Place :=
  ⟨directory.map fun entry => (entry.1, .file entry.2), [[], Place.rootEntries]⟩

def parts (path : List Char) : List String :=
  (Text.fields (· == '/') path).map String.ofList ++
    if path.getLast? = some '/' then ["."] else []

def start (directory : Directory) (path : List Char) : Place :=
  if path.head? = some '/' then .root else directory.place

def read (directory : Directory) (path : String) : Except ReadError String :=
  if path = "" then .error .notFound
  else if path.utf8ByteSize > longestPath then .error .nameTooLong
  else (directory.start path.toList).read (parts path.toList)

end Directory
end FaultWatch.CommandLine
