import FieldOcr.Charset.WithoutIdeographs
import FieldOcr.CommandLine.Execution
import FieldOcr.Run.Unreachable
import FieldOcr.Url.AsciiName

/-!
# The program

The outer layer of the command line: it looks up the environment and the files
that a command line names, executes the command line and brings about what
comes of it.  It has no network, so nothing answers its calls, and it converts
names and writes charsets only as far as no large tables are needed.
-/

namespace FieldOcr
namespace CommandLine

/-- Looks up the environment variables of the options. -/
def readEnvironment : IO Environment := do
  let names := valueOptions.filterMap ValueOption.variable?
  let entries ← names.mapM fun name => do
    return (← IO.getEnv name).map fun value => (name, value)
  return entries.filterMap id

/-- The path of a place. -/
def pathOf (place : List String) : String :=
  "/" ++ "/".intercalate place

/-- The system's number for an attempt to read a directory as a file. -/
def directoryCode : UInt32 := 21

/-- Looks up what stands at a place. -/
def lookUp (place : List String) : IO (Option Storage.Node) := do
  match ← (IO.FS.readBinFile (pathOf place)).toBaseIO with
  | .ok contents => return some (.file contents.toList)
  | .error (.inappropriateType _ code _) =>
      return if code = directoryCode then some .directory else none
  | .error _ => return none

/-- Looks up everything on the way along a path. -/
def observe (files : Storage.Tree) (text : String) : IO Storage.Tree := do
  let path := Storage.Path.ofString text
  let mut observed := files
  let mut place := files.start path
  for part in path.parts do
    if part = ".." then place := place.dropLast
    else if part ≠ "." then
      place := place ++ [part]
      match ← lookUp place with
      | none => pure ()
      | some node => observed := observed.put place node
  return observed

/-- The paths that an invocation names. -/
def Invocation.paths (invocation : Invocation) : List String :=
  [invocation.source, invocation.schema, invocation.trustBundle,
    invocation.output].filterMap id

/-- Looks up the files that a command line names. -/
def observeFiles
    (environment : Environment)
    (words : List String) : IO Storage.Tree := do
  let directory := (← IO.currentDir).toString
  let files : Storage.Tree := ⟨(Storage.Path.ofString directory).parts, []⟩
  match read environment words with
  | .error _ => return files
  | .ok invocation => invocation.paths.foldlM observe files

/-- Stores what was changed. -/
def store (before after : Storage.Tree) : IO Unit := do
  for (place, node) in after.nodes.reverse do
    if before.node? place ≠ some node then
      match node with
      | .directory => IO.FS.createDirAll (pathOf place)
      | .file contents =>
          IO.FS.writeBinFile (pathOf place) (ByteArray.mk contents.toArray)

/-- Executes a command line and returns its exit code. -/
def perform (words : List String) : IO UInt32 := do
  let environment ← readEnvironment
  let before ← observeFiles environment words
  match
      execute Run.queryLimit Run.unreachable environment words
        (.initial before) with
  | none => return 1
  | some ending =>
      store before ending.journal.files
      (← IO.getStdout).putStr ending.output
      (← IO.getStderr).putStr ending.error
      return UInt32.ofNat ending.exitCode

end CommandLine
end FieldOcr

/-- The program. -/
def main (words : List String) : IO UInt32 :=
  FieldOcr.CommandLine.perform words
