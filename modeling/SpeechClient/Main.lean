import SpeechClient.CommandLine.Run

/-!
# The program

The outermost layer of the command: it reads the environment and the two files that the arguments
name, hands them to a run, and prints what the run leaves behind.
-/

namespace SpeechClient.CommandLine

/-- The reason that the system gives for not reading a file. -/
def faultOf : IO.Error → FileError
  | .noFileOrDirectory .. => .notFound
  | .inappropriateType _ 21 _ => .isDirectory
  | .inappropriateType .. => .notDirectory
  | e => .other (toString e)

def lookUp (path : Bytes) : IO (Except FileError FileNode) := do
  try
    let content ← IO.FS.readBinFile path.text
    return .ok (.file content.data.toList)
  catch e =>
    match faultOf e with
    | .isDirectory => return .ok .directory
    | fault => return .error fault

def environment : IO Environment := do
  let entries ← Environment.names.filterMapM fun name => do
    return (← IO.getEnv name).map fun value => (name, utf8 value)
  return ⟨entries⟩

def namedFiles (args : List Bytes) : IO FileTree := do
  let paths := match Arguments.read args with
    | .ok a => a.audio :: a.grammar.toList
    | .error _ => []
  let found ← paths.mapM fun path => return (path, ← lookUp path)
  return ⟨fun path => (found.lookup path).getD (.error .notFound)⟩

end SpeechClient.CommandLine

open SpeechClient in
def main (args : List String) : IO UInt32 := do
  let args := args.map utf8
  let report := CommandLine.run CommandLine.commandName args .missing
    (← CommandLine.environment) (← CommandLine.namedFiles args)
  IO.print report.output
  IO.eprint report.errorOutput
  return report.exitCode.toUInt32
