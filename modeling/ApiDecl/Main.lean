import ApiDecl.Json.Parse
import ApiDecl.Run.Program

/-!
# The command line

The words of the command line are the options of a run. Standard input holds the time, on its first
line, and then the files, one on each line: a JSON array of the path and the text of the file.
Standard output gets the files that the run has made, in the same form, and standard error gets
the notes.
-/

namespace ApiDecl.Run

open Files (FileSystem)
open Settings (Environment)

/-- The directory in which relative paths start. -/
def workDirectory : String := "/work"

/-- The variables that a run looks at. -/
def knownVariables : List String :=
  ["STRICT_CONFIG_VALIDATION", "TYPE_READER_INCLUDE", "TYPE_READER_EXCLUDE", "TYPE_READER_OUTPUT"]

/-- The file that a line describes. -/
def placeLine (fs : FileSystem) (text : String) : Except String FileSystem :=
  match Json.parse text.toList with
  | .ok (.arr [.str path, .str content]) => .ok (fs.place path (Text.Utf8.encode content))
  | .ok _ => .error ("not a path with a text: " ++ text)
  | .error e => .error e.message

/-- The line that describes a file. -/
def fileLine (location : Files.Location) (content : List UInt8) : String :=
  let path := Path.relative workDirectory ("/" ++ "/".intercalate location)
  String.ofList (Json.compact (.arr [.str path, .str (Text.Utf8.decodeLossy content)]))

/-- The lines of a stream that are not empty, without their ends. -/
partial def readLines (input : IO.FS.Stream) : IO (List String) := do
  let text ← input.getLine
  if text.isEmpty then return []
  let text := Text.trimmed text
  let rest ← readLines input
  return if text.isEmpty then rest else text :: rest

/-- The variables that are set. -/
def readEnvironment : IO Environment := do
  let found ← knownVariables.filterMapM fun name => do
    return (← IO.getEnv name).map fun value => (name, value)
  return ⟨found⟩

/-- A new run id. -/
def newRunId : IO String := do
  let bytes ← IO.getRandomBytes 6
  return String.ofList (bytes.toList.flatMap fun b => Text.hexDigits 2 b.toNat)

/-- Run on the files of standard input. -/
def execute (words : List String) : IO UInt32 := do
  let started ← IO.monoMsNow
  let lines ← readLines (← IO.getStdin)
  let output ← IO.getStdout
  let errors ← IO.getStderr
  match (lines.drop 1).foldlM placeLine (.bare workDirectory) with
  | .error message =>
    errors.putStrLn message
    return 2
  | .ok before =>
    let spent := (← IO.monoMsNow) - started
    let moment : Moment :=
      { runId := ← newRunId
        time := lines.headD ""
        elapsed := .float (.ofDecimal false spent (-3)) }
    let ending := runCommand before (← readEnvironment) moment words
    ending.notes.forM fun n => errors.putStrLn (n.line moment.runId)
    match ending.usage with
    | some e => errors.putStrLn e.line
    | none => pure ()
    (ending.files.filesBeyond before).forM fun (location, content) =>
      output.putStrLn (fileLine location content)
    return ending.status.toUInt32

end ApiDecl.Run

/-- The program. -/
def main (words : List String) : IO UInt32 := ApiDecl.Run.execute words
