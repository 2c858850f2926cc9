import ApiDecl.Files.Tree
import ApiDecl.Json.Render
import ApiDecl.Text.Utf8

/-!
# Written results

A result is a JSON value in its canonical text: indented, with sorted keys and a line end. The
directories on the way to its file are made first; they stay when the file cannot be written. A run
report is a result that always tells the run and the time.
-/

namespace ApiDecl.Run

open Files (FileSystem Fault)

/-- The text of a result. -/
def artifactText (payload : Json) : List Char := Json.render payload ++ ['\n']

/-- Write a result to a path. -/
def writeArtifact (fs : FileSystem) (payload : Json) (path : String) :
    FileSystem × Except Fault Unit :=
  match fs.makeDirectories (Path.parent (fs.absolute path)) with
  | .error fault => (fs, .error fault)
  | .ok made =>
    match made.write path (Text.Utf8.encodeChars (artifactText payload)) with
    | .error fault => (made, .error fault)
    | .ok written => (written, .ok ())

/-- Where reports are written unless another directory is given. -/
def defaultReportDir : String := "output/run_reports"

/-- The path of the report of a run. -/
def reportPath (directory runId : String) : String := Path.append directory (runId ++ ".json")

/-- Members with a value for a key that is not there. -/
def withDefault (key : String) (value : Json) (members : List (String × Json)) :
    List (String × Json) :=
  if (members.lookup key).isSome then members else members ++ [(key, value)]

/-- The members of a report with the run and the time. -/
def reportMembers (members : List (String × Json)) (runId time : String) : List (String × Json) :=
  members |> withDefault "run_id" (.str runId) |> withDefault "timestamp_utc" (.str time)

/-- Write the report of a run into a directory. -/
def writeReport (fs : FileSystem) (members : List (String × Json)) (runId time directory : String) :
    FileSystem × Except Fault Unit :=
  writeArtifact fs (.obj (reportMembers members runId time)) (reportPath directory runId)

end ApiDecl.Run
