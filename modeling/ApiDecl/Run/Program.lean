import ApiDecl.Corpus.Load
import ApiDecl.Journal.Console
import ApiDecl.Model.Export
import ApiDecl.Reading.Reader
import ApiDecl.Run.Artifact
import ApiDecl.Settings.Resolve

/-!
# A run

A run resolves its settings, loads the corpus and reads the model; nothing is written before all of
that has succeeded. Then it writes the model and a report. Whatever fails is noted, and the run ends
with status one.
-/

namespace ApiDecl.Run

open Corpus (LoadError)
open Files (FileSystem Fault)
open Journal (Level Note Traced)
open Pattern (CharacterNames)
open Reading (ReaderError)
open Settings (Config ConfigError Command DocumentReader Environment Options UsageError)
open Source (TreeMaker)

/-- Who writes the notes of a run. -/
def logger : String := "run_type_reader"

/-- What ends a run early. -/
inductive RunError
  | settings (error : ConfigError)
  | load (error : LoadError)
  | reading (error : ReaderError)
  | write (fault : Fault)
deriving DecidableEq

namespace RunError

/-- The error on its own in words. -/
def detail : RunError → String
  | settings error => error.message
  | load error => error.message
  | reading error => error.message
  | write fault => fault.message

/-- What kind of error it is: of the settings, of a file that is not there, of the declarations, or
another. -/
def label : RunError → String
  | settings (.invalid _) => "Configuration error"
  | load (.noDirectory _) => "File error"
  | load (.unreadable fault) => if fault.cause = .missing then "File error" else "Run failed"
  | write fault => if fault.cause = .missing then "File error" else "Run failed"
  | reading (.read error) =>
    match error.category? with
    | some category => "Model reading failed (" ++ category ++ ")"
    | none => "Run failed"
  | _ => "Run failed"

/-- The note about the error. -/
def message (e : RunError) : String := e.label ++ ": " ++ e.detail

end RunError

/-! ## Reading -/

/-- All that a run has found before it writes anything. -/
structure Findings where
  config : Config
  sourceDir : String
  corpus : Corpus
  result : Reading.Result

/-- Resolve the settings, load the corpus and read the model. -/
def readAll [CharacterNames] (fs : FileSystem) (env : Environment) (o : Options)
    (makeTree : TreeMaker := Source.tree) (readYaml : DocumentReader := Yaml.Document.ofText) :
    Traced RunError Findings := do
  let config ← (Settings.resolve fs env o readYaml).mapError .settings
  let sourceDir ← (Traced.ofExcept (Settings.requireSourceDir config)).mapError .settings
  let corpus ← ((Corpus.load fs sourceDir none makeTree).mapError .load).inPhase "load"
  let result ←
    (Reading.readCorpus corpus config.inclusion config.exclusion).mapError .reading
  return { config, sourceDir, corpus, result }

/-! ## Writing -/

/-- What only the moment of a run decides. -/
structure Moment where
  runId : String
  time : String
  /-- The seconds that the run took. -/
  elapsed : Json

/-- The members of the report of a run. -/
def reportOf (fs : FileSystem) (m : Moment) (r : Findings) : List (String × Json) :=
  [("source_dir", .str (fs.absolute r.sourceDir)),
    ("output_file", .str (fs.absolute r.config.outputFile)),
    ("files_loaded", .int r.corpus.files.length),
    ("files_read", .arr (r.result.files.map .str)),
    ("parse_errors", .int r.corpus.parseErrors),
    ("interfaces", .int r.result.model.interfaces.length),
    ("enums", .int r.result.model.enums.length),
    ("elapsed_seconds", m.elapsed)]

/-- Write the model and the report. -/
def writeAll (fs : FileSystem) (m : Moment) (r : Findings) :
    FileSystem × Traced RunError Unit :=
  let (fs, wroteModel) := writeArtifact fs r.result.model.toJson r.config.outputFile
  match wroteModel with
  | .error fault => (fs, Traced.fail (.write fault))
  | .ok () =>
    let (fs, wroteReport) :=
      writeReport fs (reportOf fs m r) m.runId m.time r.config.reportDir
    (fs, do
      (Traced.note .info logger
        ("Wrote model to " ++ fs.absolute r.config.outputFile)).inPhase "export"
      (Traced.ofExcept wroteReport).mapError .write
      Traced.note .info logger
        ("Wrote run report to " ++ reportPath r.config.reportDir m.runId))

/-! ## The run -/

/-- How a run ends. -/
structure Ending where
  status : Nat
  /-- The notes that are shown. -/
  notes : List Note
  files : FileSystem
  /-- Why the command line was refused. -/
  usage : Option UsageError := none

/-- The least level of notes that are shown. -/
def shownLevel (o : Options) : Level := if o.verbose then .debug else .info

/-- The notes from a level on. -/
def notesFrom (level : Level) (notes : List Note) : List Note :=
  notes.filter fun n => level.rank ≤ n.level.rank

/-- Run with options. -/
def run [CharacterNames] (fs : FileSystem) (env : Environment) (m : Moment) (o : Options)
    (makeTree : TreeMaker := Source.tree) (readYaml : DocumentReader := Yaml.Document.ofText) :
    Ending :=
  let reading := readAll fs env o makeTree readYaml
  let (files, traced) : FileSystem × Traced RunError Unit := match reading.outcome with
    | .error e => (fs, ⟨reading.notes, .error e⟩)
    | .ok r =>
      let (files, written) := writeAll fs m r
      (files, do
        ⟨reading.notes, .ok ()⟩
        written
        Traced.note .info logger
          ("Finished: " ++ toString r.result.model.interfaces.length ++ " interfaces, " ++
            toString r.result.model.enums.length ++ " enums from " ++
            toString r.result.files.length ++ " files"))
  let (status, last) : Nat × List Note := match traced.outcome with
    | .ok () => (0, [])
    | .error e => (1, [{ level := .error, logger, message := e.message }])
  { status, notes := notesFrom (shownLevel o) (traced.notes ++ last), files }

/-- Run with the words of a command line. A command line that is refused ends with status two. -/
def runCommand [CharacterNames] (fs : FileSystem) (env : Environment) (m : Moment)
    (words : List String) (makeTree : TreeMaker := Source.tree)
    (readYaml : DocumentReader := Yaml.Document.ofText) : Ending :=
  match Command.ofWords words with
  | .error e => { status := 2, notes := [], files := fs, usage := some e }
  | .ok .help => { status := 0, notes := [], files := fs }
  | .ok (.run o) => run fs env m o makeTree readYaml

end ApiDecl.Run
