import ApiDecl.Files.Tree
import ApiDecl.Journal.Traced
import ApiDecl.Json.Parse
import ApiDecl.Reading.Selection
import ApiDecl.Yaml.Value

/-!
# Settings

Settings come from a file, then from the environment. What is wrong with the file is a problem:
in strict mode it ends the reading of the settings, otherwise it is noted and the default stays.
A pattern that is none is an error in both modes.
-/

namespace ApiDecl.Settings

open Files (FileSystem Fault)
open Journal (Traced)
open Pattern (CharacterNames)
open Reading (BadPattern)
open Yaml (Scalar Value Document)

/-- Who writes the notes about settings. -/
def logger : String := "core.reader_config"

/-- The variables of the environment. -/
structure Environment where
  entries : List (String × String)

/-- The value of a variable. -/
def Environment.get? (env : Environment) (name : String) : Option String :=
  env.entries.lookup name

/-- The settings that a file can give. -/
inductive Field
  | sourceDir
  | inclusion
  | exclusion
  | outputFile
  | reportDir
deriving DecidableEq, Repr

namespace Field

/-- All settings. -/
def all : List Field := [.sourceDir, .inclusion, .exclusion, .outputFile, .reportDir]

/-- The key of a setting in a file. -/
def key : Field → String
  | sourceDir => "source_dir"
  | inclusion => "include_pattern"
  | exclusion => "exclude_pattern"
  | outputFile => "output_file"
  | reportDir => "report_dir"

/-- Is the setting a pattern? -/
def isPattern : Field → Bool
  | inclusion | exclusion => true
  | _ => false

end Field

/-- The settings of a run. -/
structure Config where
  sourceDir : Option String := none
  inclusion : Option String := none
  exclusion : Option String := none
  outputFile : String := "output/model.json"
  reportDir : String := "output/run_reports"
deriving DecidableEq, Repr

namespace Config

/-- The value of a setting. -/
def get? (c : Config) : Field → Option String
  | .sourceDir => c.sourceDir
  | .inclusion => c.inclusion
  | .exclusion => c.exclusion
  | .outputFile => some c.outputFile
  | .reportDir => some c.reportDir

/-- Settings with a value for one of them. -/
def set (f : Field) (value : String) (c : Config) : Config :=
  match f with
  | .sourceDir => { c with sourceDir := some value }
  | .inclusion => { c with inclusion := some value }
  | .exclusion => { c with exclusion := some value }
  | .outputFile => { c with outputFile := value }
  | .reportDir => { c with reportDir := value }

/-- Settings with a value for one of them, if there is a value. -/
def set? (f : Field) (value : Option String) (c : Config) : Config :=
  match value with
  | some v => c.set f v
  | none => c

end Config

/-! ## Problems -/

/-- What can be wrong with settings. -/
inductive Problem
  | missingFile (path : String)
  | unparsable (path detail : String)
  | emptyFile (path : String)
  | notMapping (typeName : String)
  | unknownKeys (keys : List String)
  | notText (field : Field)
  | badPattern (field : String) (bad : BadPattern)
  | noSourceDir
deriving DecidableEq

/-- The problem in words. -/
def Problem.message : Problem → String
  | missingFile path => "Reader config file not found: " ++ path
  | unparsable path detail => "Failed to parse reader config at " ++ path ++ ": " ++ detail
  | emptyFile path => "Reader config file is empty: " ++ path
  | notMapping typeName => "Unexpected reader config payload type: " ++ typeName
  | unknownKeys keys => "Unknown reader config keys: " ++ ", ".intercalate keys
  | notText field => "Reader config '" ++ field.key ++ "' must be a non-empty string"
  | badPattern field bad => field ++ " is not a valid regex: " ++ bad.message
  | noSourceDir => "source_dir is required (use --source-dir or config)"

/-- Why settings cannot be read. -/
inductive ConfigError
  | invalid (problem : Problem)
  | unreadable (fault : Fault)
  | undecodable (error : Text.Utf8.DecodeError)
  /-- A scalar of the file does not have a value of its kind. -/
  | badScalar (error : Yaml.Error)
  /-- A key that is not known is not a text. -/
  | keyNotText (typeName : String)
  /-- Keys that are not known cannot be sorted. -/
  | keysNotComparable (reason : Yaml.Unordered)
  /-- A pattern goes beyond what patterns can do. -/
  | pattern (bad : BadPattern)
deriving DecidableEq

/-- What is said about a text that is no document. -/
def malformedText : String := "<yaml error>"

/-- A fault of a document in words. -/
def scalarMessage : Yaml.Error → String
  | .malformed => malformedText
  | .badValue message => message
  | .badTruth word => Text.quoted word
  | .noDigits => "string index out of range"
  | .noTime => "'NoneType' object has no attribute 'groupdict'"

/-- The error in words. -/
def ConfigError.message : ConfigError → String
  | invalid problem => problem.message
  | unreadable fault => fault.message
  | undecodable error => error.message
  | badScalar error => scalarMessage error
  | keyNotText typeName => "sequence item 0: expected str instance, " ++ typeName ++ " found"
  | keysNotComparable reason => reason.message
  | pattern bad => bad.message

/-- A problem ends the reading in strict mode and is noted otherwise. -/
def complain (strict : Bool) (p : Problem) : Traced ConfigError Unit :=
  if strict then Traced.fail (.invalid p)
  else Traced.note .warning logger (p.message ++ "; continuing with defaults")

/-! ## The file -/

/-- Line ends of any kind as line feeds. -/
def unifyLines : List Char → List Char
  | '\r' :: '\n' :: rest => '\n' :: unifyLines rest
  | '\r' :: rest => '\n' :: unifyLines rest
  | c :: rest => c :: unifyLines rest
  | [] => []

/-- Does the path name a JSON file? -/
def isJsonPath (path : String) : Bool :=
  (Path.ending path).toList.map Char.toLower = ".json".toList

/-- A way to read documents. -/
abbrev DocumentReader := List Char → Except Yaml.Error Document

/-- The document of a text, or what is said about it when there is none. An integer in it that is
too long ends the reading, as a scalar without a value does. How deep a document may nest before the
interpreter gives up is left to its settings: here every depth is read. -/
def parseDocument (path : String) (text : List Char)
    (readYaml : DocumentReader := Document.ofText) :
    Except Yaml.Error (Except String Document) :=
  if isJsonPath path then
    match Json.parse text (some Decimal.digitLimit) with
    | .ok j => .ok (.ok (.ofJson j))
    | .error e =>
      if e.cause.isExcess then .error (.badValue e.message) else .ok (.error e.message)
  else
    match readYaml text with
    | .ok d => .ok (.ok d)
    | .error .malformed => .ok (.error malformedText)
    | .error e => .error e

/-- The members of the mapping that a settings file holds. A file without one is a problem. -/
def loadMembers (fs : FileSystem) (path : String) (strict : Bool)
    (readYaml : DocumentReader := Document.ofText) :
    Traced ConfigError (List (Scalar × Value)) := do
  let path := Path.normalize path
  match fs.read path with
  | .error fault =>
    if fault.cause = .missing then do
      complain strict (.missingFile path)
      return []
    else Traced.fail (.unreadable fault)
  | .ok content => do
    let text ← Traced.ofExcept ((Text.Utf8.decodeChars content).mapError .undecodable)
    let parsed := parseDocument path (unifyLines text) readYaml
    match ← Traced.ofExcept (parsed.mapError .badScalar) with
    | .error detail =>
      complain strict (.unparsable path detail)
      return []
    | .ok (.mapping members) => return members
    | .ok (.other value) =>
      complain strict
        (if value = .scalar .null then .emptyFile path else .notMapping value.typeName)
      return []

/-! ## Keys -/

/-- The text of a key that is one. -/
def keyText? : Scalar → Option String
  | .str s => some s
  | _ => none

/-- Is the key one of a setting? -/
def isKnown (key : Scalar) : Bool := Field.all.any fun f => key = .str f.key

/-- Put a key into sorted ones. -/
def insertKey (key : Scalar) : List Scalar → Except ConfigError (List Scalar)
  | [] => .ok [key]
  | k :: rest =>
    match key.before k with
    | .error reason => .error (.keysNotComparable reason)
    | .ok true => .ok (key :: k :: rest)
    | .ok false => do return k :: (← insertKey key rest)

/-- The keys that are not known, sorted. All of them have to be texts. -/
def unknownKeys (members : List (Scalar × Value)) : Except ConfigError (List String) := do
  let unknown := (members.map (·.1)).filter fun key => !isKnown key
  let texts := unknown.filterMap keyText?
  if texts.length = unknown.length then return texts.mergeSort fun a b => decide (a ≤ b)
  else
    let sorted ← unknown.foldlM (fun done key => insertKey key done) []
    throw (.keyNotText ((sorted.head?.map Scalar.fullType).getD ""))

/-! ## Values -/

/-- Settings with the value that a file gives to one of them. Patterns are taken as they are,
other values without the blanks around them. -/
def applyMember (members : List (Scalar × Value)) (strict : Bool) (c : Config) (f : Field) :
    Traced ConfigError Config :=
  match members.lookup (.str f.key) with
  | none => pure c
  | some (.scalar .null) => pure c
  | some (.scalar (.str s)) =>
    if (Text.trimmed s).isEmpty then do
      complain strict (.notText f)
      return c
    else pure (c.set f (if f.isPattern then s else Text.trimmed s))
  | some _ => do
    complain strict (.notText f)
    return c

/-- The variables that override settings. -/
def overrides : List (String × Field) :=
  [("TYPE_READER_INCLUDE", .inclusion), ("TYPE_READER_EXCLUDE", .exclusion),
    ("TYPE_READER_OUTPUT", .outputFile)]

/-- Settings with what the environment overrides. An empty variable overrides nothing. -/
def applyEnvironment (env : Environment) (c : Config) : Config :=
  overrides.foldl (fun c (name, f) => c.set? f ((env.get? name).filter (!·.isEmpty))) c

/-- Check that a text is a pattern. -/
def validatePattern [CharacterNames] (field text : String) : Except ConfigError Unit :=
  match Reading.compilePattern text with
  | .ok _ => .ok ()
  | .error bad =>
    .error (if bad.error.isPatternFault then .invalid (.badPattern field bad) else .pattern bad)

/-- Check the patterns of settings. -/
def validatePatterns [CharacterNames] (c : Config) : Except ConfigError Unit :=
  [Field.inclusion, Field.exclusion].forM fun f =>
    match c.get? f with
    | some text => validatePattern f.key text
    | none => .ok ()

/-- Does the environment ask for strict mode? -/
def strictMode (env : Environment) (default : Bool) : Bool :=
  match env.get? "STRICT_CONFIG_VALIDATION" with
  | none => default
  | some value =>
    ["1", "true", "yes", "on"].any fun word =>
      (Text.trim value.toList).map Char.toLower = word.toList

/-- Read the settings of a file and of the environment, looking at the settings of the file in an
order. -/
def loadInOrder [CharacterNames] (order : List Field) (fs : FileSystem) (env : Environment)
    (path : Option String) (strict : Bool) (readYaml : DocumentReader := Document.ofText) :
    Traced ConfigError Config := do
  let members ← match path with
    | some p => if p.isEmpty then pure [] else loadMembers fs p strict readYaml
    | none => pure []
  let unknown ← Traced.ofExcept (unknownKeys members)
  if !unknown.isEmpty then complain strict (.unknownKeys unknown)
  let fromFile ← order.foldlM (applyMember members strict) {}
  let config := applyEnvironment env fromFile
  Traced.ofExcept (validatePatterns config)
  return config

/-- Read the settings of a file and of the environment. -/
def load [CharacterNames] (fs : FileSystem) (env : Environment) (path : Option String)
    (strict : Bool) (readYaml : DocumentReader := Document.ofText) : Traced ConfigError Config :=
  loadInOrder Field.all fs env path strict readYaml

end ApiDecl.Settings
