import ApiDecl.Text.Quoted
import ApiDecl.Text.Word

/-!
# The words of a command line

A word that starts with a hyphen is an option; two hyphens alone make everything after them a
value. An option may be shortened as long as it stays unique. Its value is the next word, or what
follows an equals sign. Words that belong to no option are refused.
-/

namespace ApiDecl.Settings

/-- The options. -/
inductive OptionName
  | help
  | sourceDir
  | config
  | inclusion
  | exclusion
  | outputFile
  | reportDir
  | verbose
deriving DecidableEq, Repr

/-- How the options are written. -/
def spellings : List (String × OptionName) :=
  [("-h", .help), ("--help", .help), ("--source-dir", .sourceDir), ("--config", .config),
    ("--include", .inclusion), ("--exclude", .exclusion), ("--output-file", .outputFile),
    ("--report-dir", .reportDir), ("--verbose", .verbose)]

/-- What messages call an option: all its spellings. -/
def OptionName.label (o : OptionName) : String :=
  "/".intercalate ((spellings.filter (·.2 = o)).map (·.1))

/-- Is the option a mark without a value? -/
def OptionName.isMark : OptionName → Bool
  | .help | .verbose => true
  | _ => false

/-- What is written directly after an option. -/
structure Attached where
  text : String
  /-- Does an equals sign stand before it? -/
  marked : Bool
deriving DecidableEq, Repr

/-- A word of a command line. -/
inductive Word
  | value
  | separator
  | option (name : OptionName) (isShort : Bool) (attached : Option Attached)
  | unknown
deriving DecidableEq, Repr

/-- Why a command line is refused. -/
inductive UsageError
  | ambiguous (word : String) (matching : List String)
  | missingValue (option : OptionName)
  | strayValue (option : OptionName) (text : String)
  | unrecognized (words : List String)
deriving DecidableEq, Repr

/-- The error in words. -/
def UsageError.message : UsageError → String
  | ambiguous word matching =>
    "ambiguous option: " ++ word ++ " could match " ++ ", ".intercalate matching
  | missingValue option => "argument " ++ option.label ++ ": expected one argument"
  | strayValue option text =>
    "argument " ++ option.label ++ ": ignored explicit argument " ++ Text.quoted text
  | unrecognized words => "unrecognized arguments: " ++ " ".intercalate words

/-- What the program calls itself. -/
def programName : String := "run_type_reader.py"

/-- The line that says why a command line is refused. -/
def UsageError.line (e : UsageError) : String := programName ++ ": error: " ++ e.message

/-! ## Words -/

/-- Does the word look like a negative number? -/
def isNegativeNumber (cs : List Char) : Bool :=
  let cs := if cs.getLast? = some '\n' then cs.dropLast else cs
  match cs with
  | '-' :: rest =>
    let whole := rest.takeWhile Text.isDecimal
    match rest.drop whole.length with
    | [] => !whole.isEmpty
    | '.' :: fraction => !fraction.isEmpty && fraction.all Text.isDecimal
    | _ => false
  | _ => false

/-- A word cut at its first equals sign. -/
def cutAtEquals (cs : List Char) : List Char × Option Attached :=
  match cs.dropWhile (· ≠ '=') with
  | [] => (cs, none)
  | _ :: rest => (cs.takeWhile (· ≠ '='), some ⟨String.ofList rest, true⟩)

/-- The options that a word may be a short form of. -/
def matching (cs : List Char) : List (String × Word) :=
  match cs with
  | '-' :: '-' :: _ =>
    let (stem, attached) := cutAtEquals cs
    (spellings.filter fun (s, _) => stem.isPrefixOf s.toList).map fun (s, o) =>
      (s, .option o false attached)
  | _ =>
    (spellings.filter fun (s, _) => cs.take 2 = s.toList).map fun (s, o) =>
      (s, .option o true (some ⟨String.ofList (cs.drop 2), false⟩))

/-- What a word that no separator precedes is. -/
def classify (word : String) : Except UsageError Word :=
  let cs := word.toList
  let (stem, attached) := cutAtEquals cs
  if cs.head? ≠ some '-' then .ok .value
  else match spellings.lookup word with
    | some o => .ok (.option o (cs.length = 2) none)
    | none =>
      if cs.length = 1 then .ok .value
      else match spellings.lookup (String.ofList stem) with
        | some o => .ok (.option o (stem.length = 2) attached)
        | none =>
          match matching cs with
          | [] => .ok (if isNegativeNumber cs || cs.contains ' ' then .value else .unknown)
          | [(_, found)] => .ok found
          | several => .error (.ambiguous word (several.map (·.1)))

/-- The words of a command line, each with what it is. -/
def classifyAll : List String → Except UsageError (List (String × Word))
  | [] => .ok []
  | word :: rest =>
    if word = "--" then .ok ((word, .separator) :: rest.map fun w => (w, .value))
    else do
      let found ← classify word
      return (word, found) :: (← classifyAll rest)

/-! ## Options -/

/-- What a command line asks for. -/
structure Options where
  sourceDir : Option String := none
  config : Option String := none
  inclusion : Option String := none
  exclusion : Option String := none
  outputFile : Option String := none
  reportDir : Option String := none
  verbose : Bool := false
deriving DecidableEq, Repr

/-- Options with the value of one of them. -/
def Options.set (o : OptionName) (value : String) (options : Options) : Options :=
  match o with
  | .sourceDir => { options with sourceDir := some value }
  | .config => { options with config := some value }
  | .inclusion => { options with inclusion := some value }
  | .exclusion => { options with exclusion := some value }
  | .outputFile => { options with outputFile := some value }
  | .reportDir => { options with reportDir := some value }
  | .verbose => { options with verbose := true }
  | .help => options

/-- What a command line comes to. -/
inductive Command
  | help
  | run (options : Options)
deriving DecidableEq, Repr

/-- Check what is written directly after the short form of the option for help: more short forms,
or something that is not an option. -/
def checkTail (marked : Bool) : List Char → Except UsageError Unit
  | [] => .error (.strayValue .help "")
  | c :: rest =>
    if marked || c = '-' then .error (.strayValue .help (String.ofList (c :: rest)))
    else if c ≠ 'h' then .ok ()
    else match rest with
      | [] => .ok ()
      | '=' :: more => checkTail true more
      | c :: more => checkTail false (c :: more)

/-- Go through the words; `extra` holds those that belong to no option. -/
def readWords (options : Options) (extra : List String) :
    List (String × Word) → Except UsageError Command
  | [] => if extra.isEmpty then .ok (.run options) else .error (.unrecognized extra)
  | (_, .option o isShort attached) :: rest =>
    match attached with
    | some a =>
      if !o.isMark then readWords (options.set o a.text) extra rest
      else if isShort then do
        checkTail a.marked a.text.toList
        return .help
      else .error (.strayValue o a.text)
    | none =>
      if o = .help then .ok .help
      else if o.isMark then readWords (options.set o "") extra rest
      else match rest with
        | (value, .value) :: rest => readWords (options.set o value) extra rest
        | _ => .error (.missingValue o)
  | (word, _) :: rest => readWords options (extra ++ [word]) rest

/-- What a command line comes to. -/
def Command.ofWords (words : List String) : Except UsageError Command := do
  readWords {} [] (← classifyAll words)

end ApiDecl.Settings
