import ApiDecl.Reading.Build
import ApiDecl.Reading.Selection
import ApiDecl.Text.Quoted

/-!
# Reading a corpus

The selected files are read in order. Every declaration of an interface or an enum, at any depth,
becomes an entity of the model. The first declaration that cannot be built ends the reading, and
nothing of it is kept.
-/

namespace ApiDecl.Reading

open Syntax (Node)
open Journal (Traced)

/-- What ends a reading. -/
inductive ReaderError
  | pattern (bad : BadPattern)
  | read (error : ReadError)
deriving DecidableEq

/-- The error in words. -/
def ReaderError.message : ReaderError → String
  | pattern bad => bad.message
  | read error => error.message

/-- What reading a corpus yields. -/
structure Result where
  /-- The paths of the files that were read. -/
  files : List String
  model : Model

mutual

/-- Visit a tree with the model read so far: add what its root declares, then visit the children.
How deep a tree may nest before the interpreter gives up is a matter of its settings, not of the
program: here every depth is visited. -/
def visit (t : SymbolTable) : Node → Model → Traced ReadError Model
  | .mk info children, m => do
    let m ←
      if isEntity (.mk info children) then do
        let entity ← buildEntity t .bound (.mk info children)
        pure (m.add entity)
      else pure m
    visitList t children m

/-- Visit trees one after the other. -/
def visitList (t : SymbolTable) : List Node → Model → Traced ReadError Model
  | [], m => pure m
  | n :: rest, m => do
    let m ← visit t n m
    visitList t rest m

end

/-- Read a file with the model read so far. -/
def readFile (t : SymbolTable) (m : Model) (file : SourceFile) : Traced ReadError Model :=
  (visit t file.root m).inFile file.path

/-- A pattern that was given, unless it is empty, or else the default. -/
def patternOr (default : String) (given : Option String) : String :=
  match given with
  | some text => if text.isEmpty then default else text
  | none => default

/-- Read the files that two patterns select; a pattern that is not given or empty is the
default. -/
def readCorpus [Pattern.CharacterNames] (c : Corpus) (inclusion exclusion : Option String) :
    Traced ReaderError Result := do
  let inclusion := patternOr Selection.defaultInclusion inclusion
  let exclusion := patternOr Selection.defaultExclusion exclusion
  let (selected, model) ← Traced.inPhase "read" do
    let selected ← (selectFiles c.files inclusion exclusion).mapError .pattern
    Traced.note .info readerLogger
      ("Reading " ++ toString selected.length ++ " of " ++ toString c.files.length ++
        " files (include=" ++ Text.quoted inclusion ++ ", exclude=" ++ Text.quoted exclusion ++
        ")")
    let model ← (selected.foldlM (readFile c.table) .empty).mapError .read
    return (selected, model)
  Traced.note .info readerLogger
    ("Read " ++ toString model.interfaces.length ++ " interfaces and " ++
      toString model.enums.length ++ " enums")
  return { files := selected.map (·.path), model }

end ApiDecl.Reading
