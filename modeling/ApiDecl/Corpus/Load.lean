import ApiDecl.Corpus
import ApiDecl.Files.Discovery
import ApiDecl.Source.Tree

/-!
# Loading a corpus

The declaration files below a directory, or files that are given, are read, parsed and added in
order. Their paths are kept relative to the directory. The first file that cannot be read or bound
ends the loading. Sources in memory are added in the same way.
-/

namespace ApiDecl.Corpus

open Files (FileSystem Fault)
open Journal (Traced)
open Source (TreeMaker)

/-- Why a corpus cannot be loaded. -/
inductive LoadError
  /-- There is no directory with the absolute path. -/
  | noDirectory (path : String)
  | unreadable (fault : Fault)
  | undecodable (error : Text.Utf8.DecodeError)
deriving DecidableEq

/-- The error in words. -/
def LoadError.message : LoadError → String
  | noDirectory path => "Directory not found: " ++ path
  | unreadable fault => fault.message
  | undecodable error => error.message

/-- Find the declaration files below a directory. -/
def discover {ε : Type} (fs : FileSystem) (directory : String) : Traced ε (List String) := do
  Traced.note .info logger ("Discovering declaration files in " ++ fs.absolute directory)
  let found := fs.declarationFiles directory
  Traced.note .info logger ("Found " ++ toString found.length ++ " declaration files")
  return found

/-- The content of a file, with a note when there is none. -/
def readSource (fs : FileSystem) (path : String) : Traced LoadError (List UInt8) :=
  match fs.read path with
  | .ok content => pure content
  | .error fault => do
    Traced.note .error Source.logger
      (if fault.cause = .missing then "File not found: " ++ path
        else "Error reading file " ++ path ++ ": " ++ fault.message)
    Traced.fail (.unreadable fault)

/-- Read, parse and add one file. -/
def addFile (makeTree : TreeMaker) (fs : FileSystem) (directory : String) (c : Corpus)
    (path : String) : Traced LoadError Corpus := do
  let source ← readSource fs path
  let tree ← Source.parse makeTree source
  Traced.note .debug Source.logger ("Successfully parsed file: " ++ path)
  let relative := Path.normalize (Path.relative directory (fs.absolute path))
  let (added, traced) := c.addSketch relative source tree
  let _ ← traced.mapError .undecodable
  return added

/-- Load the files below a directory, or the given ones. -/
def load (fs : FileSystem) (directory : String) (given : Option (List String))
    (makeTree : TreeMaker := Source.tree) : Traced LoadError Corpus := do
  let directory := fs.absolute directory
  if !fs.isDirectory directory then Traced.fail (.noDirectory directory)
  let paths ← match given with
    | some paths => pure paths
    | none => discover fs directory
  let c ← paths.foldlM (addFile makeTree fs directory) .empty
  Traced.note .info logger
    ("Loaded " ++ toString c.files.length ++ " files (" ++ toString c.table.size ++
      " symbols, " ++ toString c.parseErrors ++ " parse errors)")
  return c

/-! ## Sources in memory -/

/-- Parse and add one source. -/
def addSource (c : Corpus) (path : String) (source : List UInt8) :
    Corpus × Traced Text.Utf8.DecodeError SourceFile :=
  c.addSketch (Path.normalize path) source (Source.tree source)

/-- The corpus of sources by path: a repeated path keeps its place and takes the last source. -/
def ofSources (sources : List (String × List UInt8)) : Except Text.Utf8.DecodeError Corpus :=
  (Keyed.ofList sources).foldlM (fun c (path, source) => do
    let (added, traced) := c.addSource path source
    let _ ← traced.outcome
    return added) .empty

end ApiDecl.Corpus
