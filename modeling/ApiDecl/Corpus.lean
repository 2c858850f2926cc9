import ApiDecl.Files.Path
import ApiDecl.Symbol.Binding

/-!
# Corpora

A corpus holds the parsed files and the symbols of all of them. Adding a file counts its faults
and binds its names. When binding fails, the file is not added, and the symbols bound before the
failure stay.
-/

namespace ApiDecl

open Syntax (Node Place Sketch)
open Journal (Traced)

/-- A parsed file. -/
structure SourceFile where
  path : String
  root : Node
  /-- The content of the file. -/
  source : List UInt8
  /-- The number of faults in the tree. -/
  parseErrors : Nat

/-- Parsed files with their symbols. -/
structure Corpus where
  files : List SourceFile
  table : SymbolTable
  /-- The next identity to give out. -/
  nextId : Nat

namespace Corpus

/-- Who writes the notes of this module. -/
def logger : String := "typereader.corpus"

/-- The corpus without files. -/
def empty : Corpus := ⟨[], .empty, 0⟩

/-- The number of faults in all files. -/
def parseErrors (c : Corpus) : Nat := c.files.foldr (fun f n => f.parseErrors + n) 0

/-- The binding of a file, with notes on its faults and on the number of its symbols. -/
def noteBinding (path : String) (faults : Nat) (bound : Traced Text.Utf8.DecodeError Nat) :
    Traced Text.Utf8.DecodeError Unit :=
  Traced.inFile path do
    if faults ≠ 0 then
      Traced.note .warning logger
        ("File " ++ path ++ " contains " ++ toString faults ++ " syntax error nodes")
    let count ← bound
    Traced.note .debug logger ("Bound " ++ toString count ++ " symbols in " ++ path)

/-- Add a parsed file. -/
def add (c : Corpus) (path : String) (root : Node) (source : List UInt8) :
    Corpus × Traced Text.Utf8.DecodeError SourceFile :=
  let faults := Place.countFaults root
  let (table, bound) := Binding.bindFile c.table root source
  let traced := noteBinding path faults bound
  match traced.outcome with
  | .error e => ({ c with table }, ⟨traced.notes, .error e⟩)
  | .ok () =>
    let file : SourceFile := { path, root, source, parseErrors := faults }
    ({ c with files := c.files ++ [file], table }, ⟨traced.notes, .ok file⟩)

/-- Add a tree that is yet to be placed in its source. -/
def addSketch (c : Corpus) (path : String) (source : List UInt8) (tree : Sketch) :
    Corpus × Traced Text.Utf8.DecodeError SourceFile :=
  let (root, nextId) := tree.place source c.nextId
  { c with nextId }.add path root source

end Corpus

end ApiDecl
