import ApiDecl.Corpus
import ApiDecl.Pattern.Match

/-!
# Choosing files

A file is read when its path matches the inclusion pattern and does not match the exclusion
pattern.
-/

namespace ApiDecl.Reading

open Journal (Traced)
open Pattern (CharacterNames)

/-- Who writes the notes about reading. -/
def readerLogger : String := "typereader.reader"

/-- Which files to read. -/
structure Selection where
  inclusion : Pattern
  exclusion : Pattern

namespace Selection

/-- Files with the ending of declaration files. -/
def defaultInclusion : String := "\\.ts$"

/-- Files of installed packages, and files that declare what others define. -/
def defaultExclusion : String := "(^|/)node_modules/|\\.d\\.ts$"

/-- Is a file to be read? -/
def admits (s : Selection) (path : String) : Bool :=
  s.inclusion.search path && !s.exclusion.search path

end Selection

/-- A pattern that cannot be used. -/
structure BadPattern where
  text : String
  error : Pattern.Error
deriving DecidableEq

/-- The fault of the pattern in words. -/
def BadPattern.message (b : BadPattern) : String := b.error.message b.text

/-- Read a pattern, keeping its text for the error. -/
def compilePattern [CharacterNames] (text : String) : Except BadPattern Pattern :=
  (Pattern.compile text).mapError fun error => { text, error }

/-- The selection of two patterns. -/
def Selection.compile [CharacterNames] (inclusion exclusion : String) :
    Except BadPattern Selection := do
  let inclusion ← compilePattern inclusion
  let exclusion ← compilePattern exclusion
  return { inclusion, exclusion }

/-- A note for every file that is not read. -/
def skipNotes (s : Selection) (files : List SourceFile) : List Journal.Note :=
  (files.filter fun f => !s.admits f.path).map fun f =>
    { level := .debug, logger := readerLogger, message := "Skipping " ++ f.path }

/-- The files to read, in order. -/
def selectFiles [CharacterNames] (files : List SourceFile) (inclusion exclusion : String) :
    Traced BadPattern (List SourceFile) := do
  let s ← Traced.ofExcept (Selection.compile inclusion exclusion)
  ⟨skipNotes s files, .ok (files.filter fun f => s.admits f.path)⟩

end ApiDecl.Reading
