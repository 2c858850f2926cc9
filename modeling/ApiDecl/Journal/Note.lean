/-!
# Notes

A note is a message for the journal. It knows its level and who wrote it. The phase and the file
are unset until a scope around the writer sets them, so the innermost scope decides.
-/

namespace ApiDecl.Journal

/-- How much a note matters. -/
structure Level where
  rank : Int
deriving DecidableEq, Repr

namespace Level

/-- Details. -/
def debug : Level := ⟨10⟩

/-- Progress. -/
def info : Level := ⟨20⟩

/-- Something that reading goes on in spite of. -/
def warning : Level := ⟨30⟩

/-- Something that ends the work. -/
def error : Level := ⟨40⟩

/-- The name of a level; a level between the named ones shows its rank. -/
def name (l : Level) : String :=
  if l.rank = 50 then "CRITICAL"
  else if l.rank = 40 then "ERROR"
  else if l.rank = 30 then "WARNING"
  else if l.rank = 20 then "INFO"
  else if l.rank = 10 then "DEBUG"
  else if l.rank = 0 then "NOTSET"
  else "Level " ++ toString l.rank

end Level

/-- A message for the journal. -/
structure Note where
  level : Level
  /-- Who wrote the note. -/
  logger : String
  message : String
  phase : Option String := none
  file : Option String := none
deriving DecidableEq, Repr

/-- What stands for an unset phase, file or run id. -/
def unset : String := "-"

/-- The note in a phase, unless it has one. -/
def Note.inPhase (phase : String) (n : Note) : Note := { n with phase := n.phase <|> some phase }

/-- The note about a file, unless it is about one. -/
def Note.inFile (file : String) (n : Note) : Note := { n with file := n.file <|> some file }

end ApiDecl.Journal
