import ApiDecl.Journal.Traced
import ApiDecl.Json.Value
import ApiDecl.Source.Grammar

/-!
# The syntax tree of a source

The grammar does not see comments. They are put into the finished tree: a comment becomes a child
of the innermost node that reaches over it on both sides, so a comment before or after a node is
its sibling.
-/

namespace ApiDecl.Source

open Syntax (Sketch)
open Journal (Traced)

/-- Does the node reach over the comment on both sides? -/
def reachesOver (c : Comment) : Sketch → Bool
  | .mk _ start stop _ _ _ _ => start < c.start && c.stop < stop

/-- Does the node start after the comment? -/
def startsAfter (c : Comment) : Sketch → Bool
  | .mk _ start _ _ _ _ _ => c.stop ≤ start

/-- The node of a comment. -/
def Comment.node (c : Comment) : Sketch := .mk .comment c.start c.stop true false none []

mutual

/-- Put a comment into a tree that reaches over it. -/
def insertComment (c : Comment) : Sketch → Sketch
  | .mk kind start stop named missing field children =>
    .mk kind start stop named missing field (insertAmong c children)

/-- Put a comment among siblings: into the one that reaches over it, or in its place. -/
def insertAmong (c : Comment) : List Sketch → List Sketch
  | [] => [c.node]
  | s :: rest =>
    if reachesOver c s then insertComment c s :: rest
    else if startsAfter c s then c.node :: s :: rest
    else s :: insertAmong c rest

end

/-- The characters of a source. A byte of no character counts as a control character, which can
stand in strings and comments only. -/
def characters (source : List UInt8) : List Char :=
  (Text.Utf8.pieces source).flatMap fun
    | .char c => [c]
    | .invalid bytes _ => bytes.map fun _ => '\x01'

/-- The syntax tree of a source. -/
def tree (source : List UInt8) : Sketch :=
  let cut := lex (characters source)
  let (found, _) := (Parser.fileStatements (cut.lexemes.length + 1)).run
    { lexemes := cut.lexemes, stop := 0 }
  let program : Sketch := .mk (.other "program") 0 source.length true false none found
  cut.comments.foldl (fun s c => insertComment c s) program

/-- A way to make syntax trees of sources. -/
abbrev TreeMaker := List UInt8 → Sketch

/-- Who writes the notes of this module. -/
def logger : String := "typereader.parser"

/-- The syntax tree of a source, with notes. -/
def parse {ε : Type} (makeTree : TreeMaker) (source : List UInt8) : Traced ε Sketch := do
  Traced.note .debug logger "Created tree-sitter TypeScript parser"
  Traced.note .debug logger
    ("Parsed " ++ toString source.length ++ " bytes of TypeScript code")
  return makeTree source

/-- What is said about a source that is given as a value and not as bytes. -/
def notBytes (v : Json) : String := "Source must be bytes, got " ++ v.typeName

end ApiDecl.Source
