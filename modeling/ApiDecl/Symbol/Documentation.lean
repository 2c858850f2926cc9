import ApiDecl.Syntax.Place
import ApiDecl.Text.Blank

/-!
# Documentation comments

A documentation comment opens with `/**`. Cleaning takes the delimiters and the leading asterisk
of each line away and drops the empty lines.

The comments that document a node form a run: they stand right before it, each one at most one row
above the next. A declaration under an export statement is documented before that statement.
-/

namespace ApiDecl.Documentation

open Syntax (Node Place)
open Text.Utf8 (DecodeError)

/-- What opens a documentation comment. -/
def opening : List Char := ['/', '*', '*']

/-- What closes a comment. -/
def closing : List Char := ['*', '/']

/-- Is the text a documentation comment? `/**/` is an ordinary one. -/
def isDocComment (text : List Char) : Bool :=
  let cs := Text.trim text
  opening.isPrefixOf cs && !(opening ++ ['/']).isPrefixOf cs

/-- A line without the opening delimiter. -/
def dropOpening (cs : List Char) : List Char :=
  if opening.isPrefixOf cs then cs.drop opening.length else cs

/-- A line without the closing delimiter and the blanks before it. -/
def dropClosing (cs : List Char) : List Char :=
  if closing.isSuffixOf cs then Text.trimEnd (cs.take (cs.length - closing.length)) else cs

/-- A line without its leading asterisk and the blanks after it. -/
def dropAsterisk : List Char → List Char
  | '*' :: rest => Text.trimStart rest
  | cs => cs

/-- The content of one line of a comment. -/
def cleanLine (first : Bool) (line : List Char) : List Char :=
  let cs := Text.trim line
  let cs := if first then dropOpening cs else cs
  dropAsterisk (dropClosing (Text.trim cs))

/-- The contents of the lines of a comment, without the empty ones. -/
def cleanLines (text : List Char) : List (List Char) :=
  let contents := match Text.splitOn '\n' text with
    | [] => []
    | line :: lines => cleanLine true line :: lines.map (cleanLine false)
  contents.filter (!·.isEmpty)

/-- The content of a comment. -/
def clean (text : List Char) : List Char := Text.joinWith ['\n'] (cleanLines text)

/-- The place whose preceding comments document a place: the outermost of the export statements
directly around it. -/
def anchor : Place → Place
  | .root n => .root n
  | .child parent earlier n =>
    if parent.node.kind = .exportStatement then anchor parent else .child parent earlier n

/-- The comments at the head of a list of siblings, nearest first, that lead up to a row without a
blank line. -/
def run (row : Nat) : List Node → List Node
  | [] => []
  | n :: rest =>
    if n.kind = .comment && row ≤ n.info.stopRow + 1 then n :: run n.startRow rest else []

/-- The comments that lead up to a place, the nearest first. -/
def attached (p : Place) : List Node :=
  let a := anchor p
  run a.node.startRow (a.earlier.filter (·.info.named))

/-- The documentation of a place. The comments are read from the source, between the offsets of
their nodes. -/
def preceding (source : List UInt8) (p : Place) : Except DecodeError (Option String) := do
  let texts ← (attached p).mapM fun n =>
    Text.Utf8.decodeChars (Syntax.slice source n.info.start n.info.stop)
  match texts.filter isDocComment with
  | [] => return none
  | docs => return some (String.ofList (Text.joinWith ['\n'] (docs.reverse.map clean)))

end ApiDecl.Documentation
