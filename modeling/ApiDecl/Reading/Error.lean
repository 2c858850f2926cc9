import ApiDecl.Syntax.Node

/-!
# What can go wrong while reading declarations

An error says what is wrong and keeps the site: the kind, the text and the place of the node at
which it was found.
-/

namespace ApiDecl.Reading

open Syntax (Node Point)

/-- Where an error was found. -/
structure Site where
  /-- The kind of the node, if it is known. -/
  kind : Option String
  /-- What messages call the node. -/
  label : String
  text : String
  /-- The place of the node, if it is known. -/
  point : Option Point
deriving DecidableEq, Repr

/-- The site of a node. Bytes that are no text are replaced. -/
def Site.ofNode (n : Node) : Site where
  kind := some n.kindName
  label := n.kindName
  text := Text.Utf8.decodeLossy n.info.text
  point := n.info.startPoint

/-- The line, counted from one. -/
def Site.line? (s : Site) : Option Nat := s.point.map (·.row + 1)

/-- The column in bytes, counted from one. -/
def Site.column? (s : Site) : Option Nat := s.point.map (·.column + 1)

/-- An error of reading. -/
inductive ReadError
  /-- No symbol is bound to the node. -/
  | unbound (site : Site)
  /-- A wrapper has the wrong number of usable children. -/
  | arity (wrapper : String) (expected actual : Int) (site : Site)
  /-- The bytes of a node are no text. -/
  | undecodable (error : Text.Utf8.DecodeError)
deriving DecidableEq, Repr

namespace ReadError

/-- The category of an error of the declarations. -/
def category? : ReadError → Option String
  | unbound _ => some "name_resolution_failure"
  | arity .. => some "shape_mismatch"
  | undecodable _ => none

/-- Where the site is, in words, at the end of a message. -/
def placeSuffix (site : Site) : String :=
  match site.point with
  | none => ""
  | some p =>
    " (at line " ++ toString (p.row + 1) ++ ", column " ++ toString (p.column + 1) ++ ")"

/-- The error in words. -/
def message : ReadError → String
  | unbound site =>
    "No symbol bound to " ++ site.label ++ " '" ++ site.text ++ "'" ++ placeSuffix site
  | arity wrapper expected actual site =>
    "Expected " ++ wrapper ++ " to have " ++ toString expected ++ " useable " ++
      (if expected = 1 then "child" else "children") ++ " but saw " ++ toString actual ++
      placeSuffix site
  | undecodable e => e.message

end ReadError

/-- The text of a node, for a reader. -/
def textOf (n : Node) : Except ReadError String := n.text.mapError .undecodable

end ApiDecl.Reading
