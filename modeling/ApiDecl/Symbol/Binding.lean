import ApiDecl.Journal.Traced
import ApiDecl.Symbol.Documentation
import ApiDecl.Symbol.Table

/-!
# Binding names to symbols

Every declaration, property signature and enum member of a file is an owner of a name. `sites`
lists the owners with their name nodes in the order in which they are bound, `declare` makes the
symbol of one of them, and `bindFile` enters the symbols into a table. When a name or a comment is
no text, binding stops there and keeps what was bound before.
-/

namespace ApiDecl.Binding

open Syntax (Node Place)
open Text.Utf8 (DecodeError)
open Journal (Traced)

/-- Who writes the notes of this module. -/
def logger : String := "typereader.resolver"

/-- Is the text enclosed in quotes? Only its first character is looked at. -/
def isQuoted (cs : List Char) : Bool :=
  match cs with
  | c :: _ :: _ => c = '\'' || c = '"' || c = '\x60'
  | _ => false

/-- The name that a node spells: its text, for a string literal without the quotes. -/
def declaredName (n : Node) : Except DecodeError String := do
  let cs ← Text.Utf8.decodeChars n.info.text
  if n.kind = .stringLiteral && isQuoted cs then
    return String.ofList (cs.drop 1).dropLast
  else return String.ofList cs

/-- An owner of a name with the node that spells it, if there is one. -/
structure Site where
  owner : Place
  name : Option Node

/-- The sites that a place contributes: itself when it is a declaration or a property signature,
its members when it is the body of an enum. -/
def sitesAt (p : Place) : List Site :=
  if p.node.kind.isDeclaration || p.node.kind = .propertySignature then
    [⟨p, p.node.nameChild⟩]
  else if p.node.kind = .enumBody then
    (p.children.filter fun m => m.node.info.named && m.node.kind.isEnumMember).map fun m =>
      ⟨m, if m.node.kind = .enumAssignment then m.node.nameChild else some m.node⟩
  else []

/-- The sites of a tree in the order in which they are bound. -/
def sites (root : Node) : List Site := (Place.all root).flatMap sitesAt

/-- The symbol of a site with the node to bind it to; none for a site without a name. -/
def declare (source : List UInt8) (s : Site) : Traced DecodeError (Option (Node × Symbol)) :=
  let owner := s.owner.node
  let subject := owner.kindName ++ " at line " ++ toString owner.line
  match s.name with
  | none => do
    Traced.note .debug logger (subject ++ " has no name")
    return none
  | some nameNode => do
    let name ← Traced.ofExcept (declaredName nameNode)
    if name.isEmpty then
      Traced.note .debug logger (subject ++ " has an empty name")
      return none
    else
      let documentation ← Traced.ofExcept (Documentation.preceding source s.owner)
      return some (nameNode, { name, documentation })

/-- Enter the symbols of the sites into a table, up to the first site that fails. The outcome is
the number of symbols bound. -/
def bindSites (source : List UInt8) (t : SymbolTable) :
    List Site → SymbolTable × Traced DecodeError Nat
  | [] => (t, pure 0)
  | s :: rest =>
    let declared := declare source s
    match declared.outcome with
    | .error e => (t, ⟨declared.notes, .error e⟩)
    | .ok none =>
      let (t, bound) := bindSites source t rest
      (t, ⟨declared.notes ++ bound.notes, bound.outcome⟩)
    | .ok (some (nameNode, symbol)) =>
      let (t, bound) := bindSites source (t.bind nameNode symbol) rest
      (t, ⟨declared.notes ++ bound.notes, bound.outcome.map (· + 1)⟩)

/-- Enter the symbols of a tree into a table. -/
def bindFile (t : SymbolTable) (root : Node) (source : List UInt8) :
    SymbolTable × Traced DecodeError Nat :=
  bindSites source t (sites root)

end ApiDecl.Binding
