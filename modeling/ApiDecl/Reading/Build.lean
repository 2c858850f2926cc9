import ApiDecl.Journal.Traced
import ApiDecl.Reading.TypeExpr
import ApiDecl.Symbol.Table

/-!
# Building the entities of the model

Names come from the symbol table through a `Naming`, types from the type nodes. The members of a
declaration are the outermost ones: a property signature inside another one belongs to the type of
that one.
-/

namespace ApiDecl.Reading

open Syntax (Node Kind)
open Model
open Journal (Traced)

/-- Who writes the notes of this module. -/
def buildLogger : String := "typereader.traversal"

/-- A way to name declarations, properties and members. -/
abbrev Naming := SymbolTable → Node → Except ReadError String

/-- The name bound to a node. -/
def Naming.bound : Naming := fun t n =>
  match t.symbolOf n with
  | some symbol => .ok symbol.name
  | none => .error (.unbound (.ofNode n.bearer))

/-- Names put through a function. -/
def Naming.map (f : Node → String → String) (naming : Naming) : Naming :=
  fun t n => f n <$> naming t n

/-- The type node of a property: the first node of its annotation that is no comment. -/
def annotatedType (n : Node) : Option Node := do
  let annotation ← n.childInField "type"
  annotation.namedChildren.find? (·.kind ≠ .comment)

/-- The type of a property called `name`. -/
def propertyType (name : String) (n : Node) : Traced ReadError TypeExpr :=
  match annotatedType n with
  | none => return .unresolved "missing" ""
  | some typeNode => do
    match ← Traced.ofExcept (resolve typeNode) with
    | some type => return type
    | none =>
      let text ← Traced.ofExcept (textOf typeNode)
      Traced.note .debug buildLogger
        ("Unrecognized type '" ++ text ++ "' (" ++ typeNode.kindName ++ ") for property '" ++
          name ++ "' at line " ++ toString n.line)
      return .unresolved typeNode.kindName text

/-- The property that a property signature declares. -/
def buildProperty (t : SymbolTable) (naming : Naming) (n : Node) : Traced ReadError Property := do
  let name ← Traced.ofExcept (naming t n)
  let type ← propertyType name n
  return {
    name, type
    optional := n.children.any (·.kind = .optionalMark)
    documentation := t.documentationOf n }

mutual

/-- The outermost nodes of a chosen kind in a tree, through named children. -/
def outermost (chosen : Kind → Bool) : Node → List Node
  | .mk info children =>
    if chosen info.kind then [.mk info children] else outermostList chosen children

/-- `outermost` for the named ones of a list of nodes. -/
def outermostList (chosen : Kind → Bool) : List Node → List Node
  | [] => []
  | n :: rest =>
    (if n.info.named then outermost chosen n else []) ++ outermostList chosen rest

end

/-- The members of a declaration: the outermost nodes of a chosen kind below it. -/
def membersOf (chosen : Kind → Bool) (n : Node) : List Node := outermostList chosen n.children

/-- The interface that a declaration stands for. -/
def buildInterface (t : SymbolTable) (naming : Naming) (n : Node) :
    Traced ReadError Interface := do
  let name ← Traced.ofExcept (naming t n)
  let properties ← (membersOf (· = .propertySignature) n).mapM (buildProperty t naming)
  Traced.note .debug buildLogger
    ("Built interface " ++ name ++ " with " ++ toString properties.length ++ " properties")
  return { name, properties, documentation := t.documentationOf n }

/-- The member that a node of an enum stands for. -/
def buildMember (t : SymbolTable) (naming : Naming) (n : Node) : Traced ReadError EnumMember := do
  let name ← Traced.ofExcept (naming t n)
  return { name, documentation := t.documentationOf n }

/-- The enum that a declaration stands for. -/
def buildEnum (t : SymbolTable) (naming : Naming) (n : Node) : Traced ReadError Enum := do
  let name ← Traced.ofExcept (naming t n)
  let members ← (membersOf Kind.isEnumMember n).mapM (buildMember t naming)
  Traced.note .debug buildLogger
    ("Built enum " ++ name ++ " with " ++ toString members.length ++ " members")
  return { name, members, documentation := t.documentationOf n }

/-- Does the node declare an entity of the model? -/
def isEntity (n : Node) : Bool :=
  n.kind = .interfaceDeclaration || n.kind = .enumDeclaration

/-- The entity that a declaration stands for. -/
def buildEntity (t : SymbolTable) (naming : Naming) (n : Node) : Traced ReadError Entity :=
  if n.kind = .interfaceDeclaration then Entity.interface <$> buildInterface t naming n
  else Entity.enum <$> buildEnum t naming n

/-- The declarations of entities in a tree, in document order and at any depth. -/
def declarations (root : Node) : List Node := root.nodes.filter isEntity

end ApiDecl.Reading
