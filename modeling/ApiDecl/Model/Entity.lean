/-!
# The model

What reading produces: interfaces with their properties and enums with their members, in the order
of the declarations.
-/

namespace ApiDecl.Model

/-- The type of a property. -/
inductive TypeExpr
  /-- A primitive, or a reference by its full text. References are not followed. -/
  | named (name : String)
  | array (of : TypeExpr)
  | map (key value : TypeExpr)
  /-- A shape that is not recognized: the kind of its node, and its text. -/
  | unresolved (shape text : String)
deriving DecidableEq, Repr, Inhabited

/-- Is the type recognized? Only its outermost layer counts. -/
def TypeExpr.isResolved : TypeExpr → Bool
  | unresolved _ _ => false
  | _ => true

/-- A property of an interface. -/
structure Property where
  name : String
  type : TypeExpr
  optional : Bool
  documentation : Option String
deriving DecidableEq, Repr

/-- Is the type of the property recognized? -/
def Property.isResolved (p : Property) : Bool := p.type.isResolved

/-- An interface with its properties in source order. -/
structure Interface where
  name : String
  properties : List Property
  documentation : Option String
deriving DecidableEq, Repr

/-- A member of an enum. -/
structure EnumMember where
  name : String
  documentation : Option String
deriving DecidableEq, Repr

/-- An enum with its members in source order. -/
structure Enum where
  name : String
  members : List EnumMember
  documentation : Option String
deriving DecidableEq, Repr

/-- A declaration that has a place in the model. -/
inductive Entity
  | interface (i : Interface)
  | enum (e : Enum)
deriving DecidableEq, Repr

end ApiDecl.Model

namespace ApiDecl

/-- Interfaces and enums in reading order. -/
structure Model where
  interfaces : List Model.Interface
  enums : List Model.Enum
deriving DecidableEq, Repr

namespace Model

/-- The model without entities. -/
def empty : Model := ⟨[], []⟩

/-- The model with one more entity, after the others of its sort. -/
def add (m : Model) : Entity → Model
  | .interface i => { m with interfaces := m.interfaces ++ [i] }
  | .enum e => { m with enums := m.enums ++ [e] }

end Model

end ApiDecl
