import ApiDecl.Keyed
import ApiDecl.Number.Binary64

/-!
# JSON values

Integers and floating-point numbers are kept apart, and an object is the list of its members in
the order in which they stand.
-/

namespace ApiDecl

/-- A JSON value. -/
inductive Json
  | null
  | bool (b : Bool)
  | int (n : Int)
  | float (x : Binary64)
  | str (s : String)
  | arr (items : List Json)
  | obj (members : List (String × Json))
deriving BEq, Repr, Inhabited

namespace Json

/-- An object member by its key. -/
def get? (key : String) : Json → Option Json
  | .obj members => members.lookup key
  | _ => none

/-- What messages call the type of a value. -/
def typeName : Json → String
  | .null => "NoneType"
  | .bool _ => "bool"
  | .int _ => "int"
  | .float _ => "float"
  | .str _ => "str"
  | .arr _ => "list"
  | .obj _ => "dict"

/-- A text, or null. -/
def ofText? : Option String → Json
  | some s => .str s
  | none => .null

end Json

end ApiDecl
