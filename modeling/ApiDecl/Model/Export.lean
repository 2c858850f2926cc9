import ApiDecl.Json.Value
import ApiDecl.Model.Entity

/-!
# The model as JSON

Types are tagged by `kind`; documentation that is not there is null.
-/

namespace ApiDecl.Model

/-- A type as JSON. -/
def TypeExpr.toJson : TypeExpr → Json
  | named name => .obj [("kind", .str "type"), ("name", .str name)]
  | array of => .obj [("kind", .str "array"), ("of", of.toJson)]
  | map key value => .obj [("kind", .str "map"), ("key", key.toJson), ("value", value.toJson)]
  | unresolved shape text =>
    .obj [("kind", .str "unresolved"), ("node_type", .str shape), ("text", .str text)]

/-- A property as JSON. -/
def Property.toJson (p : Property) : Json :=
  .obj [("name", .str p.name), ("type", p.type.toJson), ("optional", .bool p.optional),
    ("documentation", .ofText? p.documentation)]

/-- An interface as JSON. -/
def Interface.toJson (i : Interface) : Json :=
  .obj [("name", .str i.name), ("documentation", .ofText? i.documentation),
    ("properties", .arr (i.properties.map Property.toJson))]

/-- A member of an enum as JSON. -/
def EnumMember.toJson (m : EnumMember) : Json :=
  .obj [("name", .str m.name), ("documentation", .ofText? m.documentation)]

/-- An enum as JSON. -/
def Enum.toJson (e : Enum) : Json :=
  .obj [("name", .str e.name), ("documentation", .ofText? e.documentation),
    ("members", .arr (e.members.map EnumMember.toJson))]

/-- The whole model as JSON. -/
def toJson (m : Model) : Json :=
  .obj [("interfaces", .arr (m.interfaces.map Interface.toJson)),
    ("enums", .arr (m.enums.map Enum.toJson))]

end ApiDecl.Model
