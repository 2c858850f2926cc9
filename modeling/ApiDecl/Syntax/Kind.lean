/-!
# Kinds of syntax nodes

The grammar names every node by its kind. The kinds that carry meaning for reading declarations
are constructors of their own, all others are kept by name.
-/

namespace ApiDecl.Syntax

/-- The kind of a syntax node. -/
inductive Kind
  | interfaceDeclaration
  | enumDeclaration
  | classDeclaration
  | typeAliasDeclaration
  | propertySignature
  /-- The mark `?` of an optional property. -/
  | optionalMark
  | enumBody
  | propertyIdentifier
  | stringLiteral
  | enumAssignment
  | exportStatement
  | comment
  | arrayType
  | genericType
  | typeArguments
  | predefinedType
  | typeIdentifier
  | nestedTypeIdentifier
  /-- A stretch of source that the grammar could not make sense of. -/
  | error
  | other (name : String)
deriving DecidableEq, Repr, Inhabited

namespace Kind

/-- The grammar's name of a kind. -/
def name : Kind → String
  | interfaceDeclaration => "interface_declaration"
  | enumDeclaration => "enum_declaration"
  | classDeclaration => "class_declaration"
  | typeAliasDeclaration => "type_alias_declaration"
  | propertySignature => "property_signature"
  | optionalMark => "?"
  | enumBody => "enum_body"
  | propertyIdentifier => "property_identifier"
  | stringLiteral => "string"
  | enumAssignment => "enum_assignment"
  | exportStatement => "export_statement"
  | comment => "comment"
  | arrayType => "array_type"
  | genericType => "generic_type"
  | typeArguments => "type_arguments"
  | predefinedType => "predefined_type"
  | typeIdentifier => "type_identifier"
  | nestedTypeIdentifier => "nested_type_identifier"
  | error => "ERROR"
  | other name => name

/-- The kinds with a meaning of their own. -/
def meaningful : List Kind :=
  [interfaceDeclaration, enumDeclaration, classDeclaration, typeAliasDeclaration,
    propertySignature, optionalMark, enumBody, propertyIdentifier, stringLiteral, enumAssignment,
    exportStatement, comment, arrayType, genericType, typeArguments, predefinedType,
    typeIdentifier, nestedTypeIdentifier, error]

/-- The kind with a given name. -/
def ofName (name : String) : Kind := (meaningful.find? (·.name = name)).getD (other name)

/-- Declarations whose name is bound to a symbol. -/
def isDeclaration : Kind → Bool
  | interfaceDeclaration | enumDeclaration | classDeclaration | typeAliasDeclaration => true
  | _ => false

/-- Members of an enum: a plain name, a quoted name, or a name with a value. -/
def isEnumMember : Kind → Bool
  | propertyIdentifier | stringLiteral | enumAssignment => true
  | _ => false

/-- Types that refer to a declaration by its name. -/
def isReference : Kind → Bool
  | typeIdentifier | nestedTypeIdentifier | genericType => true
  | _ => false

end Kind

end ApiDecl.Syntax
