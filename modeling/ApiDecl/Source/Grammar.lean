import ApiDecl.Source.TypeGrammar

/-!
# Declarations and statements

The grammar of a declaration file: interfaces, enums, type aliases, classes, namespaces and
modules, with or without `export` and `declare`, and imports and exports of names.
-/

namespace ApiDecl.Source

open Syntax (Sketch Kind)

namespace Parser

/-- A fuel for the grammar of types: no function of it is called more often than this between two
lexemes. -/
def typeFuel : Parser Nat := return 16 * (← get).lexemes.length + 16

/-- The name of a declaration. -/
def declarationName (kind : Kind) : Parser Sketch := return inField "name" (← leaf kind)

/-- Type parameters, if there are any. -/
def genericsIfAny : Parser (List Sketch) := do
  if ← next "<" then return [← typeParameters (← typeFuel)] else return []

/-- Types with commas between them, up to a word or mark that ends the clause. -/
def clauseTypes (ends : List String) : (fuel : Nat) → Parser (List Sketch)
  | 0 => return []
  | fuel + 1 => do
    if (← peek).isNone then return []
    else if ← nextIn ends then return []
    else if ← accept "," then clauseTypes ends fuel
    else
      let first ← primaryType (← typeFuel)
      return first :: (← clauseTypes ends fuel)

/-- A clause that names other types, such as those that an interface extends. -/
def clause (word kind : String) (ends : List String) : Parser (List Sketch) := do
  let start ← here
  if ← accept word then
    let types ← clauseTypes ends (← get).lexemes.length
    return [← closeAs kind start types]
  else return []

/-- An interface. -/
def interfaceDeclaration : Parser Sketch := do
  let start ← here
  skip
  let name ← declarationName .typeIdentifier
  let generics ← genericsIfAny
  let parents ← clause "extends" "extends_type_clause" ["\x7b"]
  let body ← objectType (← typeFuel) "interface_body"
  close .interfaceDeclaration start (name :: generics ++ parents ++ [inField "body" body])

/-- The members of an enum, up to its closing brace. -/
def enumMembers : (fuel : Nat) → Parser (List Sketch)
  | 0 => return []
  | fuel + 1 => do
    if (← peek).isNone then return []
    else if ← accept "\x7d" then return []
    else if ← accept "," then enumMembers fuel
    else
      let start ← here
      let name ← memberName
      let first ← if ← accept "=" then do
          let value ← expression fun l => [",", "\x7d"].any l.is
          close .enumAssignment start [inField "name" name, inField "value" value]
        else pure name
      return first :: (← enumMembers fuel)

/-- An enum. -/
def enumDeclaration : Parser Sketch := do
  let start ← here
  let _ ← accept "const"
  skip
  let name ← declarationName (.other "identifier")
  let bodyStart ← here
  skip
  let members ← enumMembers (← get).lexemes.length
  let body ← close .enumBody bodyStart members
  close .enumDeclaration start [name, inField "body" body]

/-- A type alias. -/
def typeAlias : Parser Sketch := do
  let start ← here
  skip
  let name ← declarationName .typeIdentifier
  let generics ← genericsIfAny
  let _ ← accept "="
  let value ← typeExpr (← typeFuel) true
  let _ ← accept ";"
  close .typeAliasDeclaration start (name :: generics ++ [inField "value" value])

/-- A member of a class: a field, or a method whose body is passed over. -/
def classMember : Parser Sketch := do
  let start ← here
  skipModifiers (← get).lexemes.length
  let name ← memberName
  let _ ← accept "?"
  let _ ← accept "!"
  if ← next "(" <||> next "<" then
    let signature ← signature (← typeFuel)
    if ← accept "\x7b" then
      let _ ← skipUpTo (·.is "\x7d")
      skip
    closeAs "method_definition" start (inField "name" name :: signature)
  else
    let annotation ← if ← next ":" then
        pure [inField "type" (← typeAnnotation (← typeFuel) true)]
      else pure []
    if ← accept "=" then
      let _ ← skipUpTo fun l => l.newline || [";", "\x7d"].any l.is
    closeAs "public_field_definition" start (inField "name" name :: annotation)

/-- The members of a class, up to its closing brace. -/
def classMembers : (fuel : Nat) → Parser (List Sketch)
  | 0 => return []
  | fuel + 1 => do
    if (← peek).isNone then return []
    else if ← accept "\x7d" then return []
    else if (← accept ";") || (← accept ",") then classMembers fuel
    else
      let first ← classMember
      return first :: (← classMembers fuel)

/-- A class. -/
def classDeclaration : Parser Sketch := do
  let start ← here
  let isAbstract ← accept "abstract"
  skip
  let name ← declarationName .typeIdentifier
  let generics ← genericsIfAny
  let parents ← clause "extends" "extends_clause" ["implements", "\x7b"]
  let promises ← clause "implements" "implements_clause" ["\x7b"]
  let bodyStart ← here
  skip
  let members ← classMembers (← get).lexemes.length
  let body ← closeAs "class_body" bodyStart members
  close (if isAbstract then .other "abstract_class_declaration" else .classDeclaration) start
    (name :: generics ++ parents ++ promises ++ [inField "body" body])

/-- An import: up to the text that names the module. -/
def importStatement : Parser Sketch := do
  let start ← here
  let _ ← skipUpTo fun l => l.shape == .string || l.is ";"
  if ← shapeAt 0 .string then skip
  let _ ← accept ";"
  closeAs "import_statement" start []

/-- The end of an export of names: the module they come from, if they do. -/
def exportEnd (start : Nat) : Parser Sketch := do
  if ← accept "from" then skip
  let _ ← accept ";"
  close .exportStatement start []

/-- A declaration of the simple kinds; none if the next lexemes start none. -/
def declaration? : Parser (Option Sketch) := do
  if ← next "interface" then return some (← interfaceDeclaration)
  else if (← next "enum") || ((← next "const") && (← isAt 1 "enum")) then
    return some (← enumDeclaration)
  else if (← next "type") && (← shapeAt 1 .word) then return some (← typeAlias)
  else if (← next "class") || ((← next "abstract") && (← isAt 1 "class")) then
    return some (← classDeclaration)
  else return none

mutual

/-- A statement. A lexeme that starts none is a fault. -/
def statement : (fuel : Nat) → Parser Sketch
  | 0 => leaf .error
  | fuel + 1 => do
    let start ← here
    if ← next ";" then leaf (.other "empty_statement")
    else if ← shapeAt 0 .hashBang then leaf (.other "hash_bang_line")
    else if ← next "import" then importStatement
    else if ← next "export" then
      skip
      let names := (← nextIn ["*", "\x7b"]) ||
        ((← next "type") && (← isAt 1 "*" <||> isAt 1 "\x7b"))
      if names then
        let _ ← accept "type"
        if ← accept "*" then
          if ← accept "as" then skip
        else
          skip
          let _ ← skipUpTo (·.is "\x7d")
          skip
        exportEnd start
      else
        let _ ← accept "default"
        let inner ← statement fuel
        close .exportStatement start [inField "declaration" inner]
    else if ← next "declare" then
      skip
      let inner ← statement fuel
      closeAs "ambient_declaration" start [inner]
    else if (← nextIn ["namespace", "module", "global"]) then
      let _ ← skipUpTo fun l => l.is "\x7b" || l.is ";"
      if ← next "\x7b" then
        let bodyStart ← here
        skip
        let inner ← statements fuel
        let _ ← accept "\x7d"
        let body ← closeAs "statement_block" bodyStart inner
        closeAs "internal_module" start [inField "body" body]
      else closeAs "internal_module" start []
    else
      match ← declaration? with
      | some found => return found
      | none => leaf .error

/-- Statements up to a closing brace or the end. -/
def statements : (fuel : Nat) → Parser (List Sketch)
  | 0 => return []
  | fuel + 1 => do
    if (← peek).isNone then return []
    else if ← next "\x7d" then return []
    else
      let first ← statement fuel
      return first :: (← statements fuel)

end

/-- All statements of a file. A closing brace that nothing opened is a fault. -/
def fileStatements : (fuel : Nat) → Parser (List Sketch)
  | 0 => return []
  | fuel + 1 => do
    let found ← statements (2 * (← get).lexemes.length + 2)
    if (← peek).isNone then return found
    else
      let stray ← leaf .error
      return found ++ stray :: (← fileStatements fuel)

end Parser

end ApiDecl.Source
