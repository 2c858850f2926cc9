import ApiDecl.Source.Parser

/-!
# Types and members

The grammar of type expressions and of the members of interfaces and object types.

A type ends at a line break when the break could end the member around it and the next lexeme
opens a bracket or asks for a condition; `breakable` says whether that is so. Inside brackets a line
break means nothing.

Every function takes a lexeme for a bounded number of calls, so that a fuel of a small multiple of
the number of lexemes never runs out.
-/

namespace ApiDecl.Source

open Syntax (Sketch Kind)

namespace Parser

/-- Keywords that are types. -/
def keywordTypes : List String :=
  ["any", "number", "boolean", "string", "symbol", "void", "unknown", "never", "object"]

/-- Words that are literal types. -/
def literalWords : List String := ["true", "false", "null", "undefined"]

/-- Words that may stand before the name of a member. -/
def memberModifiers : List String :=
  ["public", "private", "protected", "static", "override", "readonly", "abstract", "declare",
    "async", "get", "set", "accessor"]

/-- Does the lexeme a number of places ahead start a type? -/
def startsType (n : Nat) : Parser Bool := do
  return (← peekAt n).any fun l =>
    l.shape == .word || l.shape == .string || l.shape == .number || l.shape == .template ||
      ["(", "[", "\x7b", "<", "-"].any l.is

/-- Take the modifiers of a member. A modifier is a name itself when no name follows it on its
line. -/
def skipModifiers : (fuel : Nat) → Parser Unit
  | 0 => return
  | fuel + 1 => do
    if (← nextIn ["+", "-"]) && (← isAt 1 "readonly") then skip
    let modifier := (← nextIn memberModifiers) && (← nameAt 1 <||> isAt 1 "*") &&
      !((← peekAt 1).any (·.newline))
    if modifier then
      skip
      skipModifiers fuel

/-- A dotted name: the node of its last word, or of the whole when there are dots. -/
def qualifiedName (start : Nat) : (fuel : Nat) → (qualifier : Sketch) → Parser Sketch
  | 0, qualifier => return qualifier
  | fuel + 1, qualifier => do
    if (← next ".") && (← shapeAt 1 .word) then
      skip
      let name ← leaf .typeIdentifier
      let whole ← close .nestedTypeIdentifier start [qualifier, inField "name" name]
      qualifiedName start fuel whole
    else return qualifier

/-- What `typeof` asks about, after its first word: members, and elements by a plain index. -/
def queried : (fuel : Nat) → Parser Unit
  | 0 => return
  | fuel + 1 => do
    if (← next ".") && (← shapeAt 1 .word <||> shapeAt 1 .privateName) then
      skip
      skip
      queried fuel
    else
      let index ← peekAt 1
      let plain := index.any fun l =>
        l.shape == .string || l.shape == .number || keywordTypes.any l.is
      if (← next "[") && plain && (← isAt 2 "]") then
        skip
        skip
        skip
        queried fuel

mutual

/-- A type. -/
def typeExpr : (fuel : Nat) → (breakable : Bool) → Parser Sketch
  | 0, _ => leaf .error
  | fuel + 1, breakable => do
    let start ← here
    let left ← unionType fuel breakable
    if (← next "extends") && !(breakable && (← onNewLine)) then
      skip
      let right ← unionType fuel false
      let _ ← accept "?"
      let yes ← typeExpr fuel false
      let _ ← accept ":"
      let no ← typeExpr fuel breakable
      closeAs "conditional_type" start [left, right, yes, no]
    else return left

/-- A union: a bar in front alone makes one of a single type. -/
def unionType : (fuel : Nat) → (breakable : Bool) → Parser Sketch
  | 0, _ => leaf .error
  | fuel + 1, breakable => do
    let start ← here
    if ← accept "|" then
      let only ← intersectionType fuel breakable
      let left ← closeAs "union_type" start [only]
      unionRest fuel breakable start left
    else
      let left ← intersectionType fuel breakable
      unionRest fuel breakable start left

/-- The types after the first one of a union, grouped to the left. -/
def unionRest : (fuel : Nat) → (breakable : Bool) → (start : Nat) → Sketch → Parser Sketch
  | 0, _, _, left => return left
  | fuel + 1, breakable, start, left => do
    if ← accept "|" then
      let right ← intersectionType fuel breakable
      let left ← closeAs "union_type" start [left, right]
      unionRest fuel breakable start left
    else return left

/-- An intersection: an ampersand in front alone makes one of a single type. -/
def intersectionType : (fuel : Nat) → (breakable : Bool) → Parser Sketch
  | 0, _ => leaf .error
  | fuel + 1, breakable => do
    let start ← here
    if ← accept "&" then
      let only ← operatorType fuel breakable
      let left ← closeAs "intersection_type" start [only]
      intersectionRest fuel breakable start left
    else
      let left ← operatorType fuel breakable
      intersectionRest fuel breakable start left

/-- The types after the first one of an intersection, grouped to the left. -/
def intersectionRest : (fuel : Nat) → (breakable : Bool) → (start : Nat) → Sketch → Parser Sketch
  | 0, _, _, left => return left
  | fuel + 1, breakable, start, left => do
    if ← accept "&" then
      let right ← operatorType fuel breakable
      let left ← closeAs "intersection_type" start [left, right]
      intersectionRest fuel breakable start left
    else return left

/-- A type with its operators in front, or a function type. -/
def operatorType : (fuel : Nat) → (breakable : Bool) → Parser Sketch
  | 0, _ => leaf .error
  | fuel + 1, breakable => do
    let start ← here
    if (← next "keyof") && (← startsType 1) then
      skip
      let operand ← operatorType fuel breakable
      closeAs "index_type_query" start [operand]
    else if (← next "readonly") && (← startsType 1) then
      skip
      let operand ← operatorType fuel breakable
      closeAs "readonly_type" start [operand]
    else if (← next "infer") && (← shapeAt 1 .word) then
      skip
      let name ← leaf .typeIdentifier
      if (← next "extends") && !(breakable && (← onNewLine)) then
        skip
        let bound ← unionType fuel breakable
        closeAs "infer_type" start [name, bound]
      else closeAs "infer_type" start [name]
    else if (← next "unique") && (← isAt 1 "symbol") then
      skip
      skip
      let base ← close .predefinedType start []
      suffixes fuel breakable start base
    else if (← next "new") && (← isAt 1 "(" <||> isAt 1 "<") then
      functionType fuel breakable "constructor_type" start
    else if (← next "abstract") && (← isAt 1 "new") then
      skip
      functionType fuel breakable "constructor_type" start
    else if ← next "<" then functionType fuel breakable "function_type" start
    else if (← next "(") && arrowFollows 0 (← get).lexemes then
      functionType fuel breakable "function_type" start
    else
      let base ← primaryType fuel
      suffixes fuel breakable start base

/-- A function or constructor type. -/
def functionType :
    (fuel : Nat) → (breakable : Bool) → (kind : String) → (start : Nat) → Parser Sketch
  | 0, _, _, _ => leaf .error
  | fuel + 1, breakable, kind, start => do
    let _ ← accept "new"
    let parameters ← signatureParameters fuel
    let _ ← accept "=>"
    let result ← resultType fuel breakable
    closeAs kind start (parameters ++ [result])

/-- Brackets after a type: an array, or the type of an element. -/
def suffixes : (fuel : Nat) → (breakable : Bool) → (start : Nat) → Sketch → Parser Sketch
  | 0, _, _, base => return base
  | fuel + 1, breakable, start, base => do
    if (← next "[") && !(breakable && (← onNewLine)) then
      skip
      if ← accept "]" then
        let array ← close .arrayType start [base]
        suffixes fuel breakable start array
      else
        let index ← typeExpr fuel false
        let _ ← accept "]"
        let lookup ← closeAs "lookup_type" start [base, index]
        suffixes fuel breakable start lookup
    else return base

/-- A type without operators around it. -/
def primaryType : (fuel : Nat) → Parser Sketch
  | 0 => leaf .error
  | fuel + 1 => do
    let start ← here
    match ← peek with
    | none => leaf .error
    | some l =>
      match l.shape with
      | .string =>
        let value ← leaf .stringLiteral
        closeAs "literal_type" start [value]
      | .number =>
        let value ← leaf (.other "number")
        closeAs "literal_type" start [value]
      | .template => leaf (.other "template_literal_type")
      | .mark =>
        if l.is "(" then
          skip
          let inner ← typeExpr fuel false
          let _ ← accept ")"
          closeAs "parenthesized_type" start [inner]
        else if l.is "\x7b" then objectType fuel "object_type"
        else if l.is "[" then
          skip
          let elements ← tupleElements fuel
          closeAs "tuple_type" start elements
        else if l.is "-" then
          skip
          let value ← leaf (.other "number")
          let negative ← closeAs "unary_expression" start [value]
          closeAs "literal_type" start [negative]
        else leaf .error
      | .word =>
        if literalWords.contains l.text then
          let value ← leaf (.other l.text)
          closeAs "literal_type" start [value]
        else if l.text = "this" then leaf (.other "this_type")
        else if l.text = "typeof" && (← shapeAt 1 .word) then
          skip
          let name ← leaf (.other "identifier")
          queried (← get).lexemes.length
          let arguments ← if ← next "<" then pure [← typeArguments fuel] else pure []
          closeAs "type_query" start (name :: arguments)
        else if keywordTypes.contains l.text && !(← isAt 1 ".") then leaf .predefinedType
        else
          let first ← leaf .typeIdentifier
          let name ← qualifiedName start (← get).lexemes.length first
          if ← next "<" then
            let arguments ← typeArguments fuel
            close .genericType start [inField "name" name, inField "type_arguments" arguments]
          else return name
      | _ => leaf .error

/-- Type arguments between angles. -/
def typeArguments : (fuel : Nat) → Parser Sketch
  | 0 => leaf .error
  | fuel + 1 => do
    let start ← here
    skip
    let arguments ← typeList fuel
    close .typeArguments start arguments

/-- Types with commas between them, up to a closing angle. -/
def typeList : (fuel : Nat) → Parser (List Sketch)
  | 0 => return []
  | fuel + 1 => do
    if (← peek).isNone then return []
    else if ← accept ">" then return []
    else if ← accept "," then typeList fuel
    else
      let first ← typeExpr fuel false
      return first :: (← typeList fuel)

/-- The elements of a tuple, up to its closing bracket. -/
def tupleElements : (fuel : Nat) → Parser (List Sketch)
  | 0 => return []
  | fuel + 1 => do
    if (← peek).isNone then return []
    else if ← accept "]" then return []
    else if ← accept "," then tupleElements fuel
    else
      let first ← tupleElement fuel
      return first :: (← tupleElements fuel)

/-- An element of a tuple: a type, with a name or without, optional, or the rest. -/
def tupleElement : (fuel : Nat) → Parser Sketch
  | 0 => leaf .error
  | fuel + 1 => do
    let start ← here
    let rest ← accept "..."
    let named := (← shapeAt 0 .word) &&
      ((← isAt 1 ":") || ((← isAt 1 "?") && (← isAt 2 ":")))
    if named then
      let name ← leaf (.other "identifier")
      let optional ← accept "?"
      let annotation ← typeAnnotation fuel false
      closeAs (if optional then "optional_parameter" else "required_parameter") start
        [inField "name" name, inField "type" annotation]
    else
      let type ← typeExpr fuel false
      if rest then closeAs "rest_type" start [type]
      else if ← accept "?" then closeAs "optional_type" start [type]
      else return type

/-- A colon and a type. -/
def typeAnnotation : (fuel : Nat) → (breakable : Bool) → Parser Sketch
  | 0, _ => leaf .error
  | fuel + 1, breakable => do
    let start ← here
    skip
    let type ← resultType fuel breakable
    closeAs "type_annotation" start [type]

/-- The type of a result, which may be a statement about a value. -/
def resultType : (fuel : Nat) → (breakable : Bool) → Parser Sketch
  | 0, _ => leaf .error
  | fuel + 1, breakable => do
    let start ← here
    let asserts := (← next "asserts") && (← shapeAt 1 .word) && !((← peekAt 1).any (·.newline)) &&
      !(← isAt 1 "is")
    if asserts then
      skip
      let stated ← resultType fuel breakable
      closeAs "asserts" start [stated]
    else if (← shapeAt 0 .word) && (← isAt 1 "is") && !((← peekAt 1).any (·.newline)) then
      let name ← leaf (.other "identifier")
      skip
      let type ← typeExpr fuel breakable
      closeAs "type_predicate" start [name, type]
    else typeExpr fuel breakable

/-- The type parameters, if any, and the parameters of a signature. -/
def signatureParameters : (fuel : Nat) → Parser (List Sketch)
  | 0 => return []
  | fuel + 1 => do
    let generics ← if ← next "<" then pure [← typeParameters fuel] else pure []
    if ← next "(" then return generics ++ [← formalParameters fuel]
    else return generics

/-- Type parameters between angles. -/
def typeParameters : (fuel : Nat) → Parser Sketch
  | 0 => leaf .error
  | fuel + 1 => do
    let start ← here
    skip
    let parameters ← typeParameterList fuel
    closeAs "type_parameters" start parameters

/-- Type parameters with commas between them, up to a closing angle. -/
def typeParameterList : (fuel : Nat) → Parser (List Sketch)
  | 0 => return []
  | fuel + 1 => do
    if (← peek).isNone then return []
    else if ← accept ">" then return []
    else if ← accept "," then typeParameterList fuel
    else
      let first ← typeParameter fuel
      return first :: (← typeParameterList fuel)

/-- A type parameter with its bound and its default. -/
def typeParameter : (fuel : Nat) → Parser Sketch
  | 0 => leaf .error
  | fuel + 1 => do
    let start ← here
    if (← nextIn ["const", "in", "out"]) && (← shapeAt 1 .word) && !(← isAt 1 "extends") then skip
    let name ← leaf .typeIdentifier
    let bound ← if ← next "extends" then do
        let start ← here
        skip
        let type ← typeExpr fuel false
        pure [← closeAs "constraint" start [type]]
      else pure []
    let fallback ← if ← next "=" then do
        let start ← here
        skip
        let type ← typeExpr fuel false
        pure [← closeAs "default_type" start [type]]
      else pure []
    closeAs "type_parameter" start (inField "name" name :: bound ++ fallback)

/-- Parameters between parentheses. -/
def formalParameters : (fuel : Nat) → Parser Sketch
  | 0 => leaf .error
  | fuel + 1 => do
    let start ← here
    skip
    let parameters ← parameterList fuel
    closeAs "formal_parameters" start parameters

/-- Parameters with commas between them, up to a closing parenthesis. -/
def parameterList : (fuel : Nat) → Parser (List Sketch)
  | 0 => return []
  | fuel + 1 => do
    if (← peek).isNone then return []
    else if ← accept ")" then return []
    else if ← accept "," then parameterList fuel
    else
      let first ← parameter fuel
      return first :: (← parameterList fuel)

/-- A parameter: a name or a shape to take apart, a type and a default. -/
def parameter : (fuel : Nat) → Parser Sketch
  | 0 => leaf .error
  | fuel + 1 => do
    let start ← here
    let named ← skipUpTo fun l => [":", ",", ")", "?", "="].any l.is
    let optional ← accept "?"
    let annotation ← if ← next ":" then pure [inField "type" (← typeAnnotation fuel false)]
      else pure []
    if ← accept "=" then let _ ← skipUpTo fun l => [",", ")"].any l.is
    if named.isEmpty && annotation.isEmpty && !(← nextIn [",", ")"]) then skip
    closeAs (if optional then "optional_parameter" else "required_parameter") start annotation

/-- Members between braces. -/
def objectType : (fuel : Nat) → (kind : String) → Parser Sketch
  | 0, _ => leaf .error
  | fuel + 1, kind => do
    let start ← here
    skip
    let members ← memberList fuel
    closeAs kind start members

/-- Members with separators or line breaks between them, up to a closing brace. -/
def memberList : (fuel : Nat) → Parser (List Sketch)
  | 0 => return []
  | fuel + 1 => do
    if (← peek).isNone then return []
    else if ← accept "\x7d" then return []
    else if (← accept ";") || (← accept ",") then memberList fuel
    else
      let first ← member fuel
      return first :: (← memberList fuel)

/-- A member of an interface or an object type. -/
def member : (fuel : Nat) → Parser Sketch
  | 0 => leaf .error
  | fuel + 1 => do
    let start ← here
    skipModifiers (← get).lexemes.length
    let _ ← accept "*"
    if ← next "(" <||> next "<" then
      let signature ← signature fuel
      closeAs "call_signature" start signature
    else if (← next "new") && (← isAt 1 "(" <||> isAt 1 "<") then
      skip
      let signature ← signature fuel
      closeAs "construct_signature" start signature
    else if (← next "[") && (← shapeAt 1 .word) && (← isAt 2 ":" <||> isAt 2 "in") then
      indexSignature fuel start
    else
      let name ← memberName
      let mark ← if ← next "?" then pure [← anonymous .optionalMark] else pure []
      if ((← next "(") && !(← onNewLine)) || (← next "<") then
        let signature ← signature fuel
        closeAs "method_signature" start (inField "name" name :: mark ++ signature)
      else
        let annotation ← if ← next ":" then pure [inField "type" (← typeAnnotation fuel true)]
          else pure []
        close .propertySignature start (inField "name" name :: mark ++ annotation)

/-- Parameters and the type of the result. -/
def signature : (fuel : Nat) → Parser (List Sketch)
  | 0 => return []
  | fuel + 1 => do
    let parameters ← signatureParameters fuel
    if ← next ":" then return parameters ++ [← typeAnnotation fuel true] else return parameters

/-- A signature for all keys of a type, or for each of its members in turn. -/
def indexSignature : (fuel : Nat) → (start : Nat) → Parser Sketch
  | 0, _ => leaf .error
  | fuel + 1, start => do
    skip
    let keyStart ← here
    let name ← leaf (.other "identifier")
    let key ← if ← accept ":" then do
        let type ← typeExpr fuel false
        pure [name, type]
      else do
        skip
        let type ← typeExpr fuel false
        let renamed ← if ← accept "as" then pure [← typeExpr fuel false] else pure []
        pure [← closeAs "mapped_type_clause" keyStart (name :: type :: renamed)]
    let _ ← accept "]"
    if ← nextIn ["+", "-"] then skip
    let _ ← accept "?"
    let annotation ← if ← next ":" then pure [inField "type" (← typeAnnotation fuel true)]
      else pure []
    closeAs "index_signature" start (key ++ annotation)

end

end Parser

end ApiDecl.Source
