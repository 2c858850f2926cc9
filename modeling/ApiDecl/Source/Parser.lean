import ApiDecl.Source.Lexeme
import ApiDecl.Syntax.Node

/-!
# Steps of parsing

A parser takes lexemes off the front and builds trees. A node reaches from its first lexeme to its
last one. Punctuation leaves no node behind, except where its presence counts.
-/

namespace ApiDecl.Source

open Syntax (Sketch Kind)

/-- What is left to parse. -/
structure Rest where
  lexemes : List Lexeme
  /-- Where the last lexeme taken ends. -/
  stop : Nat

/-- A step of parsing. -/
abbrev Parser := StateM Rest

namespace Parser

/-- The lexeme a number of places ahead. -/
def peekAt (n : Nat) : Parser (Option Lexeme) := return (← get).lexemes[n]?

/-- The next lexeme. -/
def peek : Parser (Option Lexeme) := peekAt 0

/-- Where the next lexeme starts. -/
def here : Parser Nat := return ((← peek).map (·.start)).getD (← get).stop

/-- Take the next lexeme. -/
def skip : Parser Unit :=
  modify fun s => match s.lexemes with
    | [] => s
    | l :: rest => { lexemes := rest, stop := l.stop }

/-- Is the lexeme a number of places ahead this word or mark? -/
def isAt (n : Nat) (text : String) : Parser Bool := return (← peekAt n).any (·.is text)

/-- Is the next lexeme this word or mark? -/
def next (text : String) : Parser Bool := isAt 0 text

/-- Is the next lexeme one of these words or marks? -/
def nextIn (texts : List String) : Parser Bool :=
  return (← peek).any fun l => texts.any l.is

/-- Is the lexeme a number of places ahead of this shape? -/
def shapeAt (n : Nat) (shape : Shape) : Parser Bool := return (← peekAt n).any (·.shape == shape)

/-- Does a line break come before the next lexeme? -/
def onNewLine : Parser Bool := return (← peek).any (·.newline)

/-- Take the next lexeme if it is this word or mark. -/
def accept (text : String) : Parser Bool := do
  let found ← next text
  if found then skip
  return found

/-- The node of a kind from `start` to the last lexeme taken. -/
def close (kind : Kind) (start : Nat) (children : List Sketch) : Parser Sketch :=
  return .mk kind start (← get).stop true false none children

/-- The node of a kind that has no name of its own here. -/
def closeAs (kind : String) (start : Nat) (children : List Sketch) : Parser Sketch :=
  close (.other kind) start children

/-- The next lexeme as a node without children. -/
def leaf (kind : Kind) : Parser Sketch := do
  let start ← here
  skip
  close kind start []

/-- The next lexeme as an anonymous node. -/
def anonymous (kind : Kind) : Parser Sketch := do
  let start ← here
  skip
  return .mk kind start (← get).stop false false none []

end Parser

/-- The node in a field of its parent. -/
def inField (field : String) : Sketch → Sketch
  | .mk kind start stop named missing _ children =>
    .mk kind start stop named missing (some field) children

/-- How deep the brackets are after a lexeme. -/
def depthAfter (depth : Nat) (l : Lexeme) : Nat :=
  if ["(", "[", "\x7b"].any l.is then depth + 1
  else if [")", "]", "\x7d"].any l.is then depth - 1
  else depth

/-- The lexemes up to the first one, outside all brackets, that passes a test. -/
def upTo (stop : Lexeme → Bool) : (depth : Nat) → List Lexeme → List Lexeme
  | _, [] => []
  | depth, l :: rest =>
    if depth = 0 && stop l then [] else l :: upTo stop (depthAfter depth l) rest

/-- Does an arrow follow the bracket that closes the first one? -/
def arrowFollows : (depth : Nat) → List Lexeme → Bool
  | _, [] => false
  | depth, l :: rest =>
    let depth := depthAfter depth l
    if depth = 0 then rest.head?.any (·.is "=>") else arrowFollows depth rest

namespace Parser

/-- Take lexemes up to the first one, outside all brackets, that passes a test. -/
def skipUpTo (stop : Lexeme → Bool) : Parser (List Lexeme) := do
  let taken := upTo stop 0 (← get).lexemes
  taken.forM fun _ => skip
  return taken

/-- The nodes of an expression, in a row: texts, names and names after a dot. -/
def expressionLeaves : (dotted : Bool) → List Lexeme → List Sketch
  | _, [] => []
  | dotted, l :: rest =>
    let others := expressionLeaves (l.is ".") rest
    let kind? : Option Kind := match l.shape with
      | .string => some .stringLiteral
      | .word => some (if dotted then .propertyIdentifier else .other "identifier")
      | .number => some (.other "number")
      | .template => some (.other "template_string")
      | .privateName => some (.other "private_property_identifier")
      | _ => none
    match kind? with
    | some kind => .mk kind l.start l.stop true false none [] :: others
    | none => others

/-- An expression up to the first lexeme, outside all brackets, that passes a test. -/
def expression (stop : Lexeme → Bool) : Parser Sketch := do
  let start ← here
  let taken ← skipUpTo stop
  match expressionLeaves false taken with
  | [one] => if taken.length = 1 then return one else closeAs "expression" start [one]
  | leaves => closeAs "expression" start leaves

/-- Can the lexeme a number of places ahead be a name of a member? -/
def nameAt (n : Nat) : Parser Bool := do
  return (← peekAt n).any fun l =>
    l.shape == .word || l.shape == .string || l.shape == .number || l.shape == .privateName ||
      l.is "["

/-- The name of a member. -/
def memberName : Parser Sketch := do
  match ← peek with
  | none => leaf .error
  | some l =>
    match l.shape with
    | .word => leaf .propertyIdentifier
    | .string => leaf .stringLiteral
    | .number => leaf (.other "number")
    | .privateName => leaf (.other "private_property_identifier")
    | _ =>
      if l.is "[" then
        skip
        let value ← expression (·.is "]")
        skip
        closeAs "computed_property_name" l.start [value]
      else leaf .error

end Parser

end ApiDecl.Source
