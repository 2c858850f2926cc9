import ApiDecl.Json.Value
import ApiDecl.Number.Decimal

/-!
# Reading JSON text

A reader for JSON that says what it expected and where. Each step takes the characters that are
left and returns a value with the characters left after it; an error holds the characters left at
its place, from which the position follows.

Beyond the standard, `NaN`, `Infinity` and `-Infinity` are numbers. Of several members with one
key the last value stands, at the place of the first. A reader may limit the digits of an integer;
one with more digits stops it as soon as it is met.
-/

namespace ApiDecl.Json

/-- What is wrong with a text. -/
inductive Cause
  | byteOrderMark
  | value
  | propertyName
  | colon
  | comma
  | unterminatedString
  | controlCharacter
  | escape
  | unicodeEscape
  | extraData
  /-- An integer has more digits than the limit. -/
  | longInteger (limit digits : Nat)
deriving DecidableEq, Repr

/-- The cause in words. -/
def Cause.message : Cause → String
  | .byteOrderMark => "Unexpected UTF-8 BOM (decode using utf-8-sig)"
  | .value => "Expecting value"
  | .propertyName => "Expecting property name enclosed in double quotes"
  | .colon => "Expecting ':' delimiter"
  | .comma => "Expecting ',' delimiter"
  | .unterminatedString => "Unterminated string starting at"
  | .controlCharacter => "Invalid control character at"
  | .escape => "Invalid \\escape"
  | .unicodeEscape => "Invalid \\uXXXX escape"
  | .extraData => "Extra data"
  | .longInteger limit digits => Decimal.excessMessage limit digits

/-- A cause with the characters left where it was found. -/
structure Stop where
  cause : Cause
  rest : List Char

/-- What a step reads, or the place where reading stopped. -/
abbrev Step := Except Stop

/-- Blanks between tokens. -/
def isSpace (c : Char) : Bool := c == ' ' || c == '\t' || c == '\n' || c == '\r'

/-- The characters after the leading blanks. -/
def skipSpace (cs : List Char) : List Char := cs.dropWhile isSpace

/-- The value of a hexadecimal digit. -/
def hexValue? (c : Char) : Option Nat :=
  let n := c.toNat
  if 0x30 ≤ n && n ≤ 0x39 then some (n - 0x30)
  else if 0x61 ≤ n && n ≤ 0x66 then some (n - 0x57)
  else if 0x41 ≤ n && n ≤ 0x46 then some (n - 0x37)
  else none

/-- Four hexadecimal digits, which may not be the last characters. -/
def hexQuad? : List Char → Option (Nat × List Char)
  | a :: b :: c :: d :: e :: rest => do
    let n := ((← hexValue? a) * 16 + (← hexValue? b)) * 16 + (← hexValue? c)
    return (n * 16 + (← hexValue? d), e :: rest)
  | _ => none

/-- Is the code unit the first half of a pair? -/
def isHighHalf (n : Nat) : Bool := 0xd800 ≤ n && n < 0xdc00

/-- Is the code unit the second half of a pair? -/
def isLowHalf (n : Nat) : Bool := 0xdc00 ≤ n && n < 0xe000

/-- The character of a code unit; a lone half stands for no character and reads as U+FFFD. -/
def unitChar (n : Nat) : Char := if isHighHalf n || isLowHalf n then '�' else Char.ofNat n

/-- The escape after `\u`; a pair of halves makes one character. -/
def unicodeEscape (cs : List Char) : Step (Char × List Char) :=
  match hexQuad? cs with
  | none => .error ⟨.unicodeEscape, 'u' :: cs⟩
  | some (n, rest) =>
    match isHighHalf n, rest with
    | true, '\\' :: 'u' :: more =>
      if more.length < 5 then .ok (unitChar n, rest)
      else match hexQuad? more with
        | none => .error ⟨.unicodeEscape, 'u' :: more⟩
        | some (m, after) =>
          if isLowHalf m then
            .ok (Char.ofNat (0x10000 + (n - 0xd800) * 0x400 + (m - 0xdc00)), after)
          else .ok (unitChar n, rest)
    | _, _ => .ok (unitChar n, rest)

/-- The character after a backslash. -/
def escapeSequence (cs : List Char) : Step (Char × List Char) :=
  match cs with
  | '"' :: rest => .ok ('"', rest)
  | '\\' :: rest => .ok ('\\', rest)
  | '/' :: rest => .ok ('/', rest)
  | 'b' :: rest => .ok ('\x08', rest)
  | 'f' :: rest => .ok ('\x0c', rest)
  | 'n' :: rest => .ok ('\n', rest)
  | 'r' :: rest => .ok ('\r', rest)
  | 't' :: rest => .ok ('\t', rest)
  | 'u' :: rest => unicodeEscape rest
  | _ => .error ⟨.escape, '\\' :: cs⟩

/-- The characters of a string up to its closing quote. `opening` is what is left at the opening
quote, and `done` holds the characters read, the last one first. -/
def stringBody (opening : List Char) :
    (fuel : Nat) → (done cs : List Char) → Step (String × List Char)
  | 0, _, _ => .error ⟨.unterminatedString, opening⟩
  | fuel + 1, done, cs =>
    match cs with
    | [] => .error ⟨.unterminatedString, opening⟩
    | '"' :: rest => .ok (String.ofList done.reverse, rest)
    | ['\\'] => .error ⟨.unterminatedString, opening⟩
    | '\\' :: rest => do
      let (c, rest) ← escapeSequence rest
      stringBody opening fuel (c :: done) rest
    | c :: rest =>
      if c.toNat < 0x20 then .error ⟨.controlCharacter, cs⟩
      else stringBody opening fuel (c :: done) rest

/-- A string after its opening quote. -/
def string (cs : List Char) : Step (String × List Char) :=
  stringBody ('"' :: cs) (cs.length + 1) [] cs

/-- The value of decimal digits. -/
def digitsValue (ds : List Char) : Nat := ds.foldl (fun n d => n * 10 + (d.toNat - 0x30)) 0

/-- The exponent part of a number, if one is there. -/
def exponentPart (cs : List Char) : Option (Int × List Char) :=
  match cs with
  | e :: rest =>
    if e == 'e' || e == 'E' then
      let (negative, rest) := match rest with
        | '+' :: r => (false, r)
        | '-' :: r => (true, r)
        | r => (false, r)
      let ds := rest.takeWhile Char.isDigit
      if ds.isEmpty then none
      else
        let n : Int := digitsValue ds
        some (if negative then -n else n, rest.dropWhile Char.isDigit)
    else none
  | [] => none

/-- The fraction digits of a number, if any are there. -/
def fractionPart (cs : List Char) : Option (List Char × List Char) :=
  match cs with
  | '.' :: rest =>
    let ds := rest.takeWhile Char.isDigit
    if ds.isEmpty then none else some (ds, rest.dropWhile Char.isDigit)
  | _ => none

/-- The digits before the fraction; a zero at the front stands alone. -/
def integerPart (cs : List Char) : List Char :=
  match cs with
  | '0' :: _ => ['0']
  | _ => cs.takeWhile Char.isDigit

section

variable (limit : Option Nat)

/-- A number after its sign. A fraction or an exponent makes it a floating-point number. -/
def number? (negative : Bool) (cs : List Char) : Option (Step (Json × List Char)) :=
  let digits := integerPart cs
  if digits.isEmpty then none
  else
    let rest := cs.drop digits.length
    let fraction := fractionPart rest
    let (ds, rest) := fraction.getD ([], rest)
    let exponent := exponentPart rest
    let (e, rest) := exponent.getD (0, rest)
    some <|
      if fraction.isNone && exponent.isNone then
        match limit.filter (· < digits.length) with
        | some most => .error ⟨.longInteger most digits.length, cs⟩
        | none =>
          let n : Int := digitsValue digits
          .ok (.int (if negative then -n else n), rest)
      else .ok (.float (.ofDecimal negative (digitsValue (digits ++ ds)) (e - ds.length)), rest)

/-- The characters after a word, when they start with it. -/
def afterWord? (word : String) (cs : List Char) : Option (List Char) :=
  if word.toList.isPrefixOf cs then some (cs.drop word.length) else none

/-- The words that stand for values. -/
def wordValues : List (String × Json) :=
  [("null", .null), ("true", .bool true), ("false", .bool false), ("NaN", .float .nan),
    ("Infinity", .float (.infinite false)), ("-Infinity", .float (.infinite true))]

/-- A value that is neither a string nor a list nor an object. -/
def scalar (cs : List Char) : Step (Json × List Char) :=
  match wordValues.findSome? fun (word, v) => (afterWord? word cs).map fun rest => (v, rest) with
  | some found => .ok found
  | none =>
    let found := match cs with
      | '-' :: rest => number? limit true rest
      | _ => number? limit false cs
    found.getD (.error ⟨.value, cs⟩)

mutual

/-- A value at the first character. The fuel bounds the number of nested steps; as many as there
are characters suffice. -/
def value : (fuel : Nat) → List Char → Step (Json × List Char)
  | 0, cs => .error ⟨.value, cs⟩
  | fuel + 1, cs =>
    match cs with
    | '"' :: rest => do
      let (s, rest) ← string rest
      return (.str s, rest)
    | '{' :: rest =>
      match skipSpace rest with
      | '}' :: rest => .ok (.obj [], rest)
      | rest => do
        let (members, rest) ← objectMembers fuel [] rest
        return (.obj members, rest)
    | '[' :: rest =>
      match skipSpace rest with
      | ']' :: rest => .ok (.arr [], rest)
      | rest => do
        let (items, rest) ← arrayItems fuel rest
        return (.arr items, rest)
    | _ => scalar limit cs

/-- The items of a list, at the first character of an item, up to the closing bracket. -/
def arrayItems : (fuel : Nat) → List Char → Step (List Json × List Char)
  | 0, cs => .error ⟨.value, cs⟩
  | fuel + 1, cs => do
    let (v, rest) ← value fuel cs
    match skipSpace rest with
    | ']' :: rest => return ([v], rest)
    | ',' :: rest =>
      let (items, rest) ← arrayItems fuel (skipSpace rest)
      return (v :: items, rest)
    | rest => .error ⟨.comma, rest⟩

/-- The members of an object, at the first character of a key, up to the closing brace. `done`
holds the members read before. -/
def objectMembers :
    (fuel : Nat) → List (String × Json) → List Char → Step (List (String × Json) × List Char)
  | 0, _, cs => .error ⟨.value, cs⟩
  | fuel + 1, done, cs =>
    match cs with
    | '"' :: rest => do
      let (key, rest) ← string rest
      match skipSpace rest with
      | ':' :: rest =>
        let (v, rest) ← value fuel (skipSpace rest)
        let done := Keyed.set key v done
        match skipSpace rest with
        | '}' :: rest => return (done, rest)
        | ',' :: rest => objectMembers fuel done (skipSpace rest)
        | rest => .error ⟨.comma, rest⟩
      | rest => .error ⟨.colon, rest⟩
    | _ => .error ⟨.propertyName, cs⟩

end

end

/-- What is wrong with a text, and where. -/
structure ParseError where
  cause : Cause
  /-- The number of characters before the place. -/
  position : Nat
  line : Nat
  column : Nat
deriving DecidableEq, Repr

/-- The error at a place of a text. Lines and columns count from one. -/
def ParseError.at (text : List Char) (cause : Cause) (position : Nat) : ParseError :=
  let before := text.take position
  let line := before.count '\n' + 1
  let column := (before.reverse.takeWhile (· ≠ '\n')).length + 1
  ⟨cause, position, line, column⟩

/-- Is an integer too long, in a text that may well be JSON? -/
def Cause.isExcess : Cause → Bool
  | .longInteger .. => true
  | _ => false

/-- The error in words. Of an integer that is too long the place is not told. -/
def ParseError.message (e : ParseError) : String :=
  if e.cause.isExcess then e.cause.message
  else e.cause.message ++ ": line " ++ toString e.line ++ " column " ++ toString e.column ++
    " (char " ++ toString e.position ++ ")"

/-- The value that a text writes, if no integer in it has more digits than the limit. -/
def parse (text : List Char) (limit : Option Nat := none) : Except ParseError Json :=
  match text with
  | '﻿' :: _ => .error (.at text .byteOrderMark 0)
  | _ =>
    match value limit (text.length + 1) (skipSpace text) with
    | .error stop => .error (.at text stop.cause (text.length - stop.rest.length))
    | .ok (v, rest) =>
      match skipSpace rest with
      | [] => .ok v
      | rest => .error (.at text .extraData (text.length - rest.length))

end ApiDecl.Json
