import ApiDecl.Text.Utf8

/-!
# Lexemes of declaration sources

A source is cut into lexemes; blanks and comments stand between them. A lexeme knows the bytes it
covers and whether a line break comes before it, since a line break can end a member or a
statement. Comments are kept apart, with the bytes they cover.
-/

namespace ApiDecl.Source

/-- What a lexeme is. -/
inductive Shape
  | word
  /-- A name that starts with a hash. -/
  | privateName
  | number
  | string
  | template
  | mark
  /-- The line that names an interpreter. -/
  | hashBang
deriving DecidableEq, Repr

/-- A lexeme of a source. -/
structure Lexeme where
  shape : Shape
  text : String
  /-- The first byte. -/
  start : Nat
  /-- The byte after the last one. -/
  stop : Nat
  /-- Does a line break come before it? -/
  newline : Bool
deriving DecidableEq, Repr

/-- Is the lexeme this word or mark? -/
def Lexeme.is (l : Lexeme) (text : String) : Bool :=
  (l.shape == .word || l.shape == .mark) && l.text == text

/-- The bytes that a comment covers. -/
structure Comment where
  start : Nat
  stop : Nat
deriving DecidableEq, Repr

/-- A source cut up. -/
structure Lexemes where
  lexemes : List Lexeme
  comments : List Comment

/-! ## Characters -/

/-- Blanks between lexemes. -/
def isSpace (c : Char) : Bool :=
  let n := c.toNat
  (0x09 ≤ n && n ≤ 0x0d) || n == 0x20 || n == 0xa0 || n == 0x1680 || (0x2000 ≤ n && n ≤ 0x200b) ||
    n == 0x2028 || n == 0x2029 || n == 0x202f || n == 0x205f || n == 0x2060 || n == 0x3000 ||
    n == 0xfeff

/-- The ASCII characters that never stand in a name. -/
def isPunctuation (c : Char) : Bool := "!\"#%&'()*+,-./:;<=>?@[\\]^\x60\x7b|\x7d~".toList.contains c

/-- Can the character stand in a name? Digits cannot start one. -/
def isNameChar (c : Char) : Bool := 0x20 < c.toNat && !isPunctuation c && !isSpace c

/-- Does the character end a line comment? -/
def endsLine (c : Char) : Bool :=
  c == '\n' || c == '\r' || c.toNat == 0x2028 || c.toNat == 0x2029

/-- The number of bytes of a list of characters. -/
def byteWidth (cs : List Char) : Nat := (Text.Utf8.encodeChars cs).length

/-! ## Lexemes -/

/-- The length of a block comment after its opening. -/
def blockLength : List Char → Nat
  | [] => 0
  | '*' :: '/' :: _ => 2
  | _ :: rest => blockLength rest + 1

/-- The length of a string after its opening quote, the closing one included. -/
def stringLength (quote : Char) : List Char → Nat
  | [] => 0
  | '\\' :: _ :: rest => stringLength quote rest + 2
  | c :: rest => if c = quote then 1 else stringLength quote rest + 1

/-- The length of a template after its opening backquote. The stack tells for each level that is
open whether it is text (`true`) or an inserted expression. -/
def templateLength : List Bool → List Char → Nat
  | [], _ => 0
  | _ :: _, [] => 0
  | true :: outer, '\\' :: _ :: rest => templateLength (true :: outer) rest + 2
  | true :: outer, '$' :: '{' :: rest => templateLength (false :: true :: outer) rest + 2
  | true :: outer, c :: rest =>
    (if c = '\x60' then templateLength outer rest else templateLength (true :: outer) rest) + 1
  | false :: outer, c :: rest =>
    (if c = '{' then templateLength (false :: false :: outer) rest
      else if c = '}' then templateLength outer rest
      else if c = '\x60' then templateLength (true :: false :: outer) rest
      else templateLength (false :: outer) rest) + 1

/-- The length of a name: escapes stand for characters of it. -/
def nameLength : List Char → Nat
  | '\\' :: 'u' :: rest => nameLength rest + 2
  | c :: rest => if isNameChar c then nameLength rest + 1 else 0
  | [] => 0

/-- The length of a number from its first digit on. -/
def numberLength : List Char → Nat
  | [] => 0
  | [c] => if isNameChar c || c = '.' then 1 else 0
  | c :: d :: rest =>
    if (c = 'e' || c = 'E') && (d = '+' || d = '-') then numberLength rest + 2
    else if isNameChar c || c = '.' then numberLength (d :: rest) + 1
    else 0

/-- The shape and the length of the lexeme at the first character. -/
def lexemeAt (cs : List Char) : Shape × Nat :=
  match cs with
  | [] => (.mark, 0)
  | '=' :: '>' :: _ => (.mark, 2)
  | '.' :: '.' :: '.' :: _ => (.mark, 3)
  | c :: rest =>
    if c = '"' || c = '\'' then (.string, stringLength c rest + 1)
    else if c = '\x60' then (.template, templateLength [true] rest + 1)
    else if c.isDigit then (.number, numberLength cs)
    else if c = '.' && rest.head?.any Char.isDigit then (.number, numberLength rest + 1)
    else if c = '#' && nameLength rest ≠ 0 then (.privateName, nameLength rest + 1)
    else if nameLength cs ≠ 0 then (.word, nameLength cs)
    else (.mark, 1)

/-- Cut up characters from a byte offset on. `newline` tells whether a line break was passed since
the last lexeme. -/
def lexFrom : (fuel offset : Nat) → (newline : Bool) → List Char → Lexemes
  | 0, _, _, _ => ⟨[], []⟩
  | _ + 1, _, _, [] => ⟨[], []⟩
  | fuel + 1, offset, newline, c :: rest =>
    if isSpace c then
      lexFrom fuel (offset + byteWidth [c]) (newline || c == '\n') rest
    else
      let comment := match c, rest with
        | '/', '/' :: body => some ((body.takeWhile (!endsLine ·)).length + 2)
        | '/', '*' :: body => some (blockLength body + 2)
        | _, _ => none
      match comment with
      | some length =>
        let text := (c :: rest).take length
        let stop := offset + byteWidth text
        let next := lexFrom fuel stop (newline || text.contains '\n') ((c :: rest).drop length)
        { next with comments := ⟨offset, stop⟩ :: next.comments }
      | none =>
        let (shape, length) := lexemeAt (c :: rest)
        let text := (c :: rest).take length
        let stop := offset + byteWidth text
        let next := lexFrom fuel stop false ((c :: rest).drop length)
        { next with lexemes := ⟨shape, String.ofList text, offset, stop, newline⟩ :: next.lexemes }

/-- Cut up a source. -/
def lex (cs : List Char) : Lexemes :=
  match cs with
  | '#' :: '!' :: _ =>
    let line := cs.takeWhile (!endsLine ·)
    let stop := byteWidth line
    let next := lexFrom (cs.length + 1) stop false (cs.drop line.length)
    { next with
      lexemes := ⟨.hashBang, String.ofList line, 0, stop, false⟩ :: next.lexemes }
  | _ => lexFrom (cs.length + 1) 0 false cs

end ApiDecl.Source
