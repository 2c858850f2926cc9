import ApiDecl.Text.Utf8

/-!
# Tokens of YAML text

Block structure shows as start and end tokens that indentation gives rise to; a key is announced
by a token of its own, whether a question mark or only a later colon makes it one.
-/

namespace ApiDecl.Yaml

/-- Why a text is no YAML document, or a document has no value. -/
inductive Error
  /-- The text breaks a rule of the format. -/
  | malformed
  /-- A scalar does not have the value that its kind promises. -/
  | badValue (message : String)
  /-- A word is not one of the truth values. -/
  | badTruth (word : String)
  /-- A number has no digits at all. -/
  | noDigits
  /-- A text is no point in time. -/
  | noTime
deriving DecidableEq, Repr

/-- How a scalar is written. -/
inductive Style
  | plain
  | quoted
deriving DecidableEq, Repr

/-- A tag as it is written: a handle, unless it is verbatim, and the rest. -/
structure TagText where
  handle : Option String
  suffix : String
deriving DecidableEq, Repr

/-- A directive. -/
inductive Directive
  | yaml (major : Nat)
  | tag (handle pfx : String)
  | other
deriving DecidableEq, Repr

/-- A token. -/
inductive Token
  | streamEnd
  | directive (d : Directive)
  | documentStart
  | documentEnd
  | blockSequenceStart
  | blockMappingStart
  | blockEnd
  | flowSequenceStart
  | flowSequenceEnd
  | flowMappingStart
  | flowMappingEnd
  | key
  | value
  | blockEntry
  | flowEntry
  | alias (name : String)
  | anchor (name : String)
  | tag (t : TagText)
  | scalar (text : String) (style : Style)
deriving DecidableEq, Repr

/-! ## Characters -/

/-- What stands for the end of the text. -/
def endMark : Char := '\x00'

/-- Characters that end a line. -/
def isBreak (c : Char) : Bool :=
  c == '\n' || c == '\r' || c.toNat == 0x85 || c.toNat == 0x2028 || c.toNat == 0x2029

/-- The end of a line or of the text. -/
def isBreakOrEnd (c : Char) : Bool := c == endMark || isBreak c

/-- A blank, or the end of a line or of the text. -/
def isGap (c : Char) : Bool := c == ' ' || c == '\t' || isBreakOrEnd c

/-- Letters, digits, hyphens and underscores of ASCII. -/
def isNameChar (c : Char) : Bool := c.isAlphanum || c == '-' || c == '_'

/-- Characters of the addresses that tags are. -/
def isUriChar (c : Char) : Bool := c.isAlphanum || "-;/?:@&=+$,_.!~*'()[]%".toList.contains c

/-- Characters that a document may hold. -/
def isAllowed (c : Char) : Bool :=
  let n := c.toNat
  n == 0x09 || n == 0x0a || n == 0x0d || (0x20 ≤ n && n ≤ 0x7e) || n == 0x85 ||
    (0xa0 ≤ n && n ≤ 0xd7ff) || (0xe000 ≤ n && n ≤ 0xfffd) || 0x10000 ≤ n

end ApiDecl.Yaml
