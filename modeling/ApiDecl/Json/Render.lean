import ApiDecl.Json.Value

/-!
# JSON text

Two ways to write a value. `render` puts every item on a line of its own, indented by two blanks a
level, with the members of each object in the order of their keys. `compact` keeps the order of
the members and takes one line.

Only the quote, the backslash and the controls below U+0020 are escaped.
-/

namespace ApiDecl.Json

/-- How a character is written inside a string. -/
def escapeChar (c : Char) : List Char :=
  if c = '"' then ['\\', '"']
  else if c = '\\' then ['\\', '\\']
  else if c = '\x08' then ['\\', 'b']
  else if c = '\x0c' then ['\\', 'f']
  else if c = '\n' then ['\\', 'n']
  else if c = '\r' then ['\\', 'r']
  else if c = '\t' then ['\\', 't']
  else if c.toNat < 0x20 then
    ['\\', 'u', '0', '0', Nat.digitChar (c.toNat / 16), Nat.digitChar (c.toNat % 16)]
  else [c]

/-- A string between its quotes. -/
def renderString (s : String) : List Char := '"' :: s.toList.flatMap escapeChar ++ ['"']

/-- An integer in decimal. -/
def renderInt (n : Int) : List Char :=
  (if n < 0 then ['-'] else []) ++ Nat.toDigits 10 n.natAbs

/-- Members in the order of their keys. -/
def sortMembers (members : List (String × Json)) : List (String × Json) :=
  members.mergeSort fun a b => !decide (b.1 < a.1)

mutual

/-- The value with the members of all its objects in the order of their keys. -/
def sorted : Json → Json
  | .arr items => .arr (sortedItems items)
  | .obj members => .obj (sortMembers (sortedMembers members))
  | v => v

/-- `sorted` for every item. -/
def sortedItems : List Json → List Json
  | [] => []
  | v :: rest => sorted v :: sortedItems rest

/-- `sorted` for the value of every member. -/
def sortedMembers : List (String × Json) → List (String × Json)
  | [] => []
  | (k, v) :: rest => (k, sorted v) :: sortedMembers rest

end

/-- A line break and the indentation of a level. -/
def newline (level : Nat) : List Char := '\n' :: List.replicate (2 * level) ' '

mutual

/-- The value on several lines, its members in the order in which they stand. -/
def layout (level : Nat) : Json → List Char
  | .null => "null".toList
  | .bool true => "true".toList
  | .bool false => "false".toList
  | .int n => renderInt n
  | .float x => x.render
  | .str s => renderString s
  | .arr [] => ['[', ']']
  | .arr (v :: rest) =>
    '[' :: newline (level + 1) ++ layout (level + 1) v ++ layoutItems (level + 1) rest ++
      newline level ++ [']']
  | .obj [] => ['{', '}']
  | .obj ((k, v) :: rest) =>
    '{' :: newline (level + 1) ++ renderString k ++ ':' :: ' ' :: layout (level + 1) v ++
      layoutMembers (level + 1) rest ++ newline level ++ ['}']

/-- The items after the first. -/
def layoutItems (level : Nat) : List Json → List Char
  | [] => []
  | v :: rest => ',' :: newline level ++ layout level v ++ layoutItems level rest

/-- The members after the first. -/
def layoutMembers (level : Nat) : List (String × Json) → List Char
  | [] => []
  | (k, v) :: rest =>
    ',' :: newline level ++ renderString k ++ ':' :: ' ' :: layout level v ++
      layoutMembers level rest

end

/-- The value on several lines, with sorted members. The interpreter may limit how deep a value
nests and how many digits of a number it writes; both limits are settings of its own, outside the
program, so every value has a text here. -/
def render (v : Json) : List Char := layout 0 (sorted v)

mutual

/-- The value on one line. -/
def compact : Json → List Char
  | .null => "null".toList
  | .bool true => "true".toList
  | .bool false => "false".toList
  | .int n => renderInt n
  | .float x => x.render
  | .str s => renderString s
  | .arr [] => ['[', ']']
  | .arr (v :: rest) => '[' :: compact v ++ compactItems rest ++ [']']
  | .obj [] => ['{', '}']
  | .obj ((k, v) :: rest) =>
    '{' :: renderString k ++ ':' :: compact v ++ compactMembers rest ++ ['}']

/-- The items after the first. -/
def compactItems : List Json → List Char
  | [] => []
  | v :: rest => ',' :: compact v ++ compactItems rest

/-- The members after the first. -/
def compactMembers : List (String × Json) → List Char
  | [] => []
  | (k, v) :: rest => ',' :: renderString k ++ ':' :: compact v ++ compactMembers rest

end

end ApiDecl.Json
