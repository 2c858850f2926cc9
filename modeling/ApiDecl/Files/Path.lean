import ApiDecl.Text.Blank

/-!
# Paths

Paths are texts with slashes. `normalize` writes a path without empty and `.` parts, keeping `..`;
one leading slash stays one, two stay two, and more become one. `absolute` also lets `..` take back
the part before it, without looking at any file.
-/

namespace ApiDecl.Path

/-- The parts between the slashes of a path. -/
def split (cs : List Char) : List (List Char) := Text.splitOn '/' cs

/-- Parts with a slash between each two. -/
def join (parts : List (List Char)) : List Char := Text.joinWith ['/'] parts

/-- The leading slashes that count. -/
def root : List Char → List Char
  | '/' :: '/' :: '/' :: _ => ['/']
  | '/' :: '/' :: _ => ['/', '/']
  | '/' :: _ => ['/']
  | _ => []

/-- The parts that name something: neither empty nor `.`. -/
def parts (cs : List Char) : List (List Char) :=
  (split cs).filter fun part => !part.isEmpty && part ≠ ['.']

/-- A path in its plain form. -/
def normalizeChars (cs : List Char) : List Char :=
  match root cs ++ join (parts cs) with
  | [] => ['.']
  | plain => plain

/-- A path in its plain form. -/
def normalize (path : String) : String := String.ofList (normalizeChars path.toList)

/-! ## Absolute and relative paths -/

/-- One path after the other; an absolute path stands for itself. -/
def append (base path : String) : String :=
  if path.toList.head? = some '/' then path
  else if base.isEmpty || base.toList.getLast? = some '/' then base ++ path
  else base ++ "/" ++ path

/-- Go one part further. The parts gone so far are in reverse. -/
def pushPart (gone : List (List Char)) (part : List Char) : List (List Char) :=
  if part = ['.', '.'] then gone.drop 1 else part :: gone

/-- The names on the way to an absolute path. -/
def absoluteParts (cs : List Char) : List (List Char) := ((parts cs).foldl pushPart []).reverse

/-- The absolute path of a path in a directory. -/
def absolute (directory path : String) : String :=
  let cs := (append directory path).toList
  String.ofList (root cs ++ join (absoluteParts cs))

/-- The names on the way to a path. -/
def names (path : String) : List String := (parts path.toList).map String.ofList

/-- The absolute path without its last name. -/
def parent (path : String) : String :=
  let cs := path.toList
  String.ofList (root cs ++ join (parts cs).dropLast)

/-- Two lists without their common start. -/
def dropCommon {α : Type} [DecidableEq α] : List α → List α → List α × List α
  | a :: as, b :: bs => if a = b then dropCommon as bs else (a :: as, b :: bs)
  | as, bs => (as, bs)

/-- The way from one absolute path to another. -/
def relative (base path : String) : String :=
  let (up, down) := dropCommon (parts base.toList) (parts path.toList)
  match up.map (fun _ => ['.', '.']) ++ down with
  | [] => "."
  | way => String.ofList (join way)

/-! ## Endings of names -/

/-- The ending of the last name of a path, from its last dot. A dot at the start or at the end of
the name makes no ending. -/
def ending (path : String) : String :=
  let name := (parts path.toList).getLastD []
  let tail := (name.reverse.takeWhile (· ≠ '.')).reverse
  if tail.isEmpty || name.length ≤ tail.length + 1 then "" else String.ofList ('.' :: tail)

end ApiDecl.Path
