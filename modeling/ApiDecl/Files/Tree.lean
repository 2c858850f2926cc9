import ApiDecl.Files.Path
import ApiDecl.Keyed
import ApiDecl.Text.Quoted

/-!
# Files

A tree holds files and directories. A location is the list of the names on the way to it from the
root. A path is followed name by name: every name but the last has to lead to a directory, and
`..` goes back to where the directory is. Reading and writing fail with a cause and the path that
was given.
-/

namespace ApiDecl.Files

/-- A file with its content, or a directory with its entries. -/
inductive Tree
  | file (content : List UInt8)
  | directory (entries : List (String × Tree))
deriving Inhabited

/-- The names on the way from the root. -/
abbrev Location := List String

namespace Tree

/-- The directory without entries. -/
def empty : Tree := .directory []

/-- What is at a location. -/
def get? : Tree → Location → Option Tree
  | t, [] => some t
  | .file _, _ :: _ => none
  | .directory entries, name :: rest => (entries.lookup name).bind (get? · rest)

/-- The tree with something put at a location, together with the directories on the way. A file on
the way gives way. -/
def put (x : Tree) : Tree → Location → Tree
  | _, [] => x
  | .file _, name :: rest => .directory [(name, put x .empty rest)]
  | .directory entries, name :: rest =>
    .directory (Keyed.set name (put x ((entries.lookup name).getD .empty) rest) entries)

mutual

/-- All files with their locations, which start with the names gone so far. -/
def files (gone : Location) : Tree → List (Location × List UInt8)
  | .file content => [(gone, content)]
  | .directory entries => filesAmong gone entries

/-- All files among entries. -/
def filesAmong (gone : Location) : List (String × Tree) → List (Location × List UInt8)
  | [] => []
  | entry :: rest => filesOf gone entry ++ filesAmong gone rest

/-- All files of one entry. -/
def filesOf (gone : Location) : String × Tree → List (Location × List UInt8)
  | (name, t) => t.files (gone ++ [name])

end

/-- Is it a directory? -/
def isDirectory : Tree → Bool
  | .directory _ => true
  | .file _ => false

end Tree

/-! ## Faults -/

/-- Why a file cannot be used. -/
inductive Cause
  | missing
  /-- The file may not be read. -/
  | denied
  | taken
  | notDirectory
  | isDirectory
deriving DecidableEq, Repr

/-- The number of a cause. -/
def Cause.number : Cause → Nat
  | .missing => 2
  | .denied => 13
  | .taken => 17
  | .notDirectory => 20
  | .isDirectory => 21

/-- A cause in words. -/
def Cause.text : Cause → String
  | .missing => "No such file or directory"
  | .denied => "Permission denied"
  | .taken => "File exists"
  | .notDirectory => "Not a directory"
  | .isDirectory => "Is a directory"

/-- A path that cannot be used. -/
structure Fault where
  cause : Cause
  path : String
deriving DecidableEq, Repr

/-- A fault in words. -/
def Fault.message (f : Fault) : String :=
  "[Errno " ++ toString f.cause.number ++ "] " ++ f.cause.text ++ ": " ++ Text.quoted f.path

/-! ## The files of a system -/

/-- All files, and the directory in which relative paths start. -/
structure FileSystem where
  root : Tree
  directory : String
  /-- Where the files are that may not be read. -/
  sealed : List Location := []

namespace FileSystem

/-- The absolute path of a path. -/
def absolute (fs : FileSystem) (path : String) : String := Path.absolute fs.directory path

/-- Follow one name from a directory. -/
def follow (fs : FileSystem) (here : Location) (name : List Char) : Except Cause Location :=
  match fs.root.get? here with
  | none => .error .missing
  | some (.file _) => .error .notDirectory
  | some (.directory _) =>
    if name.isEmpty || name = ['.'] then .ok here
    else if name = ['.', '.'] then .ok here.dropLast
    else .ok (here ++ [String.ofList name])

/-- Where a path starts. -/
def start (fs : FileSystem) (path : List Char) : Location :=
  if path.head? = some '/' then [] else Path.names fs.directory

/-- The location that names lead to. -/
def followAll (fs : FileSystem) (path : List Char) (names : List (List Char)) :
    Except Cause Location :=
  names.foldlM fs.follow (fs.start path)

/-- What a path leads to. -/
def lookup (fs : FileSystem) (path : String) : Except Cause Tree :=
  if path.isEmpty then .error .missing
  else do
    let location ← fs.followAll path.toList (Path.split path.toList)
    match fs.root.get? location with
    | none => throw .missing
    | some t => return t

/-- Does a path lead to a directory? -/
def isDirectory (fs : FileSystem) (path : String) : Bool :=
  match fs.lookup path with
  | .ok t => t.isDirectory
  | .error _ => false

/-- Does a path lead to where nothing may be read? -/
def isSealed (fs : FileSystem) (path : String) : Bool :=
  match fs.followAll path.toList (Path.split path.toList) with
  | .ok location => fs.sealed.contains location
  | .error _ => false

/-- The content of a file. -/
def read (fs : FileSystem) (path : String) : Except Fault (List UInt8) :=
  match fs.lookup path with
  | .ok (.file content) => if fs.isSealed path then .error ⟨.denied, path⟩ else .ok content
  | .ok (.directory _) => .error ⟨.isDirectory, path⟩
  | .error cause => .error ⟨cause, path⟩

/-- Where a file with a path is to be written. A path that ends in a slash, in `.` or in `..` can
only be a directory. -/
def writeLocation (fs : FileSystem) (path : String) : Except Cause Location :=
  let names := Path.split path.toList
  let bare := (names.reverse.dropWhile List.isEmpty).reverse
  if path.isEmpty then .error .missing
  else do
    let above ← fs.followAll path.toList bare.dropLast
    let location ← fs.follow above (bare.getLastD [])
    let last := names.getLastD []
    if last.isEmpty || last = ['.'] || last = ['.', '.'] then throw .isDirectory
    match fs.root.get? location with
    | some (.directory _) => throw .isDirectory
    | _ => return location

/-- Write a file. -/
def write (fs : FileSystem) (path : String) (content : List UInt8) : Except Fault FileSystem :=
  match fs.writeLocation path with
  | .ok location => .ok { fs with root := (Tree.file content).put fs.root location }
  | .error cause => .error ⟨cause, path⟩

/-- Why a directory cannot be made: what is in the way, and where. -/
def obstacle? (root : Tree) (gone : Location) : Location → Option (Cause × Location)
  | [] =>
    match root.get? gone with
    | some (.file _) => some (.taken, gone)
    | _ => none
  | name :: rest =>
    match root.get? gone with
    | some (.file _) => some (.notDirectory, gone ++ [name])
    | some (.directory _) => obstacle? root (gone ++ [name]) rest
    | none => none

/-- Make a directory with an absolute path, and the directories on the way. -/
def makeDirectories (fs : FileSystem) (path : String) : Except Fault FileSystem :=
  let location := Path.names path
  match obstacle? fs.root [] location with
  | some (cause, place) =>
    .error ⟨cause, String.ofList (Path.root path.toList) ++ "/".intercalate place⟩
  | none =>
    match fs.root.get? location with
    | some _ => .ok fs
    | none => .ok { fs with root := Tree.empty.put fs.root location }

/-- A system whose only directory is an absolute one, the one in which relative paths start. -/
def bare (directory : String) : FileSystem :=
  { root := Tree.empty.put .empty (Path.names directory), directory }

/-- Put a file, or a directory if the path ends in a slash, at a path. -/
def place (fs : FileSystem) (path : String) (content : List UInt8) : FileSystem :=
  let location := Path.names (fs.absolute path)
  if path.toList.getLast? = some '/' then
    if (fs.root.get? location).isSome then fs
    else { fs with root := Tree.empty.put fs.root location }
  else { fs with root := (Tree.file content).put fs.root location }

/-- The files that another system does not have. -/
def filesBeyond (fs before : FileSystem) : List (Location × List UInt8) :=
  (fs.root.files []).filter fun (location, _) => (before.root.get? location).isNone

end FileSystem

end ApiDecl.Files
