import ApiDecl.Files.Tree

/-!
# Finding declaration files

Below a directory every file with the ending of declarations counts, unless it is in a hidden
directory or in one that holds results of a build. The found paths are sorted by code points, so
they do not depend on the order in which a directory lists its entries.
-/

namespace ApiDecl.Files

/-- Directories that are never looked into. -/
def skippedDirectories : List String := ["build", "dist", "out", "output", "venv", "__pycache__"]

/-- Is a directory of this name looked into? -/
def isSearched (name : String) : Bool :=
  name.toList.head? ≠ some '.' && !skippedDirectories.contains name

/-- Is a file of this name a declaration file? Its name ends in `.ts`, and something other than
dots stands before. -/
def isDeclarationFile (name : String) : Bool :=
  match name.toList.reverse with
  | 's' :: 't' :: '.' :: stem => stem.any (· ≠ '.')
  | _ => false

mutual

/-- The declaration files below a tree with a path. -/
def Tree.declarationFiles (path : String) : Tree → List String
  | .file _ => []
  | .directory entries => declarationFilesAmong path entries

/-- The declaration files among the entries of a directory with a path. -/
def declarationFilesAmong (path : String) : List (String × Tree) → List String
  | [] => []
  | entry :: rest => declarationFilesOf path entry ++ declarationFilesAmong path rest

/-- The declaration files of one entry. -/
def declarationFilesOf (path : String) : String × Tree → List String
  | (name, t) =>
    if t.isDirectory then
      if isSearched name then t.declarationFiles (Path.append path name) else []
    else if isDeclarationFile name then [Path.append path name]
    else []

end

/-- Sorted by code points. -/
def sortPaths (paths : List String) : List String := paths.mergeSort fun a b => decide (a ≤ b)

/-- The absolute paths of the declaration files below a directory. -/
def FileSystem.declarationFiles (fs : FileSystem) (directory : String) : List String :=
  let path := fs.absolute directory
  match fs.lookup path with
  | .ok t => sortPaths (t.declarationFiles path)
  | .error _ => []

end ApiDecl.Files
