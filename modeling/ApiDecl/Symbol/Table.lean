import ApiDecl.Keyed
import ApiDecl.Syntax.Node

/-!
# Symbol tables

A symbol table binds name-bearing nodes to symbols. Its entries stand in the order in which their
keys were first bound; binding a key again keeps its place.
-/

namespace ApiDecl

open Syntax (Node)

/-- A declared name with its documentation. -/
structure Symbol where
  name : String
  documentation : Option String
deriving DecidableEq, Repr

/-- What tells nodes apart in a symbol table. -/
structure NodeKey where
  id : Nat
  start : Nat
  stop : Nat
deriving DecidableEq, Repr

/-- The key of a node. -/
def NodeKey.ofNode (n : Node) : NodeKey := ⟨n.info.id, n.info.start, n.info.stop⟩

/-- The symbols bound to nodes. -/
structure SymbolTable where
  entries : List (NodeKey × Symbol)
deriving DecidableEq, Repr

namespace SymbolTable

/-- The table without symbols. -/
def empty : SymbolTable := ⟨[]⟩

/-- The number of symbols. -/
def size (t : SymbolTable) : Nat := t.entries.length

/-- The symbol of a key. -/
def find? (t : SymbolTable) (key : NodeKey) : Option Symbol := t.entries.lookup key

/-- The symbol bound to a node. -/
def symbolAt (t : SymbolTable) (n : Node) : Option Symbol := t.find? (.ofNode n)

/-- Bind a node to a symbol. -/
def bind (t : SymbolTable) (n : Node) (symbol : Symbol) : SymbolTable :=
  ⟨Keyed.set (.ofNode n) symbol t.entries⟩

/-- Remove all symbols with a name. -/
def unbind (t : SymbolTable) (name : String) : SymbolTable :=
  ⟨t.entries.filter fun (_, s) => s.name ≠ name⟩

/-- The symbol of a declaration, property or member. -/
def symbolOf (t : SymbolTable) (n : Node) : Option Symbol := t.symbolAt n.bearer

/-- The documentation of a declaration, property or member. -/
def documentationOf (t : SymbolTable) (n : Node) : Option String :=
  (t.symbolOf n).bind (·.documentation)

end SymbolTable

end ApiDecl
