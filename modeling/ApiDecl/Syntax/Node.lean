import ApiDecl.Syntax.Kind
import ApiDecl.Text.Utf8

/-!
# Syntax trees

A node covers a stretch of source bytes and has an identity of its own, so two nodes with equal
content stay apart. Children may stand in a field of their parent; some are anonymous, such as
punctuation.

A `Sketch` is a tree without identities and texts. `Sketch.place` puts it into a source.
-/

namespace ApiDecl.Syntax

/-- A place in a source: the row, and the number of bytes before it in that row. -/
structure Point where
  row : Nat
  column : Nat
deriving DecidableEq, Repr, Inhabited

/-- The point reached by going a number of bytes on. -/
def Point.advance : Point → (offset : Nat) → List UInt8 → Point
  | p, 0, _ => p
  | p, _ + 1, [] => p
  | p, offset + 1, b :: rest =>
    if b = 10 then advance ⟨p.row + 1, 0⟩ offset rest else advance ⟨p.row, p.column + 1⟩ offset rest

/-- The point of a byte offset. -/
def Point.ofOffset (source : List UInt8) (offset : Nat) : Point := advance ⟨0, 0⟩ offset source

/-- The bytes of a source between two offsets. -/
def slice (source : List UInt8) (start stop : Nat) : List UInt8 :=
  (source.drop start).take (stop - start)

/-- What a node is, apart from its children. -/
structure Info where
  /-- The identity of the node. -/
  id : Nat
  kind : Kind
  /-- The first byte. -/
  start : Nat
  /-- The byte after the last one. -/
  stop : Nat
  named : Bool
  /-- Was the node put in by the parser, with no source for it? -/
  missing : Bool
  /-- The field of the parent in which the node stands. -/
  field : Option String
  /-- The source bytes that the node covers. -/
  text : List UInt8
  /-- Where the node starts, if it comes from a source. -/
  startPoint : Option Point
  /-- The row in which the node ends. -/
  stopRow : Nat
deriving DecidableEq, Repr, Inhabited

/-- A syntax tree. -/
inductive Node
  | mk (info : Info) (children : List Node)
deriving Repr, Inhabited

namespace Node

mutual

/-- Equality of nodes is decidable. -/
def decEq : (n m : Node) → Decidable (n = m)
  | .mk i ns, .mk j ms =>
    letI := decEqList ns ms
    decidable_of_iff (i = j ∧ ns = ms) (by simp)

/-- `decEq` for lists of nodes. -/
def decEqList : (ns ms : List Node) → Decidable (ns = ms)
  | [], [] => isTrue rfl
  | [], _ :: _ => isFalse (by simp)
  | _ :: _, [] => isFalse (by simp)
  | n :: ns, m :: ms =>
    letI := decEq n m
    letI := decEqList ns ms
    decidable_of_iff (n = m ∧ ns = ms) (by simp)

end

instance : DecidableEq Node := decEq

/-- What the node is, apart from its children. -/
def info : Node → Info
  | mk info _ => info

/-- All children in order. -/
def children : Node → List Node
  | mk _ children => children

/-- The kind of the node. -/
def kind (n : Node) : Kind := n.info.kind

/-- The name of the node's kind. -/
def kindName (n : Node) : String := n.kind.name

/-- The children that are named. -/
def namedChildren (n : Node) : List Node := n.children.filter (·.info.named)

/-- The first child in a field. -/
def childInField (n : Node) (field : String) : Option Node :=
  n.children.find? (·.info.field = some field)

/-- The child that holds the name. -/
def nameChild (n : Node) : Option Node := n.childInField "name"

/-- The node that bears the name: the one that holds it, or the node itself when none does. -/
def bearer (n : Node) : Node := n.nameChild.getD n

/-- The row in which the node starts; the first row for a node that comes from no source. -/
def startRow (n : Node) : Nat := (n.info.startPoint.map (·.row)).getD 0

/-- The number of the row, counted from one, as messages give it. -/
def line (n : Node) : Nat := n.startRow + 1

/-- The text of the node. -/
def text (n : Node) : Except Text.Utf8.DecodeError String := Text.Utf8.decode n.info.text

/-- Does the node stand for a fault in the source? -/
def isFault (n : Node) : Bool := n.kind = .error || n.info.missing

mutual

/-- The number of nodes of a tree. -/
def size : Node → Nat
  | mk _ children => sizeList children + 1

/-- The number of nodes of all trees. -/
def sizeList : List Node → Nat
  | [] => 0
  | n :: rest => n.size + sizeList rest

end

mutual

/-- All nodes of a tree in document order: a node comes before its children. -/
def nodes : Node → List Node
  | mk info children => mk info children :: nodesList children

/-- All nodes of a list of trees. -/
def nodesList : List Node → List Node
  | [] => []
  | n :: rest => n.nodes ++ nodesList rest

end

@[simp] theorem sizeList_nil : sizeList [] = 0 := by simp [sizeList]

@[simp] theorem sizeList_cons (n : Node) (rest : List Node) :
    sizeList (n :: rest) = n.size + sizeList rest := by simp [sizeList]

@[simp] theorem sizeList_append (ns ms : List Node) :
    sizeList (ns ++ ms) = sizeList ns + sizeList ms := by
  induction ns with
  | nil => simp
  | cons n rest ih => simp [ih, Nat.add_assoc]

@[simp] theorem sizeList_reverse (ns : List Node) : sizeList ns.reverse = sizeList ns := by
  induction ns with
  | nil => simp
  | cons n rest ih => simp [ih, Nat.add_comm]

theorem size_eq (n : Node) : n.size = sizeList n.children + 1 := by
  cases n; simp [size, children]

theorem size_pos (n : Node) : 0 < n.size := by simp [size_eq]

theorem size_le_sizeList {n : Node} {ns : List Node} (h : n ∈ ns) : n.size ≤ sizeList ns := by
  induction ns with
  | nil => simp at h
  | cons m rest ih =>
    rcases List.mem_cons.mp h with rfl | h
    · simp
    · have := ih h
      simp; omega

/-- A child is smaller than its parent. -/
theorem size_lt_of_mem_children {n c : Node} (h : c ∈ n.children) : c.size < n.size := by
  have := size_le_sizeList h
  rw [size_eq n]; omega

theorem mem_children_of_mem_namedChildren {n c : Node} (h : c ∈ n.namedChildren) :
    c ∈ n.children := (List.mem_filter.mp h).1

/-- A named child is smaller than its parent. -/
theorem size_lt_of_mem_namedChildren {n c : Node} (h : c ∈ n.namedChildren) : c.size < n.size :=
  size_lt_of_mem_children (mem_children_of_mem_namedChildren h)

end Node

/-- A syntax tree without identities and texts. -/
inductive Sketch
  | mk (kind : Kind) (start stop : Nat) (named missing : Bool) (field : Option String)
      (children : List Sketch)
deriving BEq, Repr, Inhabited

namespace Sketch

mutual

/-- The tree in a source. Identities are given out in document order, from `next` on; the second
result is the first identity not given out. -/
def place (source : List UInt8) (next : Nat) : Sketch → Node × Nat
  | mk kind start stop named missing field children =>
    let info : Info :=
      { id := next
        kind := kind
        start := start
        stop := stop
        named := named
        missing := missing
        field := field
        text := slice source start stop
        startPoint := some (Point.ofOffset source start)
        stopRow := (Point.ofOffset source stop).row }
    let (placed, next) := placeList source (next + 1) children
    (.mk info placed, next)

/-- `place` for a list of trees. -/
def placeList (source : List UInt8) (next : Nat) : List Sketch → List Node × Nat
  | [] => ([], next)
  | s :: rest =>
    let (n, next) := place source next s
    let (ns, next) := placeList source next rest
    (n :: ns, next)

end

end Sketch

end ApiDecl.Syntax
