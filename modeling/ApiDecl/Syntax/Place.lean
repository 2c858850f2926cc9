import ApiDecl.Syntax.Node

/-!
# Places in a tree

A place is a node together with the way to it: its earlier siblings and the place of its parent.
`walk` lists all places below a stack of places, the last one first, so that later siblings come
before earlier ones and a parent before its children.
-/

namespace ApiDecl.Syntax

/-- A node with its surroundings. -/
inductive Place
  | root (node : Node)
  /-- A child of another place, with its earlier siblings, the nearest one first. -/
  | child (parent : Place) (earlier : List Node) (node : Node)
deriving Inhabited

namespace Place

/-- The node at the place. -/
def node : Place → Node
  | root n => n
  | child _ _ n => n

/-- The place of the parent. -/
def parent? : Place → Option Place
  | root _ => none
  | child p _ _ => some p

/-- The earlier siblings, the nearest one first. -/
def earlier : Place → List Node
  | root _ => []
  | child _ ns _ => ns

/-- Places for siblings that come after the given ones. -/
def childrenAfter (parent : Place) : (earlier later : List Node) → List Place
  | _, [] => []
  | earlier, n :: later => child parent earlier n :: childrenAfter parent (n :: earlier) later

/-- The places of the children in order. -/
def children (p : Place) : List Place := childrenAfter p [] p.node.children

/-- The place reached by a path of child positions. -/
def descend (p : Place) : List Nat → Option Place
  | [] => some p
  | i :: path => do
    let c ← p.children[i]?
    c.descend path

theorem map_node_childrenAfter (p : Place) (earlier later : List Node) :
    (childrenAfter p earlier later).map node = later := by
  induction later generalizing earlier with
  | nil => rfl
  | cons n later ih => simp [childrenAfter, node, ih]

@[simp] theorem map_node_children (p : Place) : p.children.map node = p.node.children :=
  map_node_childrenAfter p [] p.node.children

/-- The places below the stack, the top of the stack first. -/
def walk (stack : List Place) : List Place :=
  match stack with
  | [] => []
  | p :: rest => p :: walk (p.children.reverse ++ rest)
termination_by Node.sizeList (stack.map node)
decreasing_by
  simp only [List.map_append, List.map_reverse, map_node_children, Node.sizeList_append,
    Node.sizeList_reverse, List.map_cons, Node.sizeList_cons, Node.size_eq]
  omega

/-- The places of a whole tree, later siblings first. -/
def all (root : Node) : List Place := walk [.root root]

/-- The number of faults in a tree. -/
def countFaults (root : Node) : Nat := (all root).countP (·.node.isFault)

end Place

end ApiDecl.Syntax
