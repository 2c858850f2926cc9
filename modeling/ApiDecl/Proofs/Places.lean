import ApiDecl.Syntax.Place
import Mathlib.Data.List.Nodup
import Mathlib.Data.List.Perm.Basic

/-!
# Nodes and places of a tree

The walk over a tree keeps a stack of places and takes the last one first. Nothing is assumed about
the shape of the tree or the kinds of its nodes.

* `Place.mem_all_iff`: the walk meets exactly the places that are reached from the root by going
  from a place to one of its children.
* `Place.map_node_all_perm`: it meets every node once, in another order than the document's.
* `Place.nodup_all`: it meets no place twice.
* `Place.Within.eq_of_id`: where no two nodes share an identity, a place is determined by the
  identity of its node, so a node has one parent and one list of earlier siblings.
-/

namespace ApiDecl.Syntax

namespace Node

/-! ## Nodes in document order -/

@[simp] theorem nodesList_nil : nodesList [] = [] := by simp [nodesList]

@[simp] theorem nodesList_cons (n : Node) (rest : List Node) :
    nodesList (n :: rest) = n.nodes ++ nodesList rest := by simp [nodesList]

theorem nodesList_eq_flatMap (ns : List Node) : nodesList ns = ns.flatMap nodes := by
  induction ns with
  | nil => simp
  | cons n rest ih => simp [ih]

theorem nodes_eq (n : Node) : n.nodes = n :: nodesList n.children := by
  cases n; simp [nodes, children]

theorem mem_nodesList {m : Node} {ns : List Node} : m ∈ nodesList ns ↔ ∃ n ∈ ns, m ∈ n.nodes := by
  simp [nodesList_eq_flatMap]

theorem self_mem_nodes (n : Node) : n ∈ n.nodes := by simp [nodes_eq]

theorem mem_nodes_of_mem_child {m c n : Node} (hm : m ∈ c.nodes) (hc : c ∈ n.children) :
    m ∈ n.nodes := by
  rw [nodes_eq]
  exact List.mem_cons_of_mem _ (mem_nodesList.mpr ⟨c, hc, hm⟩)

/-- What holds of a node whenever it holds of all its children holds of every node. -/
@[elab_as_elim] theorem childInduction {P : Node → Prop}
    (h : ∀ n, (∀ c ∈ n.children, P c) → P n) (n : Node) : P n :=
  h n fun c _ => childInduction h c
termination_by n.size
decreasing_by exact size_lt_of_mem_children (by assumption)

/-- The nodes of a subtree are nodes of the tree. -/
theorem mem_nodes_trans {k m n : Node} (hk : k ∈ m.nodes) (hm : m ∈ n.nodes) : k ∈ n.nodes := by
  induction n using childInduction with
  | h n ih =>
    rw [nodes_eq, List.mem_cons, mem_nodesList] at hm
    rcases hm with rfl | ⟨c, hc, hm⟩
    · exact hk
    · exact mem_nodes_of_mem_child (ih c hc hm) hc

/-- The node that bears the name is a node of the tree. -/
theorem bearer_mem_nodes (n : Node) : n.bearer ∈ n.nodes := by
  rw [bearer]
  cases h : n.nameChild with
  | none => exact self_mem_nodes n
  | some c => exact mem_nodes_of_mem_child (self_mem_nodes c) (List.mem_of_find?_eq_some h)

/-- No two nodes of the tree share an identity. -/
def DistinctIds (root : Node) : Prop := (root.nodes.map (·.info.id)).Nodup

instance (root : Node) : Decidable root.DistinctIds :=
  inferInstanceAs (Decidable (root.nodes.map (·.info.id)).Nodup)

theorem DistinctIds.eq_of_id {root n m : Node} (h : root.DistinctIds) (hn : n ∈ root.nodes)
    (hm : m ∈ root.nodes) (hid : n.info.id = m.info.id) : n = m :=
  List.inj_on_of_nodup_map h hn hm hid

end Node

namespace Place

/-! ## The places of a tree -/

/-- A place at or below another one. -/
inductive Below (q : Place) : Place → Prop
  | self : Below q q
  | child {p c : Place} : Below q p → c ∈ p.children → Below q c

/-- A place of a tree. -/
def Within (root : Node) (p : Place) : Prop := Below (.root root) p

theorem mem_childrenAfter {p c : Place} {earlier later : List Node}
    (h : c ∈ childrenAfter p earlier later) :
    ∃ before n after, later = before ++ n :: after ∧
      c = .child p (before.reverse ++ earlier) n := by
  induction later generalizing earlier with
  | nil => simp [childrenAfter] at h
  | cons n later ih =>
    rcases List.mem_cons.mp h with rfl | h
    · exact ⟨[], n, later, rfl, by simp⟩
    · obtain ⟨before, m, after, rfl, rfl⟩ := ih h
      exact ⟨n :: before, m, after, rfl, by simp⟩

theorem parent?_of_mem_children {p c : Place} (h : c ∈ p.children) : c.parent? = some p := by
  obtain ⟨_, _, _, _, rfl⟩ := mem_childrenAfter h
  rfl

theorem exists_child_of_mem {p : Place} {n : Node} (h : n ∈ p.node.children) :
    ∃ c ∈ p.children, c.node = n := by
  rw [← map_node_children] at h
  exact List.mem_map.mp h

/-- Siblings differ, be it only in the number of siblings before them. -/
theorem children_nodup (p : Place) : p.children.Nodup := by
  have h : ∀ earlier later,
      (childrenAfter p earlier later).Pairwise fun c d => c.earlier.length < d.earlier.length := by
    intro earlier later
    induction later generalizing earlier with
    | nil => exact .nil
    | cons n later ih =>
      refine .cons (fun c hc => ?_) (ih _)
      obtain ⟨before, _, _, _, rfl⟩ := mem_childrenAfter hc
      simp only [Place.earlier, List.length_append, List.length_cons]
      omega
  exact (h [] p.node.children).imp fun hlt he => by simp [he] at hlt

theorem Below.trans {p q r : Place} (hq : Below p q) (hr : Below q r) : Below p r := by
  induction hr with
  | self => exact hq
  | child _ hc ih => exact ih.child hc

/-- Going down starts with a child. -/
theorem below_iff {q p : Place} : Below q p ↔ p = q ∨ ∃ c ∈ q.children, Below c p := by
  constructor
  · intro h
    induction h with
    | self => exact Or.inl rfl
    | @child p c _ hc ih =>
      rcases ih with rfl | ⟨d, hd, hp⟩
      · exact Or.inr ⟨c, hc, .self⟩
      · exact Or.inr ⟨d, hd, hp.child hc⟩
  · rintro (rfl | ⟨c, hc, hp⟩)
    · exact .self
    · exact (Below.self.child hc).trans hp

/-! ## The walk -/

/-- The walk meets what lies at or below the places on its stack. -/
theorem mem_walk_iff {stack : List Place} {p : Place} :
    p ∈ walk stack ↔ ∃ q ∈ stack, Below q p := by
  induction stack using walk.induct with
  | case1 => simp [walk]
  | case2 top rest ih =>
    rw [walk, List.mem_cons, ih]
    constructor
    · rintro (rfl | ⟨q, hq, hp⟩)
      · exact ⟨p, List.mem_cons_self, .self⟩
      · rcases List.mem_append.mp hq with hq | hq
        · exact ⟨top, List.mem_cons_self, below_iff.mpr (Or.inr ⟨q, List.mem_reverse.mp hq, hp⟩)⟩
        · exact ⟨q, List.mem_cons_of_mem _ hq, hp⟩
    · rintro ⟨q, hq, hp⟩
      rcases List.mem_cons.mp hq with rfl | hq
      · rcases below_iff.mp hp with rfl | ⟨c, hc, hp⟩
        · exact Or.inl rfl
        · exact Or.inr ⟨c, List.mem_append_left _ (List.mem_reverse.mpr hc), hp⟩
      · exact Or.inr ⟨q, List.mem_append_right _ hq, hp⟩

/-- The walk over a tree meets exactly the places of the tree. -/
theorem mem_all_iff {root : Node} {p : Place} : p ∈ all root ↔ Within root p := by
  simp [all, mem_walk_iff, Within]

/-- The nodes that the walk meets are those of the trees on its stack, each as often. -/
theorem map_node_walk_perm (stack : List Place) :
    ((walk stack).map node).Perm (Node.nodesList (stack.map node)) := by
  induction stack using walk.induct with
  | case1 => simp [walk]
  | case2 top rest ih =>
    rw [walk, List.map_cons, List.map_cons, Node.nodesList_cons, Node.nodes_eq, List.cons_append]
    refine .cons _ (ih.trans ?_)
    rw [List.map_append, List.map_reverse, map_node_children, Node.nodesList_eq_flatMap,
      Node.nodesList_eq_flatMap, Node.nodesList_eq_flatMap, List.flatMap_append]
    exact ((List.reverse_perm _).flatMap_right _).append_right _

/-- The walk over a tree meets every node once. -/
theorem map_node_all_perm (root : Node) : ((all root).map node).Perm root.nodes := by
  have h := map_node_walk_perm [.root root]
  simpa [all, node] using h

/-- All nodes are looked at when the faults of a tree are counted. -/
theorem countFaults_eq (root : Node) : countFaults root = root.nodes.countP Node.isFault := by
  rw [countFaults, ← (map_node_all_perm root).countP_eq, List.countP_map]
  rfl

theorem Within.node_mem {root : Node} {p : Place} (h : Within root p) : p.node ∈ root.nodes :=
  (map_node_all_perm root).mem_iff.mp (List.mem_map_of_mem (mem_all_iff.mpr h))

theorem exists_within_of_mem {root n : Node} (h : n ∈ root.nodes) :
    ∃ p, Within root p ∧ p.node = n := by
  obtain ⟨p, hp, hn⟩ := List.mem_map.mp ((map_node_all_perm root).mem_iff.mpr h)
  exact ⟨p, mem_all_iff.mp hp, hn⟩

theorem Within.parent {root n : Node} {p : Place} {earlier : List Node}
    (h : Within root (.child p earlier n)) : Within root p := by
  cases h with
  | child hp hc =>
    obtain ⟨_, _, _, _, he⟩ := mem_childrenAfter hc
    cases he
    exact hp

/-- The earlier siblings of a place are nodes of the tree. -/
theorem Within.earlier_mem {root m : Node} {p : Place} (h : Within root p) (hm : m ∈ p.earlier) :
    m ∈ root.nodes := by
  cases h with
  | self => simp [earlier] at hm
  | @child q _ hq hc =>
    obtain ⟨before, n, after, hchildren, rfl⟩ := mem_childrenAfter hc
    have hsibling : m ∈ q.node.children := by
      rw [hchildren]
      exact List.mem_append_left _ (by simpa [earlier] using hm)
    exact Node.mem_nodes_trans (Node.mem_nodes_of_mem_child (Node.self_mem_nodes m) hsibling)
      (Within.node_mem hq)

/-! ## No place is met twice -/

/-- The number of steps from the root. -/
def depth : Place → Nat
  | root _ => 0
  | child p _ _ => p.depth + 1

theorem depth_of_mem_children {p c : Place} (h : c ∈ p.children) : c.depth = p.depth + 1 := by
  obtain ⟨_, _, _, _, rfl⟩ := mem_childrenAfter h
  rfl

theorem Below.eq_or_depth_lt {q p : Place} (h : Below q p) : p = q ∨ q.depth < p.depth := by
  induction h with
  | self => exact Or.inl rfl
  | @child p c _ hc ih =>
    have hdepth := depth_of_mem_children hc
    right
    rcases ih with rfl | hlt <;> omega

/-- Above a place there is one place of each depth. -/
theorem Below.unique {q q' p : Place} (h : Below q p) (h' : Below q' p)
    (hdepth : q.depth = q'.depth) : q = q' := by
  induction h with
  | self =>
    rcases h'.eq_or_depth_lt with heq | hlt
    · exact heq
    · omega
  | @child p c hp hc ih =>
    cases h' with
    | self =>
      have hchild := depth_of_mem_children hc
      rcases hp.eq_or_depth_lt with rfl | hlt <;> omega
    | @child p' _ hp' hc' =>
      have hparent := parent?_of_mem_children hc
      rw [parent?_of_mem_children hc', Option.some.injEq] at hparent
      exact ih (hparent ▸ hp')

/-- No place lies at or below both. -/
def Apart (q q' : Place) : Prop := ∀ p, Below q p → ¬Below q' p

theorem Apart.symm {q q' : Place} (h : Apart q q') : Apart q' q := fun p hp' hp => h p hp hp'

theorem apart_children (p : Place) : p.children.Pairwise Apart := by
  refine (children_nodup p).imp_of_mem fun hc hd hne r hr hr' => hne ?_
  exact hr.unique hr' (by rw [depth_of_mem_children hc, depth_of_mem_children hd])

theorem apart_stack {p : Place} {rest : List Place} (h : (p :: rest).Pairwise Apart) :
    (p.children.reverse ++ rest).Pairwise Apart := by
  obtain ⟨hp, hrest⟩ := List.pairwise_cons.mp h
  refine List.pairwise_append.mpr ⟨?_, hrest, fun c hc q hq r hr hr' => ?_⟩
  · rw [List.pairwise_reverse]
    exact (apart_children p).imp Apart.symm
  · have hbelow : Below p c := Below.self.child (List.mem_reverse.mp hc)
    exact hp q hq r (hbelow.trans hr) hr'

theorem nodup_walk {stack : List Place} (h : stack.Pairwise Apart) : (walk stack).Nodup := by
  induction stack using walk.induct with
  | case1 => simp [walk]
  | case2 p rest ih =>
    rw [walk, List.nodup_cons]
    refine ⟨fun hp => ?_, ih (apart_stack h)⟩
    obtain ⟨q, hq, hbelow⟩ := mem_walk_iff.mp hp
    rcases List.mem_append.mp hq with hq | hq
    · have hdepth := depth_of_mem_children (List.mem_reverse.mp hq)
      rcases hbelow.eq_or_depth_lt with rfl | hlt <;> omega
    · exact (List.pairwise_cons.mp h).1 q hq p .self hbelow

/-- The walk over a tree meets no place twice, even if nodes share an identity. -/
theorem nodup_all (root : Node) : (all root).Nodup :=
  nodup_walk (List.pairwise_singleton _ _)

/-! ## Trees without repeated identities -/

theorem ids_all_nodup {root : Node} (h : root.DistinctIds) :
    ((all root).map (·.node.info.id)).Nodup := by
  have hp := (map_node_all_perm root).map (·.info.id)
  rw [List.map_map] at hp
  exact hp.nodup_iff.mpr h

/-- A place is determined by the identity of its node. -/
theorem Within.eq_of_id {root : Node} {p q : Place} (h : root.DistinctIds)
    (hp : Within root p) (hq : Within root q) (hid : p.node.info.id = q.node.info.id) : p = q :=
  List.inj_on_of_nodup_map (ids_all_nodup h) (mem_all_iff.mpr hp) (mem_all_iff.mpr hq) hid

end Place

/-! ## Small trees -/

namespace Sketch

/-- A keyword or a piece of punctuation. -/
def token (name : String) (start stop : Nat) : Sketch :=
  .mk (.other name) start stop false false none []

/-- A named node without children. -/
def leaf (kind : Kind) (start stop : Nat) : Sketch := .mk kind start stop true false none []

/-- A node without children that holds the name of its parent. -/
def nameLeaf (kind : Kind) (start stop : Nat) : Sketch :=
  .mk kind start stop true false (some "name") []

/-- A named node with children. -/
def inner (kind : Kind) (start stop : Nat) (children : List Sketch) : Sketch :=
  .mk kind start stop true false none children

end Sketch

/-- An interface with one property. -/
def userSource : List UInt8 := Text.Utf8.encode "interface User \x7b id: number \x7d"

/-- The tree of `userSource`. -/
def userSketch : Sketch :=
  .inner (.other "program") 0 29
    [.inner .interfaceDeclaration 0 29
      [.token "interface" 0 9, .nameLeaf .typeIdentifier 10 14,
        .inner (.other "interface_body") 15 29
          [.token "\x7b" 15 16,
            .inner .propertySignature 17 27
              [.nameLeaf .propertyIdentifier 17 19,
                .mk (.other "type_annotation") 19 27 true false (some "type")
                  [.token ":" 19 20, .leaf .predefinedType 21 27]],
            .token "\x7d" 28 29]]]

/-- An enum with documentation, whose second member is quoted and has a value. -/
def levelSource : List UInt8 :=
  Text.Utf8.encode "/** d */\nenum Level \x7b Low, 'High' = 1 \x7d"

/-- The tree of `levelSource`. -/
def levelSketch : Sketch :=
  .inner (.other "program") 0 39
    [.leaf .comment 0 8,
      .inner .enumDeclaration 9 39
        [.token "enum" 9 13, .nameLeaf (.other "identifier") 14 19,
          .inner .enumBody 20 39
            [.token "\x7b" 20 21, .leaf .propertyIdentifier 22 25, .token "," 25 26,
              .inner .enumAssignment 27 37
                [.nameLeaf .stringLiteral 27 33, .token "=" 34 35, .leaf (.other "number") 36 37],
              .token "\x7d" 38 39]]]

/-- An interface with documentation and a property of a nested type, not all in single bytes. -/
def sizeSource : List UInt8 :=
  Text.Utf8.encode "/** Ä */\ninterface Größe \x7b tags: map<string, Ü>[] \x7d"

/-- The tree of `sizeSource`. -/
def sizeSketch : Sketch :=
  .inner (.other "program") 0 55
    [.leaf .comment 0 9,
      .inner .interfaceDeclaration 10 55
        [.token "interface" 10 19, .nameLeaf .typeIdentifier 20 27,
          .inner (.other "interface_body") 28 55
            [.token "\x7b" 28 29,
              .inner .propertySignature 30 53
                [.nameLeaf .propertyIdentifier 30 34,
                  .mk (.other "type_annotation") 34 53 true false (some "type")
                    [.token ":" 34 35,
                      .inner .arrayType 36 53
                        [.inner .genericType 36 51
                          [.nameLeaf .typeIdentifier 36 39,
                            .inner .typeArguments 39 51
                              [.token "<" 39 40, .leaf .predefinedType 40 46, .token "," 46 47,
                                .leaf .typeIdentifier 48 50, .token ">" 50 51]],
                          .token "[" 51 52, .token "]" 52 53]]],
              .token "\x7d" 54 55]]]

/-- An interface without a name. -/
def namelessSource : List UInt8 := Text.Utf8.encode "interface \x7b\x7d"

/-- The tree of `namelessSource`. -/
def namelessSketch : Sketch :=
  .inner (.other "program") 0 12
    [.inner .interfaceDeclaration 0 12
      [.token "interface" 0 9, .inner (.other "interface_body") 10 12
        [.token "\x7b" 10 11, .token "\x7d" 11 12]]]

/-- The interface, with identities from 0 on. -/
def userTree : Node := (userSketch.place userSource 0).1

/-- The enum, with identities that follow those of the interface. -/
def levelTree : Node := (levelSketch.place levelSource 12).1

end ApiDecl.Syntax
