import ApiDecl.Proofs.Members
import ApiDecl.Symbol.Binding

/-!
# Builders list the outermost members

A member is told by the way to it: a path of child positions. Two equal nodes at different paths are
two members, and the order of paths is the order of the document.

* `LeadsToMember` says, without reference to the search, which paths lead to members: all nodes on
  the way are named, and the first of the chosen kind stands at the end.
* `mem_memberPaths_iff`, `memberPaths_increasing`, `map_atPath?_memberPaths`: the search meets the
  ends of exactly these paths, each once and in order.
* `pairwise_spans_membersOf`: where children stand inside their parent, one after the other, so do
  the members of a declaration.
* `build_outermost`: what is built for an interface or an enum belongs to these members one to one.

Nothing is assumed about the kinds of nodes, and nodes need not differ.
-/

namespace ApiDecl

open Syntax (Node Kind Place Sketch levelSource levelTree)
open Model (Interface Enum)

namespace Syntax.Node

/-! ## Nodes by path -/

/-- The node at the end of a path of child positions. -/
def atPath? (n : Node) (path : List Nat) : Option Node :=
  ((Place.root n).descend path).map Place.node

theorem map_node_descend (p : Place) (path : List Nat) :
    (p.descend path).map Place.node = p.node.atPath? path := by
  -- Where a path ends depends on the node alone: the surroundings of a place are never looked at.
  suffices h : ∀ q : Place, q.node = p.node →
      (p.descend path).map Place.node = (q.descend path).map Place.node from h (.root p.node) rfl
  induction path generalizing p with
  | nil =>
    intro q hq
    exact congrArg some hq.symm
  | cons i rest ih =>
    intro q hq
    have hchildren : p.children[i]?.map Place.node = q.children[i]?.map Place.node := by
      rw [← List.getElem?_map, ← List.getElem?_map, Place.map_node_children,
        Place.map_node_children, hq]
    rw [Place.descend, Place.descend]
    cases hp : p.children[i]? with
    | none =>
      cases hq : q.children[i]? with
      | none => rfl
      | some d => simp [hp, hq] at hchildren
    | some c =>
      cases hq : q.children[i]? with
      | none => simp [hp, hq] at hchildren
      | some d =>
        have hcd : c.node = d.node := by simpa [hp, hq] using hchildren
        exact ih c d hcd.symm

@[simp] theorem atPath?_nil (n : Node) : n.atPath? [] = some n := rfl

@[simp] theorem atPath?_cons (n : Node) (i : Nat) (rest : List Nat) :
    n.atPath? (i :: rest) = n.children[i]?.bind (·.atPath? rest) := by
  have hchild : n.children[i]? = (Place.root n).children[i]?.map Place.node := by
    rw [← List.getElem?_map, Place.map_node_children]
    rfl
  rw [atPath?, Place.descend, hchild]
  cases (Place.root n).children[i]? with
  | none => rfl
  | some c => exact map_node_descend c rest

theorem atPath?_append (n : Node) (p q : List Nat) :
    n.atPath? (p ++ q) = (n.atPath? p).bind (·.atPath? q) := by
  induction p generalizing n with
  | nil => rfl
  | cons i rest ih =>
    rw [List.cons_append, atPath?_cons, atPath?_cons]
    cases n.children[i]? with
    | none => rfl
    | some c => exact ih c

theorem mem_nodes_of_atPath? {n m : Node} {path : List Nat} (h : n.atPath? path = some m) :
    m ∈ n.nodes := by
  induction path generalizing n with
  | nil =>
    obtain rfl : n = m := by simpa using h
    exact self_mem_nodes n
  | cons i rest ih =>
    rw [atPath?_cons] at h
    obtain ⟨c, hc, h⟩ := Option.bind_eq_some_iff.mp h
    exact mem_nodes_of_mem_child (ih h) (List.mem_of_getElem? hc)

/-- The children of every node stand inside it, one after the other. -/
def SpansNest (root : Node) : Prop :=
  ∀ n ∈ root.nodes,
    (∀ c ∈ n.children, n.info.start ≤ c.info.start ∧ c.info.stop ≤ n.info.stop) ∧
      n.children.Pairwise fun a b => a.info.stop ≤ b.info.start

instance (root : Node) : Decidable root.SpansNest := by
  unfold SpansNest
  infer_instance

theorem SpansNest.of_mem {n m : Node} (h : n.SpansNest) (hm : m ∈ n.nodes) : m.SpansNest :=
  fun k hk => h k (mem_nodes_trans hk hm)

theorem SpansNest.within {n m : Node} (h : n.SpansNest) (hm : m ∈ n.nodes) :
    n.info.start ≤ m.info.start ∧ m.info.stop ≤ n.info.stop := by
  induction n using childInduction with
  | h n ih =>
    rw [nodes_eq, List.mem_cons, mem_nodesList] at hm
    rcases hm with rfl | ⟨c, hc, hm⟩
    · exact ⟨Nat.le_refl _, Nat.le_refl _⟩
    · have hchild := (h n (self_mem_nodes n)).1 c hc
      have hbelow := ih c hc (h.of_mem (mem_nodes_of_mem_child (self_mem_nodes c) hc)) hm
      omega

end Syntax.Node

namespace Reading

/-! ## Paths to members -/

/-- A path leads to a member: it goes through named nodes, and the first node of the chosen kind on
it stands at its end. -/
structure LeadsToMember (chosen : Kind → Bool) (d : Node) (path : List Nat) : Prop where
  below : path ≠ []
  arrives : ∃ m, d.atPath? path = some m ∧ chosen m.kind
  named : ∀ q m, q <+: path → q ≠ [] → d.atPath? q = some m → m.info.named
  first : ∀ q m, q <+: path → q ≠ [] → q ≠ path → d.atPath? q = some m → ¬ chosen m.kind

theorem not_leadsToMember_nil (chosen : Kind → Bool) (d : Node) : ¬ LeadsToMember chosen d [] :=
  fun h => h.below rfl

/-- A path leads to a member if its first step does, or if the rest of it does from a node that is
no member. -/
theorem leadsToMember_cons_iff {chosen : Kind → Bool} {d : Node} {i : Nat} {rest : List Nat} :
    LeadsToMember chosen d (i :: rest) ↔
      ∃ c, d.children[i]? = some c ∧ c.info.named ∧
        ((rest = [] ∧ chosen c.kind) ∨ (¬ chosen c.kind ∧ LeadsToMember chosen c rest)) := by
  constructor
  · intro h
    obtain ⟨m, hm, hchosen⟩ := h.arrives
    rw [Node.atPath?_cons] at hm
    obtain ⟨c, hc, hm⟩ := Option.bind_eq_some_iff.mp hm
    have hstep : d.atPath? [i] = some c := by simp [hc]
    have hbelow : ∀ q, d.atPath? (i :: q) = c.atPath? q := by simp [hc]
    refine ⟨c, hc, h.named [i] c (by simp) (by simp) hstep, ?_⟩
    by_cases hrest : rest = []
    · subst hrest
      obtain rfl : c = m := by simpa using hm
      exact Or.inl ⟨rfl, hchosen⟩
    · have hpast : ¬ chosen c.kind :=
        h.first [i] c (by simp) (by simp) (by simpa using Ne.symm hrest) hstep
      refine Or.inr ⟨hpast, hrest, ⟨m, hm, hchosen⟩, ?_, ?_⟩
      · intro q k hq _ hk
        exact h.named (i :: q) k (by simpa using hq) (by simp) (by rw [hbelow, hk])
      · intro q k hq _ hne hk
        exact h.first (i :: q) k (by simpa using hq) (by simp) (by simpa using hne)
          (by rw [hbelow, hk])
  · rintro ⟨c, hc, hnamed, hcases⟩
    have hbelow : ∀ q, d.atPath? (i :: q) = c.atPath? q := by simp [hc]
    -- A way that begins with the step to `c` ends at `c` or goes on below it.
    have hways : ∀ q k, q <+: i :: rest → q ≠ [] → d.atPath? q = some k →
        ∃ q', q = i :: q' ∧ q' <+: rest ∧ c.atPath? q' = some k := by
      intro q k hq hne hk
      rcases List.prefix_cons_iff.mp hq with rfl | ⟨q', rfl, hq'⟩
      · exact absurd rfl hne
      · exact ⟨q', rfl, hq', by rw [← hbelow, hk]⟩
    refine ⟨by simp, ?_, ?_, ?_⟩
    · rcases hcases with ⟨rfl, hchosen⟩ | ⟨-, hrest⟩
      · exact ⟨c, by simp [hc], hchosen⟩
      · obtain ⟨m, hm, hchosen⟩ := hrest.arrives
        exact ⟨m, by rw [hbelow, hm], hchosen⟩
    · intro q k hq hne hk
      obtain ⟨q', rfl, hq', hk⟩ := hways q k hq hne hk
      by_cases hnil : q' = []
      · subst hnil
        obtain rfl : c = k := by simpa using hk
        exact hnamed
      · rcases hcases with ⟨rfl, -⟩ | ⟨-, hrest⟩
        · exact absurd (List.prefix_nil.mp hq') hnil
        · exact hrest.named q' k hq' hnil hk
    · intro q k hq hne hproper hk
      obtain ⟨q', rfl, hq', hk⟩ := hways q k hq hne hk
      rcases hcases with ⟨rfl, -⟩ | ⟨hpast, hrest⟩
      · obtain rfl := List.prefix_nil.mp hq'
        exact absurd rfl hproper
      · by_cases hnil : q' = []
        · subst hnil
          obtain rfl : c = k := by simpa using hk
          exact hpast
        · exact hrest.first q' k hq' hnil (by simpa using hproper) hk

mutual

/-- The paths from a node to the outermost nodes of a chosen kind, the node itself included. -/
def outermostPaths (chosen : Kind → Bool) : Node → List (List Nat)
  | .mk info children => if chosen info.kind then [[]] else memberPathsFrom chosen 0 children

/-- The paths to the members below the siblings from position `i` on. -/
def memberPathsFrom (chosen : Kind → Bool) (i : Nat) : List Node → List (List Nat)
  | [] => []
  | n :: rest =>
    (if n.info.named then (outermostPaths chosen n).map (i :: ·) else []) ++
      memberPathsFrom chosen (i + 1) rest

end

/-- The paths to the members of a declaration. -/
def memberPaths (chosen : Kind → Bool) (n : Node) : List (List Nat) :=
  memberPathsFrom chosen 0 n.children

theorem outermostPaths_eq (chosen : Kind → Bool) (n : Node) :
    outermostPaths chosen n = if chosen n.kind then [[]] else memberPaths chosen n := by
  cases n
  rw [outermostPaths]
  rfl

theorem memberPathsFrom_eq (chosen : Kind → Bool) (i : Nat) (ns : List Node) :
    memberPathsFrom chosen i ns = (ns.zipIdx i).flatMap fun x =>
      if x.1.info.named then (outermostPaths chosen x.1).map (x.2 :: ·) else [] := by
  induction ns generalizing i with
  | nil => simp [memberPathsFrom]
  | cons n rest ih => rw [memberPathsFrom, ih, List.zipIdx_cons, List.flatMap_cons]

theorem cons_mem_memberPaths_iff {chosen : Kind → Bool} {n : Node} {i : Nat} {rest : List Nat} :
    i :: rest ∈ memberPaths chosen n ↔
      ∃ c, n.children[i]? = some c ∧ c.info.named ∧ rest ∈ outermostPaths chosen c := by
  rw [memberPaths, memberPathsFrom_eq, List.mem_flatMap]
  constructor
  · rintro ⟨⟨c, j⟩, hc, hmem⟩
    rw [List.mem_zipIdx_iff_getElem?] at hc
    split at hmem
    · next hnamed =>
      obtain ⟨q, hq, he⟩ := List.mem_map.mp hmem
      obtain ⟨rfl, rfl⟩ := List.cons.inj he
      exact ⟨c, hc, hnamed, hq⟩
    · cases hmem
  · rintro ⟨c, hc, hnamed, hrest⟩
    refine ⟨(c, i), List.mem_zipIdx_iff_getElem?.mpr hc, ?_⟩
    rw [if_pos hnamed]
    exact List.mem_map_of_mem hrest

theorem nil_notMem_memberPaths (chosen : Kind → Bool) (n : Node) : [] ∉ memberPaths chosen n := by
  rw [memberPaths, memberPathsFrom_eq, List.mem_flatMap]
  rintro ⟨⟨c, j⟩, -, hmem⟩
  split at hmem
  · obtain ⟨q, -, he⟩ := List.mem_map.mp hmem
    cases he
  · cases hmem

/-- The search follows the paths that lead to members, and no others. -/
theorem mem_memberPaths_iff {chosen : Kind → Bool} {n : Node} {path : List Nat} :
    path ∈ memberPaths chosen n ↔ LeadsToMember chosen n path := by
  induction path generalizing n with
  | nil => exact iff_of_false (nil_notMem_memberPaths chosen n) (not_leadsToMember_nil chosen n)
  | cons i rest ih =>
    rw [cons_mem_memberPaths_iff, leadsToMember_cons_iff]
    refine exists_congr fun c => and_congr_right fun _ => and_congr_right fun _ => ?_
    rw [outermostPaths_eq]
    by_cases hchosen : chosen c.kind
    · simp [hchosen]
    · simp [hchosen, ih]

/-- Paths are met in the order of the document. -/
theorem memberPaths_increasing (chosen : Kind → Bool) (n : Node) :
    (memberPaths chosen n).Pairwise (· < ·) := by
  induction n using Node.childInduction with
  | h n ih =>
    have hpositions : n.children.zipIdx.Pairwise fun x y => x.2 < y.2 := by
      rw [← List.pairwise_map (f := Prod.snd) (R := (· < ·)), List.zipIdx_map_snd]
      exact List.pairwise_lt_range'
    rw [memberPaths, memberPathsFrom_eq, List.pairwise_flatMap]
    refine ⟨?_, hpositions.imp ?_⟩
    · rintro ⟨c, i⟩ hc
      dsimp only
      split
      · rw [List.pairwise_map]
        have hmem : c ∈ n.children := List.mem_of_getElem? (List.mem_zipIdx_iff_getElem?.mp hc)
        have hbelow : (outermostPaths chosen c).Pairwise (· < ·) := by
          rw [outermostPaths_eq]
          split
          · exact List.pairwise_singleton _ _
          · exact ih c hmem
        exact hbelow.imp fun h => List.cons_lt_cons_iff.mpr (Or.inr ⟨rfl, h⟩)
      · exact .nil
    · -- Paths below different siblings differ in their first step.
      rintro ⟨c, i⟩ ⟨c', j⟩ hlt p hp q hq
      dsimp only at hp hq hlt
      split at hp
      · split at hq
        · obtain ⟨p', -, rfl⟩ := List.mem_map.mp hp
          obtain ⟨q', -, rfl⟩ := List.mem_map.mp hq
          exact List.cons_lt_cons_iff.mpr (Or.inl hlt)
        · cases hq
      · cases hp

theorem membersOf_eq_zipIdx (chosen : Kind → Bool) (n : Node) :
    membersOf chosen n = n.children.zipIdx.flatMap fun x =>
      if x.1.info.named then outermost chosen x.1 else [] := by
  have hfst : n.children = n.children.zipIdx.map Prod.fst := (List.zipIdx_map_fst 0 _).symm
  rw [membersOf, outermostList_eq]
  nth_rewrite 1 [hfst]
  generalize n.children.zipIdx = l
  induction l with
  | nil => rfl
  | cons x rest ih =>
    rw [List.flatMap_cons, ← ih, List.map_cons, List.filter_cons]
    split <;> simp

/-- The paths lead to the members, in the same order. -/
theorem map_atPath?_memberPaths (chosen : Kind → Bool) (n : Node) :
    (memberPaths chosen n).map n.atPath? = (membersOf chosen n).map some := by
  induction n using Node.childInduction with
  | h n ih =>
    rw [membersOf_eq_zipIdx, memberPaths, memberPathsFrom_eq, List.map_flatMap, List.map_flatMap]
    refine List.flatMap_congr ?_
    rintro ⟨c, i⟩ hc
    have hc : n.children[i]? = some c := List.mem_zipIdx_iff_getElem?.mp hc
    dsimp only
    split
    · have hbelow : (n.atPath? ∘ fun q => i :: q) = c.atPath? := by
        funext q
        simp [hc]
      rw [List.map_map, hbelow, outermostPaths_eq, outermost_eq]
      split
      · rfl
      · exact ih c (List.mem_of_getElem? hc)
    · rfl

/-! ## Spans of members -/

theorem mem_nodes_of_mem_outermost {chosen : Kind → Bool} {n m : Node}
    (h : m ∈ outermost chosen n) : m ∈ n.nodes := by
  rw [outermost_eq] at h
  split at h
  · obtain rfl := List.mem_singleton.mp h
    exact Node.self_mem_nodes m
  · exact mem_nodes_of_mem_membersOf h

/-- Members stand one after the other if children do. -/
theorem pairwise_spans_membersOf (chosen : Kind → Bool) {n : Node} (h : n.SpansNest) :
    (membersOf chosen n).Pairwise fun m k => m.info.stop ≤ k.info.start := by
  induction n using Node.childInduction with
  | h n ih =>
    have hbelow : ∀ c ∈ n.namedChildren, c.SpansNest := fun c hc =>
      h.of_mem (mem_nodes_of_mem_namedChildren hc)
    rw [membersOf_eq, List.pairwise_flatMap]
    constructor
    · intro c hc
      rw [outermost_eq]
      split
      · exact List.pairwise_singleton _ _
      · exact ih c (Node.mem_children_of_mem_namedChildren hc) (hbelow c hc)
    · have hsiblings : n.namedChildren.Pairwise fun a b => a.info.stop ≤ b.info.start :=
        (h n (Node.self_mem_nodes n)).2.filter _
      refine List.Pairwise.imp_of_mem ?_ hsiblings
      intro c c' hc hc' hstop m hm k hk
      have hmc := (hbelow c hc).within (mem_nodes_of_mem_outermost hm)
      have hkc := (hbelow c' hc').within (mem_nodes_of_mem_outermost hk)
      omega

/-! ## What is built -/

/-- Values have been built from the members of a declaration: there are paths to exactly the
members, in the order of the document, and the values are built from the nodes at their ends. Where
children stand inside their parent, one after the other, each member ends before the next starts. -/
structure BuiltFromMembers {α : Type} (chosen : Kind → Bool) (d : Node)
    (build : Node → Except ReadError α) (values : List α) (paths : List (List Nat)) : Prop where
  increasing : paths.Pairwise (· < ·)
  exact : ∀ path, path ∈ paths ↔ LeadsToMember chosen d path
  built : List.Forall₂ (fun path a => ∃ m, d.atPath? path = some m ∧ build m = .ok a) paths values
  spans : d.SpansNest → paths.Pairwise fun p q =>
    ∀ m k, d.atPath? p = some m → d.atPath? q = some k → m.info.stop ≤ k.info.start

theorem builtFromMembers_memberPaths {α : Type} {chosen : Kind → Bool} {d : Node}
    {build : Node → Except ReadError α} {values : List α}
    (h : (membersOf chosen d).map build = values.map .ok) :
    BuiltFromMembers chosen d build values (memberPaths chosen d) := by
  have hnodes := map_atPath?_memberPaths chosen d
  refine ⟨memberPaths_increasing chosen d, fun path => mem_memberPaths_iff, ?_, fun hspans => ?_⟩
  · have hbuilt : (memberPaths chosen d).map (fun path => (d.atPath? path).map build) =
        values.map fun a => some (.ok a) :=
      calc (memberPaths chosen d).map (fun path => (d.atPath? path).map build)
          = ((memberPaths chosen d).map d.atPath?).map (Option.map build) := by simp
        _ = ((membersOf chosen d).map build).map some := by simp [hnodes]
        _ = values.map fun a => some (.ok a) := by simp [h]
    refine (Outcome.forall₂_of_map_eq hbuilt).imp fun path a ha => ?_
    exact Option.map_eq_some_iff.mp ha
  · have hmembers : ((membersOf chosen d).map some).Pairwise fun x y =>
        ∀ m k, x = some m → y = some k → m.info.stop ≤ k.info.start := by
      refine List.pairwise_map.mpr ((pairwise_spans_membersOf chosen hspans).imp ?_)
      rintro m k hle _ _ ⟨⟩ ⟨⟩
      exact hle
    rw [← hnodes] at hmembers
    exact List.pairwise_map.mp hmembers

/-- **Builders list exactly the outermost members, once each, in the order of the document.** The
properties of an interface are built from the property signatures that are reached through named
nodes with no other property signature on the way, and the members of an enum in the same way from
its names and assignments. -/
theorem build_outermost (t : SymbolTable) (naming : Naming) (d : Node) :
    (∀ i, (buildInterface t naming d).outcome = .ok i →
      ∃ paths, BuiltFromMembers (· = .propertySignature) d
        (fun m => (buildProperty t naming m).outcome) i.properties paths) ∧
    (∀ e, (buildEnum t naming d).outcome = .ok e →
      ∃ paths, BuiltFromMembers Kind.isEnumMember d
        (fun m => (buildMember t naming m).outcome) e.members paths) := by
  constructor
  · intro i hi
    exact ⟨_, builtFromMembers_memberPaths (buildInterface_eq_ok hi).2⟩
  · intro e he
    exact ⟨_, builtFromMembers_memberPaths (buildEnum_eq_ok he).2⟩

/-- An interface with a property of an object type and a method that takes one. -/
def requestSource : List UInt8 :=
  Text.Utf8.encode "interface A \x7b x: \x7b y: any \x7d; m(z: \x7b w: any \x7d): B \x7d"

/-- The annotation of a type. -/
def annotation (start stop : Nat) (type : Sketch) : Sketch :=
  .mk (.other "type_annotation") start stop true false (some "type") [type]

/-- The property of `requestSource`, whose type has a property too. -/
def objectProperty : Sketch :=
  .inner .propertySignature 14 27
    [.nameLeaf .propertyIdentifier 14 15,
      annotation 15 27 <| .inner (.other "object_type") 17 27
        [.inner .propertySignature 19 25
          [.nameLeaf .propertyIdentifier 19 20,
            annotation 20 25 <| .leaf .predefinedType 22 25]]]

/-- The tree of `requestSource`. -/
def requestTree : Node :=
  (Sketch.place requestSource 0 <|
    .inner .interfaceDeclaration 0 50
      [.token "interface" 0 9, .nameLeaf .typeIdentifier 10 11,
        .inner (.other "interface_body") 12 50
          [.token "\x7b" 12 13, objectProperty, .token ";" 27 28,
            .inner (.other "method_signature") 29 48
              [.nameLeaf .propertyIdentifier 29 30,
                .inner (.other "formal_parameters") 30 45
                  [.inner (.other "required_parameter") 31 44
                    [.leaf (.other "identifier") 31 32,
                      annotation 32 44 <| .inner (.other "object_type") 34 44
                        [.inner .propertySignature 36 42
                          [.nameLeaf .propertyIdentifier 36 37,
                            annotation 37 42 <| .leaf .predefinedType 39 42]]]],
                annotation 45 48 <| .leaf .typeIdentifier 47 48],
            .token "\x7d" 49 50]]).1

/-- The symbols of `requestTree`. -/
def requestTable : SymbolTable := (Binding.bindFile .empty requestTree requestSource).1

/-- The symbols of `levelTree`. -/
def levelTable : SymbolTable := (Binding.bindFile .empty levelTree levelSource).1

/-- The declaration of the enum in `levelTree`. -/
def levelEnum : Node := (levelTree.atPath? [1]).getD levelTree

/-- The property inside the type of another one is not listed, and the one inside the type of a
parameter is. The members of the enum are listed with and without a value. -/
theorem build_outermost_request :
    (∃ i paths, (buildInterface requestTable .bound requestTree).outcome = .ok i ∧
      i.properties.map (·.name) = ["x", "w"] ∧ requestTree.SpansNest ∧
      BuiltFromMembers (· = .propertySignature) requestTree
        (fun m => (buildProperty requestTable .bound m).outcome) i.properties paths) ∧
    ∃ e paths, (buildEnum levelTable .bound levelEnum).outcome = .ok e ∧
      e.members.map (·.name) = ["Low", "High"] ∧ levelEnum.SpansNest ∧
      BuiltFromMembers Kind.isEnumMember levelEnum
        (fun m => (buildMember levelTable .bound m).outcome) e.members paths := by
  obtain ⟨i, hi, hproperties⟩ : ∃ i, (buildInterface requestTable .bound requestTree).outcome =
      .ok i ∧ i.properties.map (·.name) = ["x", "w"] :=
    Outcome.map_eq_ok_iff.mp (by decide +kernel)
  obtain ⟨e, he, hmembers⟩ : ∃ e, (buildEnum levelTable .bound levelEnum).outcome =
      .ok e ∧ e.members.map (·.name) = ["Low", "High"] :=
    Outcome.map_eq_ok_iff.mp (by decide +kernel)
  obtain ⟨paths, hpaths⟩ := (build_outermost requestTable .bound requestTree).1 i hi
  obtain ⟨paths', hpaths'⟩ := (build_outermost levelTable .bound levelEnum).2 e he
  exact ⟨⟨i, paths, hi, hproperties, by decide +kernel, hpaths⟩,
    e, paths', he, hmembers, by decide +kernel, hpaths'⟩

end Reading

end ApiDecl
