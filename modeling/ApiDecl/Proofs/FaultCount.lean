import ApiDecl.Proofs.Additions
import Mathlib.Algebra.GroupWithZero.Nat
import Mathlib.Logic.Function.Iterate

/-!
# Counting faults

Faults are counted with a stack of places: the next place is taken off, looked at, and its children
are put on. `Count.step` is one turn of this loop. What it has found and what is still on the stack
always add up to the faults of the tree, and every turn takes one node off the forest on the stack,
so that the loop ends after as many turns as the tree has nodes.
-/

namespace ApiDecl.Syntax

namespace Node

mutual

/-- The number of faults in a tree, by recursion over the tree. -/
def faults : Node → Nat
  | mk info children => faultsList children + if (mk info children).isFault then 1 else 0

/-- The number of faults in all trees. -/
def faultsList : List Node → Nat
  | [] => 0
  | n :: rest => n.faults + faultsList rest

end

@[simp] theorem faultsList_nil : faultsList [] = 0 := by simp [faultsList]

@[simp] theorem faultsList_cons (n : Node) (rest : List Node) :
    faultsList (n :: rest) = n.faults + faultsList rest := by simp [faultsList]

theorem faults_eq (n : Node) :
    n.faults = faultsList n.children + if n.isFault then 1 else 0 := by
  cases n; simp [faults, children]

@[simp] theorem faultsList_append (ns ms : List Node) :
    faultsList (ns ++ ms) = faultsList ns + faultsList ms := by
  induction ns with
  | nil => simp
  | cons n rest ih => simp [ih, Nat.add_assoc]

@[simp] theorem faultsList_reverse (ns : List Node) : faultsList ns.reverse = faultsList ns := by
  induction ns with
  | nil => simp
  | cons n rest ih => simp [ih, Nat.add_comm]

mutual

theorem length_nodes : ∀ n : Node, n.nodes.length = n.size
  | mk info children => by rw [nodes, size, List.length_cons, length_nodesList children]

theorem length_nodesList : ∀ ns : List Node, (nodesList ns).length = sizeList ns
  | [] => by simp
  | n :: rest => by
    rw [nodesList_cons, sizeList_cons, List.length_append, length_nodes n, length_nodesList rest]

end

mutual

theorem countP_nodes : ∀ n : Node, n.nodes.countP isFault = n.faults
  | mk info children => by rw [nodes, faults, List.countP_cons, countP_nodesList children]

theorem countP_nodesList : ∀ ns : List Node, (nodesList ns).countP isFault = faultsList ns
  | [] => by simp
  | n :: rest => by
    rw [nodesList_cons, faultsList_cons, List.countP_append, countP_nodes n, countP_nodesList rest]

end

end Node

namespace Place

theorem length_all (root : Node) : (all root).length = root.size := by
  rw [← Node.length_nodes, ← (map_node_all_perm root).length_eq, List.length_map]

theorem countFaults_eq_faults (root : Node) : countFaults root = root.faults := by
  rw [countFaults_eq, Node.countP_nodes]

end Place

/-! ## The loop -/

/-- A count under way. -/
structure Count where
  /-- The number of faults found so far. -/
  found : Nat
  /-- The places still to be looked at, the next one first. -/
  stack : List Place

namespace Count

/-- The count before the first turn. -/
def start (root : Node) : Count := ⟨0, [.root root]⟩

/-- One turn of the loop; nothing happens once the stack is empty. -/
def step (s : Count) : Count :=
  match s.stack with
  | [] => s
  | p :: rest => ⟨s.found + if p.node.isFault then 1 else 0, p.children.reverse ++ rest⟩

/-- What is found and what is on the stack add up to the same after a turn. -/
theorem step_found_add (s : Count) :
    s.step.found + Node.faultsList (s.step.stack.map Place.node) =
      s.found + Node.faultsList (s.stack.map Place.node) := by
  obtain ⟨found, stack⟩ := s
  cases stack with
  | nil => rfl
  | cons p rest =>
    simp only [step, List.map_append, List.map_reverse, Place.map_node_children,
      Node.faultsList_append, Node.faultsList_reverse, List.map_cons, Node.faultsList_cons,
      Node.faults_eq p.node]
    omega

/-- A turn looks at the place that the walk meets next. -/
theorem walk_step (s : Count) : Place.walk s.step.stack = (Place.walk s.stack).tail := by
  obtain ⟨found, stack⟩ := s
  cases stack with
  | nil => simp [step, Place.walk]
  | cons p rest => rw [Place.walk]; rfl

theorem walk_iterate (s : Count) (k : Nat) :
    Place.walk (step^[k] s).stack = (Place.walk s.stack).drop k := by
  induction k with
  | zero => rfl
  | succ k ih => rw [Function.iterate_succ_apply', walk_step, ih, List.tail_drop]

theorem iterate_found_add (s : Count) (k : Nat) :
    (step^[k] s).found + Node.faultsList ((step^[k] s).stack.map Place.node) =
      s.found + Node.faultsList (s.stack.map Place.node) := by
  induction k with
  | zero => rfl
  | succ k ih => rw [Function.iterate_succ_apply', step_found_add, ih]

theorem head?_walk (stack : List Place) : (Place.walk stack).head? = stack.head? := by
  cases stack with
  | nil => simp [Place.walk]
  | cons p rest => rw [Place.walk]; rfl

theorem head?_iterate (root : Node) (k : Nat) :
    (step^[k] (start root)).stack.head? = (Place.all root)[k]? := by
  rw [← head?_walk, walk_iterate, List.head?_drop]
  rfl

theorem stack_iterate_eq_nil_iff (root : Node) (k : Nat) :
    (step^[k] (start root)).stack = [] ↔ root.size ≤ k := by
  rw [← List.head?_eq_none_iff, head?_iterate, List.getElem?_eq_none_iff, Place.length_all]

/-- After as many turns as there are nodes, the stack is empty and all faults are found. -/
theorem iterate_size (root : Node) :
    step^[root.size] (start root) = ⟨Place.countFaults root, []⟩ := by
  have hstack : (step^[root.size] (start root)).stack = [] :=
    (stack_iterate_eq_nil_iff root root.size).mpr (Nat.le_refl _)
  have hfound : (step^[root.size] (start root)).found = Place.countFaults root := by
    have hsum := iterate_found_add (start root) root.size
    rw [hstack] at hsum
    rw [Place.countFaults_eq_faults]
    simpa [start, Place.node] using hsum
  calc step^[root.size] (start root)
      = ⟨(step^[root.size] (start root)).found, (step^[root.size] (start root)).stack⟩ := rfl
    _ = ⟨Place.countFaults root, []⟩ := by rw [hfound, hstack]

end Count

end ApiDecl.Syntax

namespace ApiDecl.Corpus

open Syntax (Node Place Count)

/-! ## The faults of a corpus -/

/-- The additions that succeed. -/
def succeeded (c : Corpus) (as : List Addition) : List Addition :=
  ((as.zip (c.addAll as).2).filter (·.2.isOk)).map Prod.fst

theorem parseErrors_eq (c : Corpus) : c.parseErrors = (c.files.map (·.parseErrors)).sum := by
  rw [parseErrors, List.sum_eq_foldr, List.foldr_map]

/-- An addition that succeeds adds the faults of its tree, and one that fails adds nothing. -/
theorem parseErrors_add (c : Corpus) (a : Addition) :
    (c.add a.path a.root a.source).1.parseErrors =
      c.parseErrors +
        if (c.add a.path a.root a.source).2.outcome.isOk then a.root.faults else 0 := by
  cases h : a.binds with
  | error e =>
    obtain ⟨hcorpus, houtcome⟩ := add_of_error (c := c) h
    rw [hcorpus, houtcome]
    rfl
  | ok count =>
    obtain ⟨hcorpus, houtcome⟩ := add_of_ok (c := c) h
    rw [hcorpus, houtcome, parseErrors_eq, parseErrors_eq, List.map_append, List.sum_append]
    simp [Addition.file, Except.isOk, Except.toBool, Place.countFaults_eq_faults]

theorem succeeded_cons (c : Corpus) (a : Addition) (rest : List Addition) :
    c.succeeded (a :: rest) =
      if (c.add a.path a.root a.source).2.outcome.isOk then
        a :: (c.add a.path a.root a.source).1.succeeded rest
      else (c.add a.path a.root a.source).1.succeeded rest := by
  rw [succeeded, addAll_cons, List.zip_cons_cons, List.filter_cons]
  split <;> rfl

theorem parseErrors_addAll (c : Corpus) (as : List Addition) :
    (c.addAll as).1.parseErrors =
      c.parseErrors + ((c.succeeded as).map (·.root.faults)).sum := by
  induction as generalizing c with
  | nil => rfl
  | cons a rest ih =>
    rw [addAll_cons, ih, parseErrors_add, succeeded_cons]
    split
    · rw [List.map_cons, List.sum_cons, Nat.add_assoc]
    · rw [Nat.add_zero]

/-- **The count visits every node once.** Of a tree, whatever its shape: the loop is over after as
many turns as the tree has nodes, and not before. Each turn looks at one place, no place is looked
at twice, and the places are those of the tree. What is counted then is the number of nodes that
are errors or missing, and that of the recursion over the tree. Of a corpus: whatever additions were
tried, its faults are those of the trees whose additions succeeded. -/
theorem countFaults_visits_once (root : Node) (as : List Addition) :
    (∀ k, (Count.step^[k] (.start root)).stack = [] ↔ root.size ≤ k) ∧
    (Count.step^[root.size] (.start root)).found = Place.countFaults root ∧
    (∀ k, (Count.step^[k] (.start root)).stack.head? = (Place.all root)[k]?) ∧
    (Place.all root).Nodup ∧ (∀ p, p ∈ Place.all root ↔ Place.Within root p) ∧
    Place.countFaults root = root.nodes.countP (fun n => n.kind = .error || n.info.missing) ∧
    Place.countFaults root = root.faults ∧
    (ofAdditions as).parseErrors =
      ((Corpus.empty.succeeded as).map fun a => Place.countFaults a.root).sum := by
  refine ⟨Count.stack_iterate_eq_nil_iff root, by rw [Count.iterate_size], Count.head?_iterate root,
    Place.nodup_all root, fun p => Place.mem_all_iff, Place.countFaults_eq root,
    Place.countFaults_eq_faults root, ?_⟩
  simp only [Place.countFaults_eq_faults]
  rw [ofAdditions, parseErrors_addAll]
  exact Nat.zero_add _

end ApiDecl.Corpus
