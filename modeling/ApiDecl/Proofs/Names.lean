import ApiDecl.Proofs.Additions
import ApiDecl.Proofs.Reader

/-!
# Binding and building agree on names

Binding goes through all children of a tree and binds the members of an enum only where they stand
directly in its body. The builders go through named children, at any depth, and look names up by a
rule of their own. `WellNamed` says of a tree, without reference to either, that every name that the
builders will ask for is where binding looks for it.

* `NameFails.violates`: a name that is missing while a declaration is built is that of a node that
  breaks this condition.
* `readCorpus_names_agree`: over a corpus of any additions, a reading of well named files never
  fails for want of a name, and when a reading does, the node whose name was asked for is to blame.
  Neither different identities nor the success of all additions are needed.
-/

namespace ApiDecl.Reading

open Syntax (Node Place Kind)
open Binding (BindingSite Spells)
open Corpus (Addition ofAdditions userFile levelFile namelessFile)
open Pattern (CharacterNames)

/-! ## Well named trees -/

/-- The kinds of nodes that need a child for their name. -/
def NeedsName (k : Kind) : Prop :=
  k = .interfaceDeclaration ∨ k = .enumDeclaration ∨ k = .propertySignature

/-- The node has a child for its name, and this spells one. -/
def HasName (n : Node) : Prop := ∃ c, n.nameChild = some c ∧ Spells c

/-- A member of an enum that stands directly in a body and has its name in the right place: a member
with a value has a child for it, any other one is its name. -/
structure ProperMember (root m : Node) : Prop where
  inBody : ∃ body ∈ root.nodes, body.kind = .enumBody ∧ m ∈ body.namedChildren
  assignment : m.kind = .enumAssignment → HasName m
  leaf : m.kind ≠ .enumAssignment → m.nameChild = none ∧ Spells m

/-- The member belongs to an enum of the tree: it is reached from its declaration through named
children, with no other member on the way. -/
def BelongsToEnum (root m : Node) : Prop :=
  m.kind.isEnumMember ∧
    ∃ d ∈ root.nodes, d.kind = .enumDeclaration ∧ Reached Kind.isEnumMember d m

/-- Every declaration of an entity, property signature and member of an enum has its name where
binding looks for it. -/
structure WellNamed (root : Node) : Prop where
  declarations : ∀ n ∈ root.nodes, NeedsName n.kind → HasName n
  members : ∀ m, BelongsToEnum root m → ProperMember root m

/-- The node breaks the condition of a well named tree. -/
def Violates (root n : Node) : Prop :=
  (n ∈ root.nodes ∧ NeedsName n.kind ∧ ¬ HasName n) ∨ (BelongsToEnum root n ∧ ¬ ProperMember root n)

theorem WellNamed.not_violates {root : Node} (h : WellNamed root) (n : Node) :
    ¬ Violates root n := by
  rintro (⟨hn, hneeds, hname⟩ | ⟨hmember, hproper⟩)
  · exact hname (h.declarations n hn hneeds)
  · exact hproper (h.members n hmember)

theorem wellNamed_iff {root : Node} :
    WellNamed root ↔ (∀ n ∈ root.nodes, NeedsName n.kind → HasName n) ∧
      ∀ d ∈ root.nodes, d.kind = .enumDeclaration →
        ∀ m ∈ membersOf Kind.isEnumMember d, ProperMember root m := by
  constructor
  · intro h
    refine ⟨h.declarations, fun d hd hk m hm => ?_⟩
    obtain ⟨hm, hreached⟩ := mem_membersOf_iff.mp hm
    exact h.members m ⟨hm, d, hd, hk, hreached⟩
  · rintro ⟨hdeclarations, hmembers⟩
    refine ⟨hdeclarations, fun m ⟨hm, d, hd, hk, hreached⟩ => ?_⟩
    exact hmembers d hd hk m (mem_membersOf_iff.mpr ⟨hm, hreached⟩)

/-! The condition can be checked. -/

instance (k : Kind) : Decidable (NeedsName k) := inferInstanceAs (Decidable (_ ∨ _ ∨ _))

instance (n : Node) : Decidable (HasName n) :=
  match h : n.nameChild with
  | some c => decidable_of_iff (Spells c) (by simp [HasName, h])
  | none => isFalse (by simp [HasName, h])

instance (root m : Node) : Decidable (ProperMember root m) :=
  decidable_of_iff
    ((∃ body ∈ root.nodes, body.kind = .enumBody ∧ m ∈ body.namedChildren) ∧
      (m.kind = .enumAssignment → HasName m) ∧
      (m.kind ≠ .enumAssignment → m.nameChild = none ∧ Spells m))
    ⟨fun ⟨inBody, assignment, leaf⟩ => ⟨inBody, assignment, leaf⟩,
      fun ⟨inBody, assignment, leaf⟩ => ⟨inBody, assignment, leaf⟩⟩

instance (root : Node) : Decidable (WellNamed root) := decidable_of_iff _ wellNamed_iff.symm

/-! ## Names that are found -/

section Found

variable {t : SymbolTable} {root : Node}

theorem isSome_symbolOf_of_hasName
    (ht : ∀ owner n, BindingSite root owner n → Spells n → (t.symbolAt n).isSome) {n : Node}
    (hn : n ∈ root.nodes) (hneeds : NeedsName n.kind) (hname : HasName n) :
    (t.symbolOf n).isSome := by
  obtain ⟨p, hp, rfl⟩ := Place.exists_within_of_mem hn
  obtain ⟨c, hc, hspells⟩ := hname
  have hkind : p.node.kind.isDeclaration ∨ p.node.kind = .propertySignature := by
    rcases hneeds with h | h | h
    · exact Or.inl (by rw [h]; rfl)
    · exact Or.inl (by rw [h]; rfl)
    · exact Or.inr h
  rw [SymbolTable.symbolOf, Node.bearer, hc]
  exact ht p c (.declaration hp hkind hc) hspells

theorem isSome_symbolOf_of_properMember
    (ht : ∀ owner n, BindingSite root owner n → Spells n → (t.symbolAt n).isSome) {m : Node}
    (hm : m.kind.isEnumMember) (hproper : ProperMember root m) : (t.symbolOf m).isSome := by
  obtain ⟨body, hbody, hkind, hchild⟩ := hproper.inBody
  obtain ⟨p, hp, rfl⟩ := Place.exists_within_of_mem hbody
  obtain ⟨hmem, hnamed⟩ := List.mem_filter.mp hchild
  obtain ⟨q, hq, rfl⟩ := Place.exists_child_of_mem hmem
  rcases Binding.isEnumMember_iff.mp hm with hleaf | hassign
  · obtain ⟨hnone, hspells⟩ := hproper.leaf (by rcases hleaf with h | h <;> simp [h])
    rw [SymbolTable.symbolOf, Node.bearer, hnone]
    exact ht q q.node (.member hp hkind hq hnamed hleaf) hspells
  · obtain ⟨c, hc, hspells⟩ := hproper.assignment hassign
    rw [SymbolTable.symbolOf, Node.bearer, hc]
    exact ht q c (.assignment hp hkind hq hnamed hassign hc) hspells

/-- A name that is missing is that of a node that breaks the condition. -/
theorem NameFails.violates
    (ht : ∀ owner n, BindingSite root owner n → Spells n → (t.symbolAt n).isSome) {d n : Node}
    (hd : d ∈ declarations root) (h : NameFails t d n) : Violates root n := by
  obtain ⟨hd, hentity⟩ := List.mem_filter.mp hd
  cases h with
  | declaration hnone =>
    have hneeds : NeedsName d.kind := by
      rcases kind_of_isEntity hentity with hk | hk
      · exact Or.inl hk
      · exact Or.inr (Or.inl hk)
    refine Or.inl ⟨hd, hneeds, fun hname => ?_⟩
    have hsome := isSome_symbolOf_of_hasName ht hd hneeds hname
    simp [hnone] at hsome
  | @property before after p hk _ hsplit _ hnone =>
    have hp : n ∈ membersOf (· = .propertySignature) d := by simp [hsplit]
    have hneeds : NeedsName n.kind :=
      Or.inr (Or.inr (by simpa using (mem_membersOf_iff.mp hp).1))
    have hmem := Node.mem_nodes_trans (mem_nodes_of_mem_membersOf hp) hd
    refine Or.inl ⟨hmem, hneeds, fun hname => ?_⟩
    have hsome := isSome_symbolOf_of_hasName ht hmem hneeds hname
    simp [hnone] at hsome
  | @member before after m hk _ hsplit _ hnone =>
    have hm : n ∈ membersOf Kind.isEnumMember d := by simp [hsplit]
    obtain ⟨hkind, hreached⟩ := mem_membersOf_iff.mp hm
    refine Or.inr ⟨⟨hkind, d, hd, hk, hreached⟩, fun hproper => ?_⟩
    have hsome := isSome_symbolOf_of_properMember ht hkind hproper
    simp [hnone] at hsome

end Found

/-! ## Readings -/

/-- Where a reading that fails for want of a name has stopped: all declarations before `d` were
built, the name of `n`, which is `d` or one of its members, is missing, and `n` breaks the condition
of a well named tree. -/
theorem readCorpus_eq_unbound [CharacterNames] {as : List Addition}
    {inclusion exclusion : Option String} {s : Selection}
    (hs : selectionOf inclusion exclusion = .ok s) {site : Site}
    (h : (readCorpus (ofAdditions as) inclusion exclusion).outcome =
      .error (.read (.unbound site))) :
    ∃ before d after, declared s (ofAdditions as) = before ++ d :: after ∧
      (∀ m ∈ before, Builds (ofAdditions as).table m) ∧
      ∃ n, NameFails (ofAdditions as).table d n ∧ site = .ofNode n.bearer ∧
        ∃ f ∈ selected s (ofAdditions as), d ∈ declarations f.root ∧ Violates f.root n := by
  obtain ⟨before, d, after, e, he, hsplit, hbefore, hd⟩ := (readCorpus_eq_error_iff hs).mp h
  obtain rfl := ReaderError.read.inj he
  have hmem : d ∈ declared s (ofAdditions as) := by simp [hsplit]
  have hentity := isEntity_of_mem_declared hmem
  obtain ⟨n, hn, hsite⟩ := buildEntity_eq_unbound hentity ((failsWith_iff hentity).mp hd)
  obtain ⟨f, hf, hdf⟩ := List.mem_flatMap.mp hmem
  have ht := Corpus.complete_ofAdditions as f (List.mem_filter.mp hf).1
  exact ⟨before, d, after, hsplit, hbefore, n, hn, hsite, f, hf, hdf, hn.violates ht hdf⟩

/-- **Binding and building agree on names.** Over a corpus of any additions, a reading of well named
files never fails for want of a name. When a reading does, then some declaration `d` is the first
that cannot be built, the name of `n`, which is `d` or one of its members, is the first thing that
is missing there, and `n` breaks the condition of a well named tree. -/
theorem readCorpus_names_agree [CharacterNames] {as : List Addition}
    {inclusion exclusion : Option String} {s : Selection}
    (hs : selectionOf inclusion exclusion = .ok s) :
    ((∀ f ∈ selected s (ofAdditions as), WellNamed f.root) →
      ∀ site, (readCorpus (ofAdditions as) inclusion exclusion).outcome ≠
        .error (.read (.unbound site))) ∧
    ∀ site, (readCorpus (ofAdditions as) inclusion exclusion).outcome =
        .error (.read (.unbound site)) →
      ∃ before d after, declared s (ofAdditions as) = before ++ d :: after ∧
        (∀ m ∈ before, Builds (ofAdditions as).table m) ∧
        ∃ n, NameFails (ofAdditions as).table d n ∧ site = .ofNode n.bearer ∧
          ∃ f ∈ selected s (ofAdditions as), d ∈ declarations f.root ∧ Violates f.root n := by
  refine ⟨fun hnamed site h => ?_, fun site h => readCorpus_eq_unbound hs h⟩
  obtain ⟨_, _, _, _, _, n, _, _, f, hf, _, hviolates⟩ := readCorpus_eq_unbound hs h
  exact (hnamed f hf).not_violates n hviolates

/-- The interface and the enum are well named and are read. In a corpus with an interface that has
no name, the reading fails there. -/
theorem readCorpus_names_agree_small :
    ∃ s, selectionOf none none = .ok s ∧
      (selected s (ofAdditions [userFile, levelFile])).length = 2 ∧
      (∀ f ∈ selected s (ofAdditions [userFile, levelFile]), WellNamed f.root) ∧
      (∀ site, (readCorpus (ofAdditions [userFile, levelFile]) none none).outcome ≠
        .error (.read (.unbound site))) ∧
      ∃ site, (readCorpus (ofAdditions [levelFile, namelessFile]) none none).outcome =
          .error (.read (.unbound site)) ∧
        ∃ f ∈ selected s (ofAdditions [levelFile, namelessFile]), ∃ n,
          site = .ofNode n.bearer ∧ Violates f.root n := by
  obtain ⟨s, hs, hcheck⟩ : ∃ s, selectionOf none none = .ok s ∧
      decide ((selected s (ofAdditions [userFile, levelFile])).length = 2 ∧
        ∀ f ∈ selected s (ofAdditions [userFile, levelFile]), WellNamed f.root) = true :=
    Outcome.map_eq_ok_iff.mp (by decide +kernel)
  obtain ⟨hlength, hnamed⟩ := of_decide_eq_true hcheck
  have hfails : ((fun _ => ()) <$>
      (readCorpus (ofAdditions [levelFile, namelessFile]) none none).outcome) =
        .error (.read (.unbound ⟨some "interface_declaration", "interface_declaration",
          "interface \x7b\x7d", some ⟨0, 0⟩⟩)) := by decide +kernel
  have hunbound := Outcome.map_eq_error_iff.mp hfails
  obtain ⟨_, _, _, -, -, n, -, hsite, f, hf, -, hviolates⟩ :=
    (readCorpus_names_agree hs).2 _ hunbound
  exact ⟨s, hs, hlength, hnamed, (readCorpus_names_agree hs).1 hnamed, _, hunbound, f, hf, n, hsite,
    hviolates⟩

end ApiDecl.Reading
