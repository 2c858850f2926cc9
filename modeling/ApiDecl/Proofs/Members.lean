import ApiDecl.Proofs.TypeNodes
import ApiDecl.Reading.Build

/-!
# What builders look at

A builder asks for the name of its declaration and of its members, and the members are found through
named children at any depth (`mem_membersOf_iff`). So it reads the table at nodes of its own tree
only (`buildEntity_congr`). The reasons for which it can fail are few (`failsOnly_buildEntity`). A
name that is not bound is the one reason for an error about names: `buildEntity_eq_unbound` says
whose name was asked for.
-/

namespace ApiDecl.Reading

open Syntax (Node Kind)
open Model (Entity Property Interface Enum)
open Journal (Traced)
open Outcome (FailsOnly failsOnly_ok failsOnly_error)

/-! ## Members -/

/-- One node is reached from another one through named children, passing by no node of a chosen
kind. -/
inductive Reached (chosen : Kind → Bool) : Node → Node → Prop
  | child {n m : Node} : m ∈ n.namedChildren → Reached chosen n m
  | through {n k m : Node} : k ∈ n.namedChildren → ¬ chosen k.kind → Reached chosen k m →
      Reached chosen n m

theorem outermostList_eq (chosen : Kind → Bool) (ns : List Node) :
    outermostList chosen ns = (ns.filter (·.info.named)).flatMap (outermost chosen) := by
  induction ns with
  | nil => simp [outermostList]
  | cons n rest ih =>
    rw [outermostList, ih, List.filter_cons]
    split <;> simp

theorem outermost_eq (chosen : Kind → Bool) (n : Node) :
    outermost chosen n = if chosen n.kind then [n] else membersOf chosen n := by
  cases n
  rw [outermost]
  rfl

theorem membersOf_eq (chosen : Kind → Bool) (n : Node) :
    membersOf chosen n = n.namedChildren.flatMap (outermost chosen) := outermostList_eq chosen _

/-- The members of a declaration are the nodes of the chosen kind that are reached first. -/
theorem mem_membersOf_iff {chosen : Kind → Bool} {n m : Node} :
    m ∈ membersOf chosen n ↔ chosen m.kind ∧ Reached chosen n m := by
  induction n using Node.childInduction with
  | h n ih =>
    rw [membersOf_eq, List.mem_flatMap]
    constructor
    · rintro ⟨k, hk, hm⟩
      rw [outermost_eq] at hm
      split at hm
      · next hchosen =>
        obtain rfl := List.mem_singleton.mp hm
        exact ⟨hchosen, .child hk⟩
      · next hchosen =>
        obtain ⟨hm, hreached⟩ := (ih k (Node.mem_children_of_mem_namedChildren hk)).mp hm
        exact ⟨hm, .through hk hchosen hreached⟩
    · rintro ⟨hm, hreached⟩
      cases hreached with
      | child hk => exact ⟨m, hk, by simp [outermost_eq, hm]⟩
      | @through _ k _ hk hchosen hreached =>
        refine ⟨k, hk, ?_⟩
        rw [outermost_eq, if_neg hchosen]
        exact (ih k (Node.mem_children_of_mem_namedChildren hk)).mpr ⟨hm, hreached⟩

theorem Reached.mem_nodes {chosen : Kind → Bool} {n m : Node} (h : Reached chosen n m) :
    m ∈ n.nodes := by
  induction h with
  | child hm =>
    exact Node.mem_nodes_of_mem_child (Node.self_mem_nodes _)
      (Node.mem_children_of_mem_namedChildren hm)
  | through hk _ _ ih =>
    exact Node.mem_nodes_of_mem_child ih (Node.mem_children_of_mem_namedChildren hk)

theorem mem_nodes_of_mem_membersOf {chosen : Kind → Bool} {n m : Node}
    (h : m ∈ membersOf chosen n) : m ∈ n.nodes :=
  (mem_membersOf_iff.mp h).2.mem_nodes

theorem mem_nodes_of_annotatedType {n typeNode : Node} (h : annotatedType n = some typeNode) :
    typeNode ∈ n.nodes := by
  obtain ⟨holder, ha, h⟩ := Option.bind_eq_some_iff.mp h
  exact Node.mem_nodes_of_mem_child
    (mem_nodes_of_mem_namedChildren (List.mem_of_find?_eq_some h)) (List.mem_of_find?_eq_some ha)

/-! ## Builders and the table -/

/-- Two tables that agree on the nodes of a tree. -/
def AgreeOn (t u : SymbolTable) (n : Node) : Prop := ∀ m ∈ n.nodes, t.symbolAt m = u.symbolAt m

theorem AgreeOn.of_mem {t u : SymbolTable} {n m : Node} (h : AgreeOn t u n) (hm : m ∈ n.nodes) :
    AgreeOn t u m := fun k hk => h k (Node.mem_nodes_trans hk hm)

theorem AgreeOn.symbolOf_eq {t u : SymbolTable} {n : Node} (h : AgreeOn t u n) :
    t.symbolOf n = u.symbolOf n := h _ (Node.bearer_mem_nodes n)

theorem AgreeOn.bound_eq {t u : SymbolTable} {n : Node} (h : AgreeOn t u n) :
    Naming.bound t n = Naming.bound u n := by
  simp only [Naming.bound, h.symbolOf_eq]

theorem AgreeOn.documentationOf_eq {t u : SymbolTable} {n : Node} (h : AgreeOn t u n) :
    t.documentationOf n = u.documentationOf n := by
  simp only [SymbolTable.documentationOf, h.symbolOf_eq]

theorem outcome_buildEntity_interface (t : SymbolTable) {n : Node}
    (h : n.kind = .interfaceDeclaration) :
    (buildEntity t .bound n).outcome =
      Entity.interface <$> (buildInterface t .bound n).outcome := by
  simp [buildEntity, h]

theorem outcome_buildEntity_enum (t : SymbolTable) {n : Node} (h : n.kind = .enumDeclaration) :
    (buildEntity t .bound n).outcome = Entity.enum <$> (buildEnum t .bound n).outcome := by
  simp [buildEntity, h]

theorem kind_of_isEntity {n : Node} (h : isEntity n) :
    n.kind = .interfaceDeclaration ∨ n.kind = .enumDeclaration := by
  simpa [isEntity] using h

/-- A builder reads the table at nodes of its own tree only. -/
theorem buildEntity_congr {t u : SymbolTable} {n : Node} (h : AgreeOn t u n) :
    buildEntity t .bound n = buildEntity u .bound n := by
  have hmembers : ∀ {β : Type} (chosen : Kind → Bool)
      (build : SymbolTable → Node → Traced ReadError β),
      (∀ m, AgreeOn t u m → build t m = build u m) →
      (membersOf chosen n).mapM (build t) = (membersOf chosen n).mapM (build u) := by
    intro β chosen build hbuild
    exact Outcome.mapM_congr fun m hm => hbuild m (h.of_mem (mem_nodes_of_mem_membersOf hm))
  have hproperties := hmembers (· = .propertySignature) (fun t => buildProperty t .bound)
    fun m hm => by simp only [buildProperty, hm.bound_eq, hm.documentationOf_eq]
  have henum := hmembers Kind.isEnumMember (fun t => buildMember t .bound)
    fun m hm => by simp only [buildMember, hm.bound_eq, hm.documentationOf_eq]
  simp only [buildEntity, buildInterface, buildEnum, h.bound_eq, h.documentationOf_eq, hproperties,
    henum]

/-! ## Builders that succeed -/

theorem buildProperty_eq_ok {t : SymbolTable} {naming : Naming} {n : Node} {p : Property}
    (h : (buildProperty t naming n).outcome = .ok p) :
    naming t n = .ok p.name ∧ (propertyType p.name n).outcome = .ok p.type := by
  simp only [buildProperty, Traced.outcome_bind, Traced.outcome_ofExcept] at h
  obtain ⟨name, hname, h⟩ := Outcome.bind_eq_ok_iff.mp h
  obtain ⟨type, htype, h⟩ := Outcome.bind_eq_ok_iff.mp h
  obtain rfl := Except.ok.inj h
  exact ⟨hname, htype⟩

theorem buildInterface_eq_ok {t : SymbolTable} {naming : Naming} {n : Node} {i : Interface}
    (h : (buildInterface t naming n).outcome = .ok i) :
    naming t n = .ok i.name ∧
      (membersOf (· = .propertySignature) n).map (fun m => (buildProperty t naming m).outcome) =
        i.properties.map .ok := by
  simp only [buildInterface, Traced.outcome_bind, Traced.outcome_ofExcept, Traced.outcome_mapM] at h
  obtain ⟨name, hname, h⟩ := Outcome.bind_eq_ok_iff.mp h
  obtain ⟨properties, hproperties, h⟩ := Outcome.bind_eq_ok_iff.mp h
  obtain rfl := Except.ok.inj h
  exact ⟨hname, Outcome.mapM_eq_ok_iff.mp hproperties⟩

theorem buildEnum_eq_ok {t : SymbolTable} {naming : Naming} {n : Node} {e : Enum}
    (h : (buildEnum t naming n).outcome = .ok e) :
    naming t n = .ok e.name ∧
      (membersOf Kind.isEnumMember n).map (fun m => (buildMember t naming m).outcome) =
        e.members.map .ok := by
  simp only [buildEnum, Traced.outcome_bind, Traced.outcome_ofExcept, Traced.outcome_mapM] at h
  obtain ⟨name, hname, h⟩ := Outcome.bind_eq_ok_iff.mp h
  obtain ⟨members, hmembers, h⟩ := Outcome.bind_eq_ok_iff.mp h
  obtain rfl := Except.ok.inj h
  exact ⟨hname, Outcome.mapM_eq_ok_iff.mp hmembers⟩

/-! ## Errors of builders -/

section Errors

variable {P : ReadError → Prop} (harity : ∀ wrapper expected actual site,
  P (.arity wrapper expected actual site))

include harity

theorem failsOnly_propertyType (name : String) {n : Node}
    (h : ∀ m ∈ n.nodes, FailsOnly P (textOf m)) : FailsOnly P (propertyType name n).outcome := by
  unfold propertyType
  split
  · exact failsOnly_ok _
  · next typeNode ht =>
    have hmem := mem_nodes_of_annotatedType ht
    rw [Traced.outcome_bind, Traced.outcome_ofExcept]
    refine (failsOnly_resolve harity fun m hm => h m (Node.mem_nodes_trans hm hmem)).bind ?_
    intro type
    cases type with
    | some type => exact failsOnly_ok _
    | none =>
      simp only [Traced.outcome_bind, Traced.outcome_ofExcept, Traced.outcome_note,
        Outcome.ok_bind, Traced.outcome_pure]
      exact (h typeNode hmem).bind fun text => failsOnly_ok _

variable (hunbound : ∀ site, P (.unbound site))

include hunbound

/-- A builder fails with names that are not bound, with wrappers that have the wrong number of
usable nodes, and with the errors of the texts below the declaration. -/
theorem failsOnly_buildEntity (t : SymbolTable) {n : Node}
    (h : ∀ m ∈ n.nodes, FailsOnly P (textOf m)) : FailsOnly P (buildEntity t .bound n).outcome := by
  have hbound : ∀ m, FailsOnly P (Naming.bound t m) := by
    intro m
    unfold Naming.bound
    split
    · exact failsOnly_ok _
    · exact failsOnly_error (hunbound _)
  have hproperty : ∀ m ∈ n.nodes, FailsOnly P (buildProperty t .bound m).outcome := by
    intro m hm
    simp only [buildProperty, Traced.outcome_bind, Traced.outcome_ofExcept]
    refine (hbound m).bind fun name => ?_
    refine (failsOnly_propertyType harity name fun k hk => ?_).bind fun type => failsOnly_ok _
    exact h k (Node.mem_nodes_trans hk hm)
  have hmember : ∀ m, FailsOnly P (buildMember t .bound m).outcome := by
    intro m
    simp only [buildMember, Traced.outcome_bind, Traced.outcome_ofExcept]
    exact (hbound m).bind fun name => failsOnly_ok _
  unfold buildEntity
  split
  · simp only [Traced.outcome_map, buildInterface, Traced.outcome_bind, Traced.outcome_ofExcept,
      Traced.outcome_mapM]
    refine FailsOnly.map ((hbound n).bind fun name => ?_) _
    refine (Outcome.failsOnly_mapM fun m hm => ?_).bind fun properties => failsOnly_ok _
    exact hproperty m (mem_nodes_of_mem_membersOf hm)
  · simp only [Traced.outcome_map, buildEnum, Traced.outcome_bind, Traced.outcome_ofExcept,
      Traced.outcome_mapM]
    refine FailsOnly.map ((hbound n).bind fun name => ?_) _
    exact (Outcome.failsOnly_mapM fun m _ => hmember m).bind fun members => failsOnly_ok _

end Errors

/-! ## Errors about names -/

/-- The computation does not fail for want of a name. -/
def NameFree {α : Type} (x : Except ReadError α) : Prop := ∀ site, x ≠ .error (.unbound site)

theorem nameFree_iff {α : Type} {x : Except ReadError α} :
    NameFree x ↔ FailsOnly (fun e => ∀ site, e ≠ .unbound site) x := by
  constructor
  · rintro h e rfl site rfl
    exact h site rfl
  · intro h site hx
    exact h _ hx site rfl

/-- Types are read without names. -/
theorem nameFree_propertyType (name : String) (n : Node) :
    NameFree (propertyType name n).outcome := by
  refine nameFree_iff.mpr (failsOnly_propertyType (by rintro _ _ _ _ _ ⟨⟩) name fun m _ => ?_)
  intro e h site he
  subst he
  rw [textOf] at h
  cases hm : m.text with
  | error error => rw [hm] at h; cases h
  | ok text => rw [hm] at h; cases h

/-- A computation that starts with a name fails for want of a name: this one is missing, or it is
there and another one is missing later. -/
theorem bound_bind_eq_unbound {α : Type} {t : SymbolTable} {n : Node}
    {f : String → Except ReadError α} {site : Site}
    (h : Naming.bound t n >>= f = .error (.unbound site)) :
    (t.symbolOf n = none ∧ site = .ofNode n.bearer) ∨
      (t.symbolOf n ≠ none ∧ ∃ name, f name = .error (.unbound site)) := by
  unfold Naming.bound at h
  cases hn : t.symbolOf n with
  | none =>
    rw [hn] at h
    cases h
    exact Or.inl ⟨rfl, rfl⟩
  | some symbol =>
    rw [hn] at h
    exact Or.inr ⟨by simp, symbol.name, h⟩

/-- While a declaration is built, the name of a node is what is missing first: everything asked for
before it was there. -/
inductive NameFails (t : SymbolTable) (d : Node) : Node → Prop
  | declaration : t.symbolOf d = none → NameFails t d d
  | property {before after : List Node} {p : Node} : d.kind = .interfaceDeclaration →
      t.symbolOf d ≠ none → membersOf (· = .propertySignature) d = before ++ p :: after →
      (∀ q ∈ before, ∃ built, (buildProperty t .bound q).outcome = .ok built) →
      t.symbolOf p = none → NameFails t d p
  | member {before after : List Node} {m : Node} : d.kind = .enumDeclaration →
      t.symbolOf d ≠ none → membersOf Kind.isEnumMember d = before ++ m :: after →
      (∀ q ∈ before, ∃ built, (buildMember t .bound q).outcome = .ok built) →
      t.symbolOf m = none → NameFails t d m

theorem buildProperty_eq_unbound {t : SymbolTable} {p : Node} {site : Site}
    (h : (buildProperty t .bound p).outcome = .error (.unbound site)) :
    t.symbolOf p = none ∧ site = .ofNode p.bearer := by
  simp only [buildProperty, Traced.outcome_bind, Traced.outcome_ofExcept] at h
  rcases bound_bind_eq_unbound h with hmissing | ⟨-, name, h⟩
  · exact hmissing
  · rcases Outcome.bind_eq_error_iff.mp h with h | ⟨_, _, h⟩
    · exact absurd h (nameFree_propertyType name p site)
    · cases h

theorem buildMember_eq_unbound {t : SymbolTable} {m : Node} {site : Site}
    (h : (buildMember t .bound m).outcome = .error (.unbound site)) :
    t.symbolOf m = none ∧ site = .ofNode m.bearer := by
  simp only [buildMember, Traced.outcome_bind, Traced.outcome_ofExcept] at h
  rcases bound_bind_eq_unbound h with hmissing | ⟨-, name, h⟩
  · exact hmissing
  · cases h

/-- A builder that fails for want of a name asked for the name of the declaration or of one of its
members. -/
theorem buildEntity_eq_unbound {t : SymbolTable} {d : Node} {site : Site} (hd : isEntity d)
    (h : (buildEntity t .bound d).outcome = .error (.unbound site)) :
    ∃ n, NameFails t d n ∧ site = .ofNode n.bearer := by
  rcases kind_of_isEntity hd with hk | hk
  · rw [outcome_buildEntity_interface t hk, Outcome.map_eq_error_iff] at h
    simp only [buildInterface, Traced.outcome_bind, Traced.outcome_ofExcept,
      Traced.outcome_mapM] at h
    rcases bound_bind_eq_unbound h with ⟨hnone, hsite⟩ | ⟨hnamed, name, h⟩
    · exact ⟨d, .declaration hnone, hsite⟩
    · rcases Outcome.bind_eq_error_iff.mp h with h | ⟨_, _, h⟩
      · obtain ⟨before, p, after, hsplit, hbefore, hp⟩ := Outcome.mapM_eq_error_iff.mp h
        obtain ⟨hnone, hsite⟩ := buildProperty_eq_unbound hp
        exact ⟨p, .property hk hnamed hsplit hbefore hnone, hsite⟩
      · cases h
  · rw [outcome_buildEntity_enum t hk, Outcome.map_eq_error_iff] at h
    simp only [buildEnum, Traced.outcome_bind, Traced.outcome_ofExcept, Traced.outcome_mapM] at h
    rcases bound_bind_eq_unbound h with ⟨hnone, hsite⟩ | ⟨hnamed, name, h⟩
    · exact ⟨d, .declaration hnone, hsite⟩
    · rcases Outcome.bind_eq_error_iff.mp h with h | ⟨_, _, h⟩
      · obtain ⟨before, m, after, hsplit, hbefore, hm⟩ := Outcome.mapM_eq_error_iff.mp h
        obtain ⟨hnone, hsite⟩ := buildMember_eq_unbound hm
        exact ⟨m, .member hk hnamed hsplit hbefore hnone, hsite⟩
      · cases h

end ApiDecl.Reading
