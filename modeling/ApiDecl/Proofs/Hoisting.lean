import ApiDecl.Proofs.Outermost

/-!
# Where the properties of an interface come from

Property signatures stand in holders: in the body of an interface, or in an object type. The search
for properties does not look at holders. It stops at property signatures only, so it passes through
an object type that it meets elsewhere, in a parameter or a return type of a method, behind
`extends` or in the bound of a type parameter, and lists what stands there.

* `NearestHolder.searched`: a listed property comes from a holder that the search passed through, so
  never from the type of another property.
* `leadsToMember_append`: every property signature in such a holder is listed.
* `not_properties_of_own_body`: so a listed property need not come from the interface's own body.
* `buildInterface_holders`: it does when the search meets no other holder.
-/

namespace ApiDecl.Reading

open Syntax (Node Kind Sketch)
open Model (Interface)

/-! ## Holders -/

/-- The kinds of nodes in which property signatures stand. -/
def isHolder (k : Kind) : Bool := k = .other "interface_body" || k = .other "object_type"

/-- A path ends at a holder. -/
def HolderAt (d : Node) (path : List Nat) : Prop := ∃ m ∈ d.atPath? path, isHolder m.kind

instance (d : Node) (path : List Nat) : Decidable (HolderAt d path) :=
  inferInstanceAs (Decidable (∃ m ∈ d.atPath? path, isHolder m.kind))

/-- A path ends at a named property signature. -/
def PropertyAt (d : Node) (path : List Nat) : Prop :=
  ∃ m ∈ d.atPath? path, m.info.named ∧ m.kind = .propertySignature

/-- The innermost holder around the end of a path stands at the end of `home`. -/
structure NearestHolder (d : Node) (path home : List Nat) : Prop where
  around : home <+: path ∧ home ≠ path
  holder : HolderAt d home
  nearest : ∀ q, q <+: path → q ≠ path → HolderAt d q → q <+: home

/-- A path ends at a body that belongs to the declaration itself. -/
def OwnBody (d : Node) (path : List Nat) : Prop :=
  ∃ i, path = [i] ∧ ∃ m ∈ d.children[i]?, m.kind = .other "interface_body"

/-- The search passes through the end of a path: all nodes on the way are named, and none of them is
a property signature. -/
structure Searched (d : Node) (path : List Nat) : Prop where
  inTree : (d.atPath? path).isSome
  passes : ∀ q m, q <+: path → q ≠ [] → d.atPath? q = some m →
    m.info.named ∧ m.kind ≠ .propertySignature

/-- A path leads to a property. -/
abbrev LeadsToProperty (d : Node) (path : List Nat) : Prop :=
  LeadsToMember (· = .propertySignature) d path

/-! ## What the search passes through -/

/-- All that lies around a property is passed through. -/
theorem LeadsToMember.searched {d : Node} {path q : List Nat} (h : LeadsToProperty d path)
    (hq : q <+: path) (hne : q ≠ path) : Searched d q := by
  refine ⟨?_, fun r m hr hnil hm => ⟨h.named r m (hr.trans hq) hnil hm, ?_⟩⟩
  · obtain ⟨rest, rfl⟩ := hq
    obtain ⟨m, hm, -⟩ := h.arrives
    rw [Node.atPath?_append] at hm
    obtain ⟨k, hk, -⟩ := Option.bind_eq_some_iff.mp hm
    rw [hk]
    rfl
  · have hproper : r ≠ path := by
      rintro rfl
      exact hne (hq.eq_of_length_le hr.length_le)
    simpa using h.first r m (hr.trans hq) hnil hproper hm

theorem LeadsToMember.propertyAt {d : Node} {path : List Nat} (h : LeadsToProperty d path) :
    PropertyAt d path := by
  obtain ⟨m, hm, hkind⟩ := h.arrives
  exact ⟨m, hm, h.named path m List.prefix_rfl h.below hm, by simpa using hkind⟩

theorem NearestHolder.searched {d : Node} {path home : List Nat} (h : NearestHolder d path home)
    (hpath : LeadsToProperty d path) : Searched d home :=
  hpath.searched h.around.1 h.around.2

/-- What is a property and stands directly in a node that is passed through is listed. -/
theorem leadsToMember_append {d : Node} {q : List Nat} {j : Nat} (hq : Searched d q)
    (hj : PropertyAt d (q ++ [j])) : LeadsToProperty d (q ++ [j]) := by
  obtain ⟨m, hm, hnamed, hkind⟩ := hj
  refine ⟨by simp, ⟨m, hm, by simp [hkind]⟩, fun r k hr hnil hk => ?_,
    fun r k hr hnil hne hk => ?_⟩
  · by_cases hlast : r = q ++ [j]
    · subst hlast
      obtain rfl : m = k := Option.some.inj (Eq.trans (Eq.symm hm) hk)
      exact hnamed
    · have hbefore := (List.prefix_concat_iff.mp hr).resolve_left hlast
      exact (hq.passes r k hbefore hnil hk).1
  · have hbefore := (List.prefix_concat_iff.mp hr).resolve_left hne
    simpa using (hq.passes r k hbefore hnil hk).2

theorem nearestHolder_append {d : Node} {q : List Nat} (h : HolderAt d q) (j : Nat) :
    NearestHolder d (q ++ [j]) q :=
  ⟨⟨List.prefix_append _ _, by simp⟩, h,
    fun _ hr hne _ => (List.prefix_concat_iff.mp hr).resolve_left hne⟩

theorem NearestHolder.unique {d : Node} {path home other : List Nat} (h : NearestHolder d path home)
    (h' : NearestHolder d path other) : home = other := by
  have hle := h'.nearest home h.around.1 h.around.2 h.holder
  have hge := h.nearest other h'.around.1 h'.around.2 h'.holder
  exact hle.eq_of_length_le hge.length_le

/-! ## Properties that come from elsewhere -/

/-- It is not so that every property of an interface comes from its own body: the property `w` of
`requestTree` stands in the type of a parameter. -/
theorem not_properties_of_own_body :
    ¬ ∀ (t : SymbolTable) (naming : Naming) (d : Node) (i : Interface) (paths : List (List Nat)),
      d.kind = .interfaceDeclaration → (buildInterface t naming d).outcome = .ok i →
      BuiltFromMembers (· = .propertySignature) d (fun m => (buildProperty t naming m).outcome)
        i.properties paths →
      ∀ path ∈ paths, ∃ home, NearestHolder d path home ∧ OwnBody d home := by
  intro h
  obtain ⟨i, hi, -⟩ : ∃ i, (buildInterface requestTable .bound requestTree).outcome = .ok i ∧
      i.name = "A" := Outcome.map_eq_ok_iff.mp (by decide +kernel)
  have hbuilt := builtFromMembers_memberPaths (buildInterface_eq_ok hi).2
  have hlisted : [2, 3, 1, 0, 1, 0, 0] ∈ memberPaths (· = .propertySignature) requestTree := by
    decide +kernel
  obtain ⟨home, hhome, j, rfl, -⟩ :=
    h _ _ _ i _ (by decide +kernel) hi hbuilt [2, 3, 1, 0, 1, 0, 0] hlisted
  have hobject : HolderAt requestTree [2, 3, 1, 0, 1, 0] := by decide +kernel
  have hlonger := (hhome.nearest [2, 3, 1, 0, 1, 0] (by decide) (by decide) hobject).length_le
  simp at hlonger

/-- **Properties come from the holders that the search passes through.** The holder of a listed
property has no other property signature around it, so the property is not part of the type of
another one; and every property signature that stands in such a holder is listed. Where properties
stand in holders, all that are listed come from the interface's own body exactly if no other holder
with a property is passed through. -/
theorem buildInterface_holders {t : SymbolTable} {naming : Naming} {d : Node} {i : Interface}
    (h : (buildInterface t naming d).outcome = .ok i) :
    ∃ paths, BuiltFromMembers (· = .propertySignature) d
        (fun m => (buildProperty t naming m).outcome) i.properties paths ∧
      (∀ path ∈ paths, ∀ home, NearestHolder d path home → Searched d home) ∧
      (∀ q j, HolderAt d q → Searched d q → PropertyAt d (q ++ [j]) →
        q ++ [j] ∈ paths ∧ NearestHolder d (q ++ [j]) q) ∧
      ((∀ path ∈ paths, HolderAt d path.dropLast) →
        ((∀ path ∈ paths, ∃ home, NearestHolder d path home ∧ OwnBody d home) ↔
          ∀ q j, HolderAt d q → Searched d q → PropertyAt d (q ++ [j]) → OwnBody d q)) := by
  have hbuilt := builtFromMembers_memberPaths (buildInterface_eq_ok h).2
  have hlisted : ∀ q j, HolderAt d q → Searched d q → PropertyAt d (q ++ [j]) →
      q ++ [j] ∈ memberPaths (· = .propertySignature) d ∧ NearestHolder d (q ++ [j]) q := by
    intro q j hholder hsearched hj
    exact ⟨(hbuilt.exact _).mpr (leadsToMember_append hsearched hj), nearestHolder_append hholder j⟩
  refine ⟨_, hbuilt, ?_, hlisted, fun hinside => ⟨fun hown => ?_, fun honly => ?_⟩⟩
  · intro path hpath home hhome
    exact hhome.searched ((hbuilt.exact path).mp hpath)
  · intro q j hholder hsearched hj
    obtain ⟨hpath, hnearest⟩ := hlisted q j hholder hsearched hj
    obtain ⟨home, hhome, hbody⟩ := hown _ hpath
    rw [hnearest.unique hhome]
    exact hbody
  · intro path hpath
    have hleads := (hbuilt.exact path).mp hpath
    have hparent := hinside path hpath
    -- The holder is the parent of the property, and the search has passed through it.
    have hsplit : path.dropLast ++ [path.getLast hleads.below] = path :=
      List.dropLast_append_getLast hleads.below
    have hnearest := nearestHolder_append hparent (path.getLast hleads.below)
    have hproperty := hleads.propertyAt
    rw [← hsplit] at hproperty
    rw [hsplit] at hnearest
    exact ⟨_, hnearest, honly _ _ hparent (hnearest.searched hleads) hproperty⟩

/-- No holder stands in the declaration apart from its own body and what its properties are made
of. -/
structure HoldsNoOther (d : Node) : Prop where
  root : ¬ isHolder d.kind
  outside : ∀ c ∈ d.children, c.kind ≠ .other "interface_body" → ∀ m ∈ c.nodes, ¬ isHolder m.kind
  members : ∀ b ∈ d.children, b.kind = .other "interface_body" → ∀ c ∈ b.children,
    c.kind ≠ .propertySignature → ∀ m ∈ c.nodes, ¬ isHolder m.kind

theorem HoldsNoOther.ownBody {d : Node} (h : HoldsNoOther d) {q : List Nat} (hq : HolderAt d q)
    (hsearched : Searched d q) : OwnBody d q := by
  obtain ⟨m, hm, hholder⟩ := hq
  cases q with
  | nil =>
    obtain rfl : d = m := by simpa using hm
    exact absurd hholder h.root
  | cons i rest =>
    rw [Node.atPath?_cons] at hm
    obtain ⟨c, hc, hm⟩ := Option.bind_eq_some_iff.mp hm
    have hchild := List.mem_of_getElem? hc
    by_cases hbody : c.kind = .other "interface_body"
    · cases rest with
      | nil => exact ⟨i, rfl, c, hc, hbody⟩
      | cons j rest =>
        rw [Node.atPath?_cons] at hm
        obtain ⟨k, hk, hm⟩ := Option.bind_eq_some_iff.mp hm
        have hstep : d.atPath? [i, j] = some k := by simp [hc, hk]
        have hkind := (hsearched.passes [i, j] k (by simp) (by simp) hstep).2
        exact absurd hholder
          (h.members c hchild hbody k (List.mem_of_getElem? hk) hkind m (Node.mem_nodes_of_atPath? hm))
    · exact absurd hholder (h.outside c hchild hbody m (Node.mem_nodes_of_atPath? hm))

/-- An interface with a property of an object type. -/
def nestedSource : List UInt8 := Text.Utf8.encode "interface A \x7b x: \x7b y: any \x7d \x7d"

/-- The tree of `nestedSource`. -/
def nestedPropertyTree : Node :=
  (Sketch.place nestedSource 0 <|
    .inner .interfaceDeclaration 0 29
      [.nameLeaf .typeIdentifier 10 11,
        .inner (.other "interface_body") 12 29 [objectProperty]]).1

/-- The symbols of `nestedPropertyTree`. -/
def nestedPropertyTable : SymbolTable :=
  (Binding.bindFile .empty nestedPropertyTree nestedSource).1

/-- The object type in a property is not passed through, so all properties are those of the body.
The one of a parameter is, and its property is listed. -/
theorem buildInterface_holders_nested :
    (∃ (i : Interface) (paths : List (List Nat)),
      (buildInterface nestedPropertyTable .bound nestedPropertyTree).outcome = .ok i ∧
      i.properties.map (·.name) = ["x"] ∧
      (∀ path ∈ paths, HolderAt nestedPropertyTree path.dropLast) ∧
      ∀ path ∈ paths, ∃ home, NearestHolder nestedPropertyTree path home ∧
        OwnBody nestedPropertyTree home) ∧
    ∃ (i : Interface) (paths : List (List Nat)),
      (buildInterface requestTable .bound requestTree).outcome = .ok i ∧
      i.properties.map (·.name) = ["x", "w"] ∧ [2, 3, 1, 0, 1, 0, 0] ∈ paths ∧
      NearestHolder requestTree [2, 3, 1, 0, 1, 0, 0] [2, 3, 1, 0, 1, 0] ∧
      Searched requestTree [2, 3, 1, 0, 1, 0] := by
  constructor
  · obtain ⟨i, hi, hnames⟩ : ∃ i, (buildInterface nestedPropertyTable .bound
        nestedPropertyTree).outcome = .ok i ∧ i.properties.map (·.name) = ["x"] :=
      Outcome.map_eq_ok_iff.mp (by decide +kernel)
    obtain ⟨paths, hbuilt, -, -, hexact⟩ := buildInterface_holders hi
    have hparents : ∀ path ∈ memberPaths (· = .propertySignature) nestedPropertyTree,
        HolderAt nestedPropertyTree path.dropLast := by decide +kernel
    have hinside : ∀ path ∈ paths, HolderAt nestedPropertyTree path.dropLast := fun path hpath =>
      hparents path (mem_memberPaths_iff.mpr ((hbuilt.exact path).mp hpath))
    have hnoOther : HoldsNoOther nestedPropertyTree :=
      ⟨by decide +kernel, by decide +kernel, by decide +kernel⟩
    refine ⟨i, paths, hi, hnames, hinside, (hexact hinside).mpr ?_⟩
    intro q j hholder hsearched _
    exact hnoOther.ownBody hholder hsearched
  · obtain ⟨i, hi, hnames⟩ : ∃ i, (buildInterface requestTable .bound requestTree).outcome =
        .ok i ∧ i.properties.map (·.name) = ["x", "w"] :=
      Outcome.map_eq_ok_iff.mp (by decide +kernel)
    obtain ⟨paths, hbuilt, hpassed, -, -⟩ := buildInterface_holders hi
    have hholder : HolderAt requestTree [2, 3, 1, 0, 1, 0] := by decide +kernel
    have hleads : [2, 3, 1, 0, 1, 0, 0] ∈ memberPaths (· = .propertySignature) requestTree := by
      decide +kernel
    have hpath := (hbuilt.exact _).mpr (mem_memberPaths_iff.mp hleads)
    have hnearest := nearestHolder_append hholder 0
    exact ⟨i, paths, hi, hnames, hpath, hnearest, hpassed _ hpath _ hnearest⟩

end ApiDecl.Reading
