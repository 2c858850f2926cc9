import ApiDecl.Proofs.Binding
import ApiDecl.Proofs.Places

/-!
# Binding is exact

`BindingSite` says which nodes of a tree spell a name and who owns it, in terms of places and kinds
only. Binding finds all of these sites and no others (`mem_sites_iff`).

Where no two nodes share an identity, a name has one owner (`BindingSite.owner_eq`): the place of
the name is a child of its owner, unless the name is a plain member of an enum, which owns itself;
and the two cannot be confused, since only the body of an enum has plain members. So no site
overwrites another, and the table gains as many symbols as are counted (`bindFile_exact`). Nothing
is assumed about the shape of the tree.
-/

namespace ApiDecl.Binding

open Syntax (Node Place Kind userSource userTree levelSource levelTree)
open Syntax.Place (Within)

/-- A site of a tree: the place that owns a name, and the node that spells it. -/
inductive BindingSite (root : Node) : Place → Node → Prop
  /-- The name of a declaration or a property signature. -/
  | declaration {owner : Place} {n : Node} : Within root owner →
      owner.node.kind.isDeclaration ∨ owner.node.kind = .propertySignature →
      owner.node.nameChild = some n → BindingSite root owner n
  /-- A member of an enum that is a plain or a quoted name. -/
  | member {body owner : Place} : Within root body → body.node.kind = .enumBody →
      owner ∈ body.children → owner.node.info.named →
      owner.node.kind = .propertyIdentifier ∨ owner.node.kind = .stringLiteral →
      BindingSite root owner owner.node
  /-- The name of a member of an enum that has a value. -/
  | assignment {body owner : Place} {n : Node} : Within root body → body.node.kind = .enumBody →
      owner ∈ body.children → owner.node.info.named → owner.node.kind = .enumAssignment →
      owner.node.nameChild = some n → BindingSite root owner n

/-! ## All sites and no others -/

theorem isEnumMember_iff {k : Kind} :
    k.isEnumMember ↔ (k = .propertyIdentifier ∨ k = .stringLiteral) ∨ k = .enumAssignment := by
  cases k <;> simp [Kind.isEnumMember]

theorem mem_sitesAt_iff {p : Place} {s : Site} :
    s ∈ sitesAt p ↔
      ((p.node.kind.isDeclaration ∨ p.node.kind = .propertySignature) ∧ s = ⟨p, p.node.nameChild⟩) ∨
      (p.node.kind = .enumBody ∧ ∃ m ∈ p.children, m.node.info.named ∧ m.node.kind.isEnumMember ∧
        s = ⟨m, if m.node.kind = .enumAssignment then m.node.nameChild else some m.node⟩) := by
  unfold sitesAt
  split
  · next h =>
    have hbody : p.node.kind ≠ .enumBody := by
      intro he
      simp [he, Kind.isDeclaration] at h
    simpa [hbody] using fun _ => by simpa using h
  · next h =>
    have h' : ¬ (p.node.kind.isDeclaration ∨ p.node.kind = .propertySignature) := by simpa using h
    split
    · next hbody =>
      rw [or_iff_right fun hs => h' hs.1, and_iff_right hbody]
      simp only [List.mem_map, List.mem_filter, Bool.and_eq_true]
      constructor
      · rintro ⟨m, ⟨hm, hnamed, hkind⟩, rfl⟩
        exact ⟨m, hm, hnamed, hkind, rfl⟩
      · rintro ⟨m, hm, hnamed, hkind, rfl⟩
        exact ⟨m, ⟨hm, hnamed, hkind⟩, rfl⟩
    · next hbody => simp [h', hbody]

/-- The sites with a name are the binding sites. -/
theorem mem_sites_iff {root : Node} {owner : Place} {n : Node} :
    (⟨owner, some n⟩ : Site) ∈ sites root ↔ BindingSite root owner n := by
  simp only [sites, List.mem_flatMap, Place.mem_all_iff, mem_sitesAt_iff]
  constructor
  · rintro ⟨p, hp, ⟨hkind, hs⟩ | ⟨hbody, m, hm, hnamed, hkind, hs⟩⟩
    · obtain ⟨rfl, hname⟩ := Site.mk.inj hs
      exact .declaration hp hkind hname.symm
    · obtain ⟨rfl, hname⟩ := Site.mk.inj hs
      rcases isEnumMember_iff.mp hkind with hleaf | hassign
      · rw [if_neg (by rcases hleaf with h | h <;> simp [h])] at hname
        cases hname
        exact .member hp hbody hm hnamed hleaf
      · rw [if_pos hassign] at hname
        exact .assignment hp hbody hm hnamed hassign hname.symm
  · intro h
    cases h with
    | declaration hp hkind hname => exact ⟨owner, hp, Or.inl ⟨hkind, by rw [hname]⟩⟩
    | @member body _ hp hbody hm hnamed hleaf =>
      have hkind := isEnumMember_iff.mpr (Or.inl hleaf)
      refine ⟨body, hp, Or.inr ⟨hbody, owner, hm, hnamed, hkind, ?_⟩⟩
      rw [if_neg (by rcases hleaf with h | h <;> simp [h])]
    | @assignment body _ _ hp hbody hm hnamed hassign hname =>
      have hkind := isEnumMember_iff.mpr (Or.inr hassign)
      refine ⟨body, hp, Or.inr ⟨hbody, owner, hm, hnamed, hkind, ?_⟩⟩
      rw [if_pos hassign, hname]

/-! ## One owner for each name -/

/-- The name of a site has a place of its own: below the owner, or the owner itself where that is a
plain member of the body of an enum. -/
theorem BindingSite.exists_place {root : Node} {owner : Place} {n : Node}
    (h : BindingSite root owner n) :
    ∃ c, Within root c ∧ c.node = n ∧
      ((c.parent? = some owner ∧ owner.node.kind ≠ .enumBody) ∨
        (c = owner ∧ ∃ body, owner.parent? = some body ∧ body.node.kind = .enumBody)) := by
  have hbelow : ∀ {owner : Place} {n : Node}, Within root owner → owner.node.kind ≠ .enumBody →
      owner.node.nameChild = some n → ∃ c, Within root c ∧ c.node = n ∧
        c.parent? = some owner ∧ owner.node.kind ≠ .enumBody := by
    intro owner n howner hkind hname
    obtain ⟨c, hc, rfl⟩ := Place.exists_child_of_mem (List.mem_of_find?_eq_some hname)
    exact ⟨c, howner.child hc, rfl, Place.parent?_of_mem_children hc, hkind⟩
  cases h with
  | declaration howner hkind hname =>
    have hne : owner.node.kind ≠ .enumBody := by
      intro he
      simp [he, Kind.isDeclaration] at hkind
    obtain ⟨c, hc, hn, hparent⟩ := hbelow howner hne hname
    exact ⟨c, hc, hn, Or.inl hparent⟩
  | member hbody hkind hmem _ _ =>
    exact ⟨owner, hbody.child hmem, rfl, Or.inr ⟨rfl, _, Place.parent?_of_mem_children hmem, hkind⟩⟩
  | assignment hbody _ hmem _ hassign hname =>
    obtain ⟨c, hc, hn, hparent⟩ := hbelow (hbody.child hmem) (by simp [hassign]) hname
    exact ⟨c, hc, hn, Or.inl hparent⟩

/-- A name has one owner. -/
theorem BindingSite.owner_eq {root : Node} (hids : root.DistinctIds) {owner other : Place}
    {n m : Node} (h : BindingSite root owner n) (h' : BindingSite root other m)
    (hid : n.info.id = m.info.id) : owner = other := by
  obtain ⟨c, hc, rfl, hcases⟩ := h.exists_place
  obtain ⟨d, hd, rfl, hcases'⟩ := h'.exists_place
  obtain rfl := hc.eq_of_id hids hd hid
  rcases hcases with ⟨hparent, hkind⟩ | ⟨rfl, body, hparent, hbody⟩
  · rcases hcases' with ⟨hparent', -⟩ | ⟨rfl, body, hparent', hbody⟩
    · exact Option.some.inj (hparent.symm.trans hparent')
    · obtain rfl := Option.some.inj (hparent.symm.trans hparent')
      exact absurd hbody hkind
  · rcases hcases' with ⟨hparent', hkind⟩ | ⟨rfl, -⟩
    · obtain rfl := Option.some.inj (hparent.symm.trans hparent')
      exact absurd hbody hkind
    · rfl

/-- The place whose visit contributes the sites of an owner. -/
theorem contributor_eq {p : Place} {s : Site} (h : s ∈ sitesAt p) :
    (s.owner = p ∧ ¬ s.owner.node.kind.isEnumMember) ∨
      (s.owner.parent? = some p ∧ s.owner.node.kind.isEnumMember) := by
  rcases mem_sitesAt_iff.mp h with ⟨hkind, rfl⟩ | ⟨-, m, hm, -, hkind, rfl⟩
  · refine Or.inl ⟨rfl, fun hmember => ?_⟩
    rcases isEnumMember_iff.mp hmember with (he | he) | he <;>
      simp [he, Kind.isDeclaration] at hkind
  · exact Or.inr ⟨Place.parent?_of_mem_children hm, hkind⟩

theorem owners_sitesAt_nodup (p : Place) : ((sitesAt p).map (·.owner)).Nodup := by
  unfold sitesAt
  split
  · simp
  · split
    · rw [List.map_map]
      exact ((Place.children_nodup p).filter _).map fun _ _ he => he
    · simp

/-- No place owns two sites. -/
theorem owners_nodup (root : Node) : ((sites root).map (·.owner)).Nodup := by
  rw [sites, List.map_flatMap, List.nodup_flatMap]
  refine ⟨fun p _ => owners_sitesAt_nodup p, (Place.nodup_all root).imp fun {p q} hne => ?_⟩
  intro o hp hq
  obtain ⟨s, hs, rfl⟩ := List.mem_map.mp hp
  obtain ⟨s', hs', he⟩ := List.mem_map.mp hq
  have hq' := contributor_eq hs'
  rw [he] at hq'
  rcases contributor_eq hs with ⟨rfl, hkind⟩ | ⟨hparent, hkind⟩
  · rcases hq' with ⟨rfl, -⟩ | ⟨-, hkind'⟩
    · exact hne rfl
    · exact hkind hkind'
  · rcases hq' with ⟨-, hkind'⟩ | ⟨hparent', -⟩
    · exact hkind' hkind
    · exact hne (Option.some.inj (hparent.symm.trans hparent'))

/-- No two sites bind the same key. -/
theorem keys_differ {root : Node} (hids : root.DistinctIds) :
    (sites root).Pairwise fun s s' => ∀ n m, s.name = some n → s'.name = some m →
      NodeKey.ofNode n ≠ .ofNode m := by
  refine List.Pairwise.imp_of_mem ?_ (List.pairwise_map.mp (owners_nodup root))
  rintro ⟨owner, _⟩ ⟨other, _⟩ hs hs' hne n m rfl rfl hkey
  exact hne ((mem_sites_iff.mp hs).owner_eq hids (mem_sites_iff.mp hs') (NodeKey.mk.inj hkey).1)

theorem keys_bindings_nodup {source : List UInt8} {ss : List Site}
    (h : ss.Pairwise fun s s' => ∀ n m, s.name = some n → s'.name = some m →
      NodeKey.ofNode n ≠ .ofNode m) :
    ((bindings source ss).map fun b => NodeKey.ofNode b.1).Nodup := by
  induction ss with
  | nil => simp [bindings]
  | cons s rest ih =>
    obtain ⟨hs, hrest⟩ := List.pairwise_cons.mp h
    cases hd : (declare source s).outcome with
    | error e => simp [bindings, hd]
    | ok b =>
      cases b with
      | none => simpa [bindings, hd] using ih hrest
      | some b =>
        simp only [bindings, hd, List.map_cons, List.nodup_cons]
        refine ⟨fun hmem => ?_, ih hrest⟩
        obtain ⟨b', hb', hkey⟩ := List.mem_map.mp hmem
        obtain ⟨s', hs', hd'⟩ := exists_site_of_mem_bindings hb'
        exact hs s' hs' b.1 b'.1 (declare_eq_some_iff.mp hd).1 (declare_eq_some_iff.mp hd').1
          hkey.symm

/-! ## What the table holds -/

theorem BindingSite.within {root : Node} {owner : Place} {n : Node}
    (h : BindingSite root owner n) : Within root owner := by
  cases h with
  | declaration howner _ _ => exact howner
  | member hbody _ hmem _ _ => exact hbody.child hmem
  | assignment hbody _ hmem _ _ _ => exact hbody.child hmem

theorem BindingSite.mem_nodes {root : Node} {owner : Place} {n : Node}
    (h : BindingSite root owner n) : n ∈ root.nodes := by
  obtain ⟨c, hc, rfl, -⟩ := h.exists_place
  exact hc.node_mem

theorem node_mem_of_mem_bindings {source : List UInt8} {root : Node} {b : Node × Symbol}
    (h : b ∈ bindings source (sites root)) : b.1 ∈ root.nodes := by
  obtain ⟨⟨owner, name⟩, hs, hd⟩ := exists_site_of_mem_bindings h
  obtain ⟨rfl, -⟩ := declare_eq_some_iff.mp hd
  exact (mem_sites_iff.mp hs).mem_nodes

/-- Binding a tree, even when it fails, changes no key outside the tree. -/
theorem find?_bindFile_of_ne (t : SymbolTable) (root : Node) (source : List UInt8) {key : NodeKey}
    (h : ∀ n ∈ root.nodes, key ≠ .ofNode n) :
    (bindFile t root source).1.find? key = t.find? key := by
  rw [bindFile, bindSites_table]
  exact SymbolTable.find?_bindAll_of_ne fun b hb => h b.1 (node_mem_of_mem_bindings hb)

/-- Binding a tree that succeeds leaves every site with a symbol. Identities may repeat. -/
theorem isSome_symbolAt_bindFile {t : SymbolTable} {root : Node} {source : List UInt8} {count : Nat}
    (hok : (bindFile t root source).2.outcome = .ok count) {owner : Place} {n : Node}
    (h : BindingSite root owner n) (hspells : Spells n) :
    ((bindFile t root source).1.symbolAt n).isSome := by
  have hall := (bindSites_ok hok).1
  have hs := mem_sites_iff.mpr h
  obtain ⟨symbol, hd⟩ := exists_symbol_of_spells (hall _ hs) rfl hspells
  rw [bindFile, bindSites_table]
  exact SymbolTable.isSome_find?_bindAll_of_mem (mem_bindings hall hs hd)

/-- After a binding that succeeds, the symbols of the nodes of the tree are those that were
entered. -/
theorem symbolAt_bindFile_iff {t : SymbolTable} {root : Node} {source : List UInt8}
    (hids : root.DistinctIds) (hnew : ∀ n ∈ root.nodes, t.symbolAt n = none) {n : Node}
    (hn : n ∈ root.nodes) {symbol : Symbol} :
    (bindFile t root source).1.symbolAt n = some symbol ↔
      (n, symbol) ∈ bindings source (sites root) := by
  rw [bindFile, bindSites_table]
  have hnodup : ((bindings source (sites root)).map fun b => NodeKey.ofNode b.1).Nodup :=
    keys_bindings_nodup (keys_differ hids)
  constructor
  · intro h
    by_cases hb : ∃ b ∈ bindings source (sites root), NodeKey.ofNode n = .ofNode b.1
    · obtain ⟨b, hb, hkey⟩ := hb
      obtain rfl := hids.eq_of_id hn (node_mem_of_mem_bindings hb) (NodeKey.mk.inj hkey).1
      rw [SymbolTable.symbolAt, SymbolTable.find?_bindAll_of_nodup hnodup hb] at h
      cases h
      exact hb
    · have hne : ∀ b ∈ bindings source (sites root), NodeKey.ofNode n ≠ .ofNode b.1 :=
        fun b hb' he => hb ⟨b, hb', he⟩
      rw [SymbolTable.symbolAt, SymbolTable.find?_bindAll_of_ne hne] at h
      exact absurd (hnew n hn) (by simp [SymbolTable.symbolAt, h])
  · intro h
    exact SymbolTable.find?_bindAll_of_nodup hnodup h

/-- **Binding is exact.** In a tree without repeated identities, over a table that knows none of its
nodes, a binding that succeeds gives a symbol to exactly the binding sites that spell a name. The
symbol has the name that is spelled and the documentation of its one owner. Other keys keep their
symbols, and the table grows by the number that is returned. -/
theorem bindFile_exact {t : SymbolTable} {root : Node} {source : List UInt8} {count : Nat}
    (hids : root.DistinctIds) (hnew : ∀ n ∈ root.nodes, t.symbolAt n = none)
    (hok : (bindFile t root source).2.outcome = .ok count) :
    (∀ n ∈ root.nodes, ((bindFile t root source).1.symbolAt n).isSome ↔
        (∃ owner, BindingSite root owner n) ∧ Spells n) ∧
      (∀ owner n, BindingSite root owner n →
        (∀ other, BindingSite root other n → other = owner) ∧
        ∀ symbol, (bindFile t root source).1.symbolAt n = some symbol →
          declaredName n = .ok symbol.name ∧
            Documentation.preceding source owner = .ok symbol.documentation) ∧
      (∀ key, (∀ n ∈ root.nodes, key ≠ .ofNode n) →
        (bindFile t root source).1.find? key = t.find? key) ∧
      (bindFile t root source).1.size = t.size + count := by
  refine ⟨fun n hn => ⟨fun h => ?_, fun ⟨⟨_, hsite⟩, hspells⟩ => ?_⟩, fun owner n hsite =>
    ⟨fun other hother => hother.owner_eq hids hsite rfl, fun symbol h => ?_⟩,
    fun key hkey => find?_bindFile_of_ne t root source hkey, ?_⟩
  · obtain ⟨symbol, h⟩ := Option.isSome_iff_exists.mp h
    obtain ⟨⟨owner, name⟩, hs, hd⟩ :=
      exists_site_of_mem_bindings ((symbolAt_bindFile_iff hids hnew hn).mp h)
    obtain ⟨rfl, hname, hne, -⟩ := declare_eq_some_iff.mp hd
    exact ⟨⟨owner, mem_sites_iff.mp hs⟩, symbol.name, hname, hne⟩
  · exact isSome_symbolAt_bindFile hok hsite hspells
  · obtain ⟨⟨other, name⟩, hs, hd⟩ :=
      exists_site_of_mem_bindings ((symbolAt_bindFile_iff hids hnew hsite.mem_nodes).mp h)
    obtain ⟨rfl, hname, -, hdoc⟩ := declare_eq_some_iff.mp hd
    obtain rfl := (mem_sites_iff.mp hs).owner_eq hids hsite rfl
    exact ⟨hname, hdoc⟩
  · rw [bindFile, bindSites_table, (bindSites_ok hok).2]
    exact SymbolTable.size_bindAll (keys_bindings_nodup (keys_differ hids))
      fun b hb => hnew b.1 (node_mem_of_mem_bindings hb)

/-- The symbols of the interface. -/
def userTable : SymbolTable := (bindFile .empty userTree userSource).1

/-- Binding an enum after an interface: the two symbols of the interface stay, and the names of the
enum and its two members are added. -/
theorem bindFile_exact_level :
    levelTree.DistinctIds ∧ (∀ n ∈ levelTree.nodes, userTable.symbolAt n = none) ∧
      (bindFile userTable levelTree levelSource).2.outcome = .ok 3 ∧
      (bindFile userTable levelTree levelSource).1.size = 5 ∧
      ∀ n ∈ levelTree.nodes, ((bindFile userTable levelTree levelSource).1.symbolAt n).isSome ↔
        (∃ owner, BindingSite levelTree owner n) ∧ Spells n := by
  have hids : levelTree.DistinctIds := by decide
  have hnew : ∀ n ∈ levelTree.nodes, userTable.symbolAt n = none := by decide +kernel
  have hok : (bindFile userTable levelTree levelSource).2.outcome = .ok 3 := by decide +kernel
  have hsize : userTable.size = 2 := by decide +kernel
  obtain ⟨hsites, -, -, hgrows⟩ := bindFile_exact hids hnew hok
  exact ⟨hids, hnew, hok, by rw [hgrows, hsize], hsites⟩

end ApiDecl.Binding
