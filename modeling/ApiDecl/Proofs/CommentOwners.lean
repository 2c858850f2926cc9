import ApiDecl.Proofs.Attachment
import ApiDecl.Proofs.Sites

/-!
# No comment documents two symbols

A comment documents an owner of a name when it belongs to the run before the owner's anchor. Two
owners could share a comment in two ways: through a common anchor, or through runs that overlap.

* Climbing out of export statements is injective on owners, if no export statement has two children
  that lead on to owners (`Orderly.anchor_injective`): of two owners with one anchor, one would
  stand in the other.
* A run goes back over comments and over what is not named. So it stops at any other anchor, since
  anchors are named and are no comments (`Orderly.anchor_eq`).

Comments are told apart by their places, so nothing is assumed about the identities of nodes.
-/

namespace ApiDecl.Syntax.Place

theorem Within.of_parent? {root : Node} {p q : Place} (h : Within root p)
    (hq : p.parent? = some q) : Within root q ∧ p ∈ q.children := by
  cases h with
  | self => cases hq
  | child hwithin hmem =>
    obtain rfl := Option.some.inj ((parent?_of_mem_children hmem).symm.trans hq)
    exact ⟨hwithin, hmem⟩

theorem eq_child_of_parent? {p q : Place} (h : p.parent? = some q) :
    p = .child q p.earlier p.node := by
  cases p with
  | root n => cases h
  | child parent earlier n =>
    obtain rfl := Option.some.inj h
    rfl

/-- Of two siblings one comes before the other. -/
theorem siblings_cases {root : Node} {p q parent : Place} (hp : Within root p)
    (hq : Within root q) (hparent : p.parent? = some parent) (hparent' : q.parent? = some parent) :
    p = q ∨ p.node :: p.earlier <:+ q.earlier ∨ q.node :: q.earlier <:+ p.earlier := by
  have hfront : ∀ {c : Place}, Within root c → c.parent? = some parent →
      (c.node :: c.earlier).reverse <+: parent.node.children ∧
        c.earlier.reverse <+: parent.node.children := by
    intro c hc hcparent
    obtain ⟨after, hchildren⟩ := hc.children_eq hcparent
    exact ⟨⟨after, by simp [hchildren]⟩, ⟨c.node :: after, hchildren.symm⟩⟩
  -- Both are cut out of the same children, so the shorter front starts the longer one.
  have hbefore : ∀ {c d : Place}, Within root c → c.parent? = some parent → Within root d →
      d.parent? = some parent → c.earlier.length < d.earlier.length →
      c.node :: c.earlier <:+ d.earlier := by
    intro c d hc hcparent hd hdparent hlt
    have hlength : (c.node :: c.earlier).reverse.length ≤ d.earlier.reverse.length := by
      simp only [List.length_reverse, List.length_cons]
      omega
    exact List.reverse_prefix.mp (List.prefix_of_prefix_length_le (hfront hc hcparent).1
      (hfront hd hdparent).2 hlength)
  rcases Nat.lt_trichotomy p.earlier.length q.earlier.length with hlt | heq | hgt
  · exact .inr (.inl (hbefore hp hparent hq hparent' hlt))
  · have hprefix := List.prefix_of_prefix_length_le (hfront hp hparent).1 (hfront hq hparent').1
      (by simp [heq])
    have hsame := hprefix.eq_of_length (by simp [heq])
    obtain ⟨hnode, hearlier⟩ := List.cons.inj (List.reverse_injective hsame)
    left
    rw [eq_child_of_parent? hparent, eq_child_of_parent? hparent', hnode, hearlier]
  · exact .inr (.inr (hbefore hq hparent' hp hparent hgt))

end ApiDecl.Syntax.Place

namespace ApiDecl.Documentation

open Binding (BindingSite declaredName bindFile bindings)
open Syntax (Node Place Kind Sketch)
open Syntax.Place (Within)
open Text.Utf8 (decodeChars)

/-! ## The places of comments -/

/-- The places of a run among siblings, the nearest one first. Siblings without a name of their kind
are passed over. -/
def runPlaces (parent : Place) (row : Nat) : List Node → List Place
  | [] => []
  | n :: rest =>
    if n.info.named then
      if n.kind = .comment && row ≤ n.info.stopRow + 1 then
        .child parent rest n :: runPlaces parent n.startRow rest
      else []
    else runPlaces parent row rest

/-- The places of the comments that lead up to a place, the nearest one first. -/
def commentsOf (p : Place) : List Place :=
  match anchor p with
  | .root _ => []
  | .child parent earlier n => runPlaces parent n.startRow earlier

theorem map_node_runPlaces (parent : Place) (row : Nat) (ns : List Node) :
    (runPlaces parent row ns).map Place.node = run row (ns.filter (·.info.named)) := by
  induction ns generalizing row with
  | nil => rfl
  | cons n rest ih =>
    by_cases hnamed : n.info.named
    · rw [runPlaces, if_pos hnamed, List.filter_cons_of_pos (by simpa using hnamed), run]
      split
      · rw [List.map_cons, ih]
        rfl
      · rfl
    · rw [runPlaces, if_neg hnamed, List.filter_cons_of_neg (by simpa using hnamed), ih]

theorem map_node_commentsOf (p : Place) : (commentsOf p).map Place.node = attached p := by
  rw [commentsOf, attached]
  cases anchor p with
  | root n => rfl
  | child parent earlier n => exact map_node_runPlaces parent n.startRow earlier

/-- Between a comment of a run and the end of the run all that is named is a comment. -/
theorem of_mem_runPlaces {parent c : Place} {row : Nat} {ns : List Node}
    (h : c ∈ runPlaces parent row ns) :
    c.parent? = some parent ∧ ∃ between, ns = between ++ c.node :: c.earlier ∧
      ∀ m ∈ between, m.info.named → m.kind = .comment := by
  induction ns generalizing row with
  | nil => cases h
  | cons n rest ih =>
    have hrest : ∀ {row}, c ∈ runPlaces parent row rest → (n.info.named → n.kind = .comment) →
        c.parent? = some parent ∧ ∃ between, n :: rest = between ++ c.node :: c.earlier ∧
          ∀ m ∈ between, m.info.named → m.kind = .comment := by
      intro row hmem hn
      obtain ⟨hparent, between, hsplit, hbetween⟩ := ih hmem
      exact ⟨hparent, n :: between, by simp [hsplit], List.forall_mem_cons.mpr ⟨hn, hbetween⟩⟩
    rw [runPlaces] at h
    split at h
    · split at h
      · next hleads =>
        have hkind : n.kind = .comment := by
          simp only [Bool.and_eq_true, decide_eq_true_eq] at hleads
          exact hleads.1
        rcases List.mem_cons.mp h with rfl | h
        · exact ⟨rfl, [], rfl, by simp⟩
        · exact hrest h fun _ => hkind
      · cases h
    · next hnamed => exact hrest h fun hn => absurd hn hnamed

/-- A comment of a place is a sibling before the anchor, and what is named between the two is a
comment as well. -/
theorem of_mem_commentsOf {p c : Place} (h : c ∈ commentsOf p) :
    ∃ parent, (anchor p).parent? = some parent ∧ c.parent? = some parent ∧
      ∃ between, (anchor p).earlier = between ++ c.node :: c.earlier ∧
        ∀ m ∈ between, m.info.named → m.kind = .comment := by
  unfold commentsOf at h
  split at h
  · cases h
  · next parent earlier n hanchor =>
    rw [hanchor]
    exact ⟨parent, rfl, of_mem_runPlaces h⟩

/-! ## Anchors of owners -/

/-- The place owns a name, or leads on to places that may. -/
def Carrier (root : Node) (p : Place) : Prop :=
  (∃ n, BindingSite root p n) ∨ p.node.kind = .exportStatement

/-- Owners and export statements are named, and no export statement has two children among them. -/
structure Orderly (root : Node) : Prop where
  named : ∀ p, Within root p → Carrier root p → p.node.info.named
  single : ∀ e, Within root e → e.node.kind = .exportStatement → ∀ c ∈ e.children,
    ∀ d ∈ e.children, Carrier root c → Carrier root d → c = d

theorem kind_of_bindingSite {root n : Node} {p : Place} (h : BindingSite root p n) :
    p.node.kind ≠ .exportStatement ∧ p.node.kind ≠ .comment := by
  cases h with
  | declaration _ hkind _ => constructor <;> intro he <;> simp [he, Kind.isDeclaration] at hkind
  | member _ _ _ _ hkind => constructor <;> intro he <;> simp [he] at hkind
  | assignment _ _ _ _ hkind _ => simp [hkind]

theorem Carrier.kind_ne_comment {root : Node} {p : Place} (h : Carrier root p) :
    p.node.kind ≠ .comment := by
  rcases h with ⟨n, hsite⟩ | hexport
  · exact (kind_of_bindingSite hsite).2
  · simp [hexport]

theorem StandsIn.within {root : Node} {p q : Place} (h : StandsIn p q) (hp : Within root p) :
    Within root q ∧ p ∈ q.children := hp.of_parent? h.1

theorem within_of_climbs {root : Node} {p q : Place}
    (h : Relation.ReflTransGen StandsIn p q) (hp : Within root p) : Within root q := by
  induction h with
  | refl => exact hp
  | tail _ hstep ih => exact (hstep.within ih).1

/-- Climbing only leads to export statements. -/
theorem Carrier.of_climbs {root : Node} {p q : Place} (h : Carrier root p)
    (hclimbs : Relation.ReflTransGen StandsIn p q) : Carrier root q := by
  cases hclimbs with
  | refl => exact h
  | tail _ hstep => exact .inr hstep.2

/-- Of two carriers with one anchor, one climbs to the other. -/
theorem Orderly.climbs {root : Node} (h : Orderly root) {p q : Place} (hp : Within root p)
    (hq : Within root q) (hpc : Carrier root p) (hqc : Carrier root q)
    (hanchor : anchor p = anchor q) :
    Relation.ReflTransGen StandsIn p q ∨ Relation.ReflTransGen StandsIn q p := by
  induction p with
  | root n =>
    have hclimbs := (isAnchor_anchor q).climbs
    rw [← hanchor] at hclimbs
    exact .inr hclimbs
  | child parent earlier n ih =>
    by_cases hexport : parent.node.kind = .exportStatement
    · have hstep : StandsIn (.child parent earlier n) parent := ⟨rfl, hexport⟩
      obtain ⟨hparent, hmem⟩ := hstep.within hp
      rw [anchor_of_standsIn hstep] at hanchor
      rcases ih hparent (.inr hexport) hanchor with hclimbs | hclimbs
      · exact .inl (hclimbs.head hstep)
      · -- The last step to the parent starts from a child that leads on as well, so from this one.
        cases hclimbs with
        | refl => exact .inl (.single hstep)
        | @tail sibling _ hbelow hlast =>
          have hsibling := (hlast.within (within_of_climbs hbelow hq)).2
          have hsame := h.single parent hparent hexport _ hmem _ hsibling hpc (hqc.of_climbs hbelow)
          exact .inr (hsame ▸ hbelow)
    · have hself : anchor (.child parent earlier n) = .child parent earlier n := by
        rw [anchor, if_neg hexport]
      have hclimbs := (isAnchor_anchor q).climbs
      rw [← hanchor, hself] at hclimbs
      exact .inr hclimbs

theorem eq_of_climbs {root n : Node} {p q : Place} (h : Relation.ReflTransGen StandsIn p q)
    (hq : BindingSite root q n) : p = q := by
  cases h with
  | refl => rfl
  | tail _ hstep => exact absurd hstep.2 (kind_of_bindingSite hq).1

/-- Owners with one anchor are the same. -/
theorem Orderly.anchor_injective {root n m : Node} (h : Orderly root) {p q : Place}
    (hp : BindingSite root p n) (hq : BindingSite root q m) (hanchor : anchor p = anchor q) :
    p = q := by
  rcases h.climbs hp.within hq.within (.inl ⟨n, hp⟩) (.inl ⟨m, hq⟩) hanchor with hclimbs | hclimbs
  · exact eq_of_climbs hclimbs hq
  · exact (eq_of_climbs hclimbs hp).symm

/-! ## Runs of different anchors -/

/-- A run does not reach beyond a carrier that stands between its comments and its end. -/
theorem not_before_of_mem {root : Node} (h : Orderly root) {a c : Place} {between later : List Node}
    (ha : Within root a) (hcarrier : Carrier root a) (hearlier : c.node :: c.earlier <:+ a.earlier)
    (hlater : later = between ++ c.node :: c.earlier)
    (hbetween : ∀ m ∈ between, m.info.named → m.kind = .comment) :
    ¬ a.node :: a.earlier <:+ later := by
  rintro ⟨front, hfront⟩
  obtain ⟨rest, hrest⟩ := hearlier
  have hsplit : (front ++ a.node :: rest) ++ c.node :: c.earlier =
      between ++ c.node :: c.earlier := by
    rw [← hlater, ← hfront, ← hrest]
    simp
  obtain rfl := List.append_cancel_right hsplit
  have hcomment := hbetween a.node (by simp) (h.named a ha hcarrier)
  exact hcarrier.kind_ne_comment hcomment

/-- Carriers with a comment in common have one anchor. -/
theorem Orderly.anchor_eq {root : Node} (h : Orderly root) {p q c : Place} (hp : Within root p)
    (hq : Within root q) (hpc : Carrier root p) (hqc : Carrier root q) (hcp : c ∈ commentsOf p)
    (hcq : c ∈ commentsOf q) : anchor p = anchor q := by
  obtain ⟨parent, hparent, hcparent, between, hearlier, hbetween⟩ := of_mem_commentsOf hcp
  obtain ⟨parent', hparent', hcparent', between', hearlier', hbetween'⟩ := of_mem_commentsOf hcq
  obtain rfl := Option.some.inj (hcparent.symm.trans hcparent')
  have hpa := hpc.of_climbs (isAnchor_anchor p).climbs
  have hqa := hqc.of_climbs (isAnchor_anchor q).climbs
  rcases Place.siblings_cases (within_anchor hp) (within_anchor hq) hparent hparent' with
    heq | hbefore | hbefore
  · exact heq
  · exact absurd hbefore (not_before_of_mem h (within_anchor hp) hpa
      (hearlier ▸ List.suffix_append _ _) hearlier' hbetween')
  · exact absurd hbefore (not_before_of_mem h (within_anchor hq) hqa
      (hearlier' ▸ List.suffix_append _ _) hearlier hbetween)

/-! ## What makes up the documentation -/

/-- Is the text of the node a doc comment? -/
def readsDoc (source : List UInt8) (n : Node) : Bool :=
  match decodeChars (Syntax.slice source n.info.start n.info.stop) with
  | .ok text => isDocComment text
  | .error _ => false

/-- The places of the comments whose texts make up the documentation of a place, in the order of the
source. -/
def contributors (source : List UInt8) (p : Place) : List Place :=
  (commentsOf p).reverse.filter fun c => readsDoc source c.node

/-- The documentation that texts of comments make up. -/
def assembled (texts : List (List Char)) : Option String :=
  if texts = [] then none else some (String.ofList (Text.joinWith ['\n'] (texts.map clean)))

theorem readsDoc_of_ok {source : List UInt8} {n : Node} {text : List Char}
    (h : decodeChars (Syntax.slice source n.info.start n.info.stop) = .ok text) :
    readsDoc source n = isDocComment text := by
  rw [readsDoc, h]

/-- The documentation is made up of the texts of the contributors and of nothing else. -/
theorem preceding_eq_assembled {source : List UInt8} {p : Place} {documentation : Option String}
    (h : preceding source p = .ok documentation) :
    ∃ texts, Reads source ((contributors source p).map Place.node) texts ∧
      documentation = assembled texts := by
  obtain ⟨read, hread, -⟩ := Outcome.bind_eq_ok_iff.mp h
  have hreads : Reads source (attached p).reverse read.reverse := by
    refine reads_iff.mpr ?_
    rw [List.map_reverse, Outcome.mapM_eq_ok_iff.mp hread, List.map_reverse]
  have hnodes : (contributors source p).map Place.node =
      (attached p).reverse.filter (readsDoc source) := by
    rw [contributors, ← map_node_commentsOf, ← List.map_reverse, List.filter_map]
    rfl
  refine ⟨read.reverse.filter isDocComment, ?_, ?_⟩
  · rw [hnodes]
    refine List.rel_filter ?_ hreads
    intro n text htext
    exact iff_of_eq (congrArg (· = true) (readsDoc_of_ok htext))
  · rw [preceding_of_reads hreads] at h
    rw [← Except.ok.inj h, assembled]
    cases read.reverse.filter isDocComment with
    | nil => rfl
    | cons doc docs => rfl

/-! ## Symbols -/

/-- Binding a tree gives a symbol to the name of an owner. -/
structure Enters (source : List UInt8) (root : Node) (owner : Place) (n : Node) (symbol : Symbol) :
    Prop where
  site : BindingSite root owner n
  name : declaredName n = .ok symbol.name
  ne_empty : symbol.name ≠ ""
  documentation : preceding source owner = .ok symbol.documentation

/-- An owner has one name. -/
theorem name_eq_of_bindingSite {root n m : Node} {p : Place} (h : BindingSite root p n)
    (h' : BindingSite root p m) : n = m := by
  cases h with
  | declaration _ hkind hname =>
    cases h' with
    | declaration _ _ hname' => exact Option.some.inj (hname.symm.trans hname')
    | member _ _ _ _ hkind' => rcases hkind' with he | he <;> simp [he, Kind.isDeclaration] at hkind
    | assignment _ _ _ _ hkind' _ => simp [hkind', Kind.isDeclaration] at hkind
  | member _ _ _ _ hkind =>
    cases h' with
    | declaration _ hkind' _ =>
      rcases hkind with he | he <;> simp [he, Kind.isDeclaration] at hkind'
    | member => rfl
    | assignment _ _ _ _ hkind' _ => simp [hkind'] at hkind
  | assignment _ _ _ _ hkind hname =>
    cases h' with
    | declaration _ hkind' _ => simp [hkind, Kind.isDeclaration] at hkind'
    | member _ _ _ _ hkind' => simp [hkind] at hkind'
    | assignment _ _ _ _ _ hname' => exact Option.some.inj (hname.symm.trans hname')

theorem Enters.eq {source : List UInt8} {root n m : Node} {owner : Place} {symbol other : Symbol}
    (h : Enters source root owner n symbol) (h' : Enters source root owner m other) :
    n = m ∧ symbol = other := by
  obtain rfl := name_eq_of_bindingSite h.site h'.site
  have hname := Except.ok.inj (h.name.symm.trans h'.name)
  have hdoc := Except.ok.inj (h.documentation.symm.trans h'.documentation)
  cases symbol
  cases other
  exact ⟨rfl, by simp_all⟩

/-- What a binding adds to a table, whether it succeeds or not. -/
theorem enters_of_find?_bindFile {t : SymbolTable} {root : Node} {source : List UInt8}
    {key : NodeKey} {symbol : Symbol} (h : (bindFile t root source).1.find? key = some symbol) :
    t.find? key = some symbol ∨
      ∃ owner n, key = .ofNode n ∧ Enters source root owner n symbol := by
  rw [bindFile, Binding.bindSites_table] at h
  rcases SymbolTable.find?_bindAll_cases h with hold | ⟨⟨n, _⟩, hb, hkey, rfl⟩
  · exact .inl hold
  · obtain ⟨⟨owner, name⟩, hs, hd⟩ := Binding.exists_site_of_mem_bindings hb
    obtain ⟨rfl, hname, hne, hdoc⟩ := Binding.declare_eq_some_iff.mp hd
    exact .inr ⟨owner, n, hkey, Binding.mem_sites_iff.mp hs, hname, hne, hdoc⟩

/-- **No comment documents two symbols.** Every symbol that binding a tree adds to a table has the
documentation that the comments of its owner make up. If owners and export statements are named, and
no export statement has two children among them, then a comment is among those of one owner at most,
and this owner has one symbol. -/
theorem comment_documents_once {root : Node} (h : Orderly root) (source : List UInt8) :
    (∀ t key symbol, (bindFile t root source).1.find? key = some symbol →
      t.find? key = some symbol ∨
        ∃ owner n texts, key = .ofNode n ∧ Enters source root owner n symbol ∧
          Reads source ((contributors source owner).map Place.node) texts ∧
          symbol.documentation = assembled texts) ∧
      ∀ c owner n symbol other m symbol', Enters source root owner n symbol →
        Enters source root other m symbol' → c ∈ contributors source owner →
        c ∈ contributors source other → owner = other ∧ n = m ∧ symbol = symbol' := by
  constructor
  · intro t key symbol hfind
    rcases enters_of_find?_bindFile hfind with hold | ⟨owner, n, hkey, henters⟩
    · exact .inl hold
    · obtain ⟨texts, hreads, hdoc⟩ := preceding_eq_assembled henters.documentation
      exact .inr ⟨owner, n, texts, hkey, henters, hreads, hdoc⟩
  · intro c owner n symbol other m symbol' henters henters' hc hc'
    have hmem : c ∈ commentsOf owner := List.mem_reverse.mp (List.mem_filter.mp hc).1
    have hmem' : c ∈ commentsOf other := List.mem_reverse.mp (List.mem_filter.mp hc').1
    have hanchor := h.anchor_eq henters.site.within henters'.site.within
      (.inl ⟨n, henters.site⟩) (.inl ⟨m, henters'.site⟩) hmem hmem'
    obtain rfl := h.anchor_injective henters.site henters'.site hanchor
    exact ⟨rfl, henters.eq henters'⟩

/-! ## Trees that are orderly by their kinds -/

/-- Can a node of the kind own a name or stand around an owner? -/
def mayCarry (k : Kind) : Bool :=
  k.isDeclaration || k = .propertySignature || k.isEnumMember || k = .exportStatement

theorem Carrier.mayCarry {root : Node} {p : Place} (h : Carrier root p) :
    mayCarry p.node.kind := by
  rcases h with ⟨n, hsite⟩ | hexport
  · cases hsite with
    | declaration _ hkind _ =>
      rcases hkind with hkind | hkind <;> simp [Documentation.mayCarry, hkind]
    | member _ _ _ _ hkind =>
      simp [Documentation.mayCarry, Binding.isEnumMember_iff.mpr (.inl hkind)]
    | assignment _ _ _ _ hkind _ =>
      simp [Documentation.mayCarry, Binding.isEnumMember_iff.mpr (.inr hkind)]
  · simp [Documentation.mayCarry, hexport]

theorem orderly_of_kinds {root : Node}
    (hnamed : ∀ n ∈ root.nodes, mayCarry n.kind → n.info.named)
    (hsingle : ∀ e ∈ root.nodes, e.kind = .exportStatement →
      (e.children.filter fun c => mayCarry c.kind).length ≤ 1) : Orderly root := by
  refine ⟨fun p hp hcarrier => hnamed _ hp.node_mem hcarrier.mayCarry, ?_⟩
  intro e he hexport c hc d hd hcc hdc
  have hlength : (e.children.filter fun c => mayCarry c.node.kind).length ≤ 1 := by
    have h := hsingle _ he.node_mem hexport
    rwa [← Place.map_node_children, List.filter_map, List.length_map] at h
  have hc' : c ∈ e.children.filter fun c => mayCarry c.node.kind :=
    List.mem_filter.mpr ⟨hc, hcc.mayCarry⟩
  have hd' : d ∈ e.children.filter fun c => mayCarry c.node.kind :=
    List.mem_filter.mpr ⟨hd, hdc.mayCarry⟩
  match hlist : e.children.filter fun c => mayCarry c.node.kind with
  | [] => rw [hlist] at hc'; cases hc'
  | [only] =>
    rw [hlist, List.mem_singleton] at hc' hd'
    rw [hc', hd']
  | _ :: _ :: _ => rw [hlist] at hlength; simp at hlength

/-- An exported enum and an interface, with comments before them and before the enum's member. -/
def threeSource : List UInt8 :=
  Text.Utf8.encode "/** a */\nexport enum E \x7b /** b */ X \x7d\n/** c */ interface I \x7b\x7d"

/-- The tree of `threeSource`. -/
def threeTree : Node :=
  (Sketch.place threeSource 0 (.inner (.other "program") 0 61
    [.leaf .comment 0 8,
      .inner .exportStatement 9 37
        [.token "export" 9 15,
          .inner .enumDeclaration 16 37
            [.token "enum" 16 20, .nameLeaf (.other "identifier") 21 22,
              .inner .enumBody 23 37
                [.token "\x7b" 23 24, .leaf .comment 25 33, .leaf .propertyIdentifier 34 35,
                  .token "\x7d" 36 37]]],
      .leaf .comment 38 46,
      .inner .interfaceDeclaration 47 61
        [.token "interface" 47 56, .nameLeaf .typeIdentifier 57 58,
          .inner (.other "interface_body") 59 61
            [.token "\x7b" 59 60, .token "\x7d" 60 61]]])).1

/-- The comment before the export statement documents the enum and nothing else. -/
theorem comment_documents_once_three :
    Orderly threeTree ∧
      ∃ c owner n, Enters threeSource threeTree owner n ⟨"E", some "a"⟩ ∧
        c ∈ contributors threeSource owner ∧
        ∀ other m symbol, Enters threeSource threeTree other m symbol →
          c ∈ contributors threeSource other → owner = other ∧ ⟨"E", some "a"⟩ = symbol := by
  have horderly : Orderly threeTree := orderly_of_kinds (by decide +kernel) (by decide +kernel)
  have hfind : (bindFile .empty threeTree threeSource).1.find? ⟨6, 21, 22⟩ =
      some ⟨"E", some "a"⟩ := by decide +kernel
  obtain ⟨hsymbols, honce⟩ := comment_documents_once horderly threeSource
  rcases hsymbols _ _ _ hfind with hold | ⟨owner, n, texts, -, henters, hreads, hdoc⟩
  · cases hold
  · have hsome : (contributors threeSource owner).map Place.node ≠ [] := by
      intro hnil
      rw [hnil] at hreads
      cases hreads
      cases hdoc
    obtain ⟨_, hc⟩ := List.exists_mem_of_ne_nil _ hsome
    obtain ⟨c, hc, -⟩ := List.mem_map.mp hc
    refine ⟨horderly, c, owner, n, henters, hc, fun other m symbol hother hc' => ?_⟩
    obtain ⟨howner, -, hsymbol⟩ := honce c _ _ _ _ _ _ henters hother hc hc'
    exact ⟨howner, hsymbol⟩

end ApiDecl.Documentation
