import ApiDecl.Proofs.Names

/-!
# The members of an enum

The body of an enum, as the grammar has it, consists of names, of names with values and of comments
(`EnumShape`). Names with values and those that are plain or quoted are members. A number, a private
name or a computed name is a member only if it has a value.

* `membersOf_of_shape`: the members that are found are the items of the body that are of the kinds
  of members, unless a computed name has nodes of these kinds inside.
* `ProperMember.exists_built`: a member of a file in a corpus is built under the name that it spells.
* `not_all_items_listed`: an item of the body need not be listed.
* `buildEnum_lists_members`: the enum is built from the members of its body, in order and under
  their names, exactly if no computed name has a node inside that is taken for a member.
-/

namespace ApiDecl

open Syntax (Node Kind Sketch Place)
open Text.Utf8 (DecodeError)
open Binding (declaredName Spells)
open Corpus (Addition ofAdditions)
open Model (Enum EnumMember)

namespace Corpus

/-- Different nodes of the trees that are added have different keys. -/
def KeysDiffer (as : List Addition) : Prop :=
  ∀ a ∈ as, ∀ b ∈ as, ∀ n ∈ a.root.nodes, ∀ m ∈ b.root.nodes,
    NodeKey.ofNode n = .ofNode m → n = m

instance (as : List Addition) : Decidable (KeysDiffer as) := by
  unfold KeysDiffer
  infer_instance

theorem exists_mem_of_mem_files {as : List Addition} {f : SourceFile}
    (h : f ∈ (ofAdditions as).files) : ∃ a ∈ as, f.root = a.root := by
  rw [files_ofAdditions, added_eq] at h
  obtain ⟨a, ha, hfile⟩ := List.mem_filterMap.mp h
  unfold Addition.file? at hfile
  split at hfile
  · obtain rfl := Option.some.inj hfile
    exact ⟨a, ha, rfl⟩
  · cases hfile

/-- Where different nodes have different keys, the symbol of a node has the name that it spells. -/
theorem KeysDiffer.declaredName_eq {as : List Addition} (hkeys : KeysDiffer as) {f : SourceFile}
    (hf : f ∈ (ofAdditions as).files) {n : Node} (hn : n ∈ f.root.nodes) {symbol : Symbol}
    (h : (ofAdditions as).table.symbolAt n = some symbol) :
    declaredName n = .ok symbol.name := by
  obtain ⟨a, ha, hroot⟩ := exists_mem_of_mem_files hf
  rw [hroot] at hn
  obtain ⟨b, hb, owner, m, hsite, hkey, hname, -⟩ := declares_of_find? h
  obtain rfl := hkeys a ha b hb n hn m hsite.mem_nodes hkey
  exact hname

end Corpus

namespace Reading

/-! ## Enums as the grammar has them -/

/-- The kinds of names that stand in the body of an enum. -/
def isItemName (k : Kind) : Bool :=
  k = .propertyIdentifier || k = .stringLiteral || k = .other "number" ||
    k = .other "private_property_identifier" || k = .other "computed_property_name"

/-- What stands in the body of an enum. A computed name may contain any expression, and so may the
value behind a name. -/
inductive BodyItem : Node → Prop
  | comment {c : Node} : c.kind = .comment → c.children = [] → BodyItem c
  | plain {c : Node} : c.kind = .propertyIdentifier ∨ c.kind = .other "number" ∨
      c.kind = .other "private_property_identifier" → c.children = [] → BodyItem c
  | quoted {c : Node} : c.kind = .stringLiteral → c.nameChild = none → BodyItem c
  | computed {c : Node} : c.kind = .other "computed_property_name" → BodyItem c
  | assignment {c n : Node} : c.kind = .enumAssignment → c.nameChild = some n →
      isItemName n.kind → BodyItem c

/-- The declaration of an enum as the grammar has it. -/
structure EnumShape (d body : Node) : Prop where
  kind : d.kind = .enumDeclaration
  name : ∃ n ∈ d.nameChild, n.kind = .other "identifier"
  bodies : d.namedChildren.filter (·.kind = .enumBody) = [body]
  others : ∀ c ∈ d.namedChildren, c.kind ≠ .enumBody →
    (c.kind = .other "identifier" ∨ c.kind = .comment) ∧ c.children = []
  items : ∀ c ∈ body.namedChildren, BodyItem c

/-- The node that holds the name of an item of the body. -/
def itemBearer (c : Node) : Node := if c.kind = .enumAssignment then c.bearer else c

/-- The name that an item of the body declares. -/
def itemName (c : Node) : Except DecodeError String := declaredName (itemBearer c)

/-- All names that the enum declares are there. -/
structure NamesItems (d body : Node) : Prop where
  self : HasName d
  items : ∀ c ∈ body.namedChildren, c.kind ≠ .comment → Spells (itemBearer c)

/-- No computed name has a node inside that is taken for a member. -/
def ComputedNamesClosed (body : Node) : Prop :=
  ∀ c ∈ body.namedChildren, c.kind = .other "computed_property_name" →
    ∀ m, Reached Kind.isEnumMember c m → ¬ m.kind.isEnumMember

theorem computedNamesClosed_iff {body : Node} :
    ComputedNamesClosed body ↔ ∀ c ∈ body.namedChildren,
      c.kind = .other "computed_property_name" → membersOf Kind.isEnumMember c = [] := by
  simp only [ComputedNamesClosed, List.eq_nil_iff_forall_not_mem, mem_membersOf_iff, not_and']

/-! The conditions can be checked. -/

theorem bodyItem_iff {c : Node} :
    BodyItem c ↔ (c.kind = .comment ∧ c.children = []) ∨
      ((c.kind = .propertyIdentifier ∨ c.kind = .other "number" ∨
        c.kind = .other "private_property_identifier") ∧ c.children = []) ∨
      (c.kind = .stringLiteral ∧ c.nameChild = none) ∨ c.kind = .other "computed_property_name" ∨
      (c.kind = .enumAssignment ∧ ∃ n ∈ c.nameChild, isItemName n.kind) := by
  constructor
  · rintro (⟨hk, hc⟩ | ⟨hk, hc⟩ | ⟨hk, hc⟩ | hk | ⟨hk, hn, hname⟩)
    · exact .inl ⟨hk, hc⟩
    · exact .inr (.inl ⟨hk, hc⟩)
    · exact .inr (.inr (.inl ⟨hk, hc⟩))
    · exact .inr (.inr (.inr (.inl hk)))
    · exact .inr (.inr (.inr (.inr ⟨hk, _, hn, hname⟩)))
  · rintro (⟨hk, hc⟩ | ⟨hk, hc⟩ | ⟨hk, hc⟩ | hk | ⟨hk, n, hn, hname⟩)
    · exact .comment hk hc
    · exact .plain hk hc
    · exact .quoted hk hc
    · exact .computed hk
    · exact .assignment hk hn hname

instance (c : Node) : Decidable (BodyItem c) := decidable_of_iff _ bodyItem_iff.symm

instance (body : Node) : Decidable (ComputedNamesClosed body) :=
  decidable_of_iff _ computedNamesClosed_iff.symm

/-! ## Members that are found -/

theorem flatMap_eq_flatMap_filter {α β : Type} {f : α → List β} {p : α → Bool} {l : List α}
    (h : ∀ a ∈ l, ¬ p a → f a = []) : l.flatMap f = (l.filter p).flatMap f := by
  induction l with
  | nil => rfl
  | cons a rest ih =>
    have hrest := ih fun b hb => h b (List.mem_cons_of_mem _ hb)
    by_cases ha : p a
    · rw [List.filter_cons_of_pos ha, List.flatMap_cons, List.flatMap_cons, hrest]
    · rw [List.filter_cons_of_neg ha, List.flatMap_cons, h a List.mem_cons_self ha, hrest,
        List.nil_append]

theorem length_flatMap_eq {α : Type} {f : α → List α} {p : α → Bool} {l : List α}
    (h : ∀ a ∈ l, p a → f a = [a]) : (l.flatMap f).length =
      (l.filter p).length + ((l.filter fun a => !p a).flatMap f).length := by
  induction l with
  | nil => rfl
  | cons a rest ih =>
    have hrest := ih fun b hb => h b (List.mem_cons_of_mem _ hb)
    by_cases ha : p a
    · have hskip : (a :: rest).filter (fun a => !p a) = rest.filter fun a => !p a :=
        List.filter_cons_of_neg (by simp [ha])
      rw [hskip, List.flatMap_cons, h a List.mem_cons_self ha, List.filter_cons_of_pos ha,
        List.length_append, List.length_singleton, List.length_cons]
      omega
    · have hkeep : (a :: rest).filter (fun a => !p a) = a :: rest.filter fun a => !p a :=
        List.filter_cons_of_pos (by simpa using ha)
      rw [hkeep, List.filter_cons_of_neg ha, List.flatMap_cons, List.flatMap_cons,
        List.length_append, List.length_append]
      omega

theorem eq_nil_of_length_flatMap_eq {α : Type} {f : α → List α} {p : α → Bool} {l : List α}
    (h : ∀ a ∈ l, p a → f a = [a]) (hlength : (l.flatMap f).length = (l.filter p).length) :
    ∀ a ∈ l, ¬ p a → f a = [] := by
  have hcount := length_flatMap_eq h
  have hnone : (l.filter fun a => !p a).flatMap f = [] :=
    List.eq_nil_of_length_eq_zero (by omega)
  intro a ha hp
  exact List.flatMap_eq_nil_iff.mp hnone a (List.mem_filter.mpr ⟨ha, by simpa using hp⟩)

theorem membersOf_of_childless {chosen : Kind → Bool} {n : Node} (h : n.children = []) :
    membersOf chosen n = [] := by
  simp [membersOf_eq, Node.namedChildren, h]

theorem EnumShape.body_mem {d body : Node} (h : EnumShape d body) :
    body ∈ d.namedChildren ∧ body.kind = .enumBody := by
  have hmem : body ∈ d.namedChildren.filter (·.kind = .enumBody) := by simp [h.bodies]
  simpa using List.mem_filter.mp hmem

theorem BodyItem.outermost_eq_nil {c : Node} (hitem : BodyItem c) (hkind : ¬ c.kind.isEnumMember)
    (hclosed : c.kind = .other "computed_property_name" → membersOf Kind.isEnumMember c = []) :
    outermost Kind.isEnumMember c = [] := by
  rw [outermost_eq, if_neg hkind]
  cases hitem with
  | comment _ hchildren => exact membersOf_of_childless hchildren
  | plain _ hchildren => exact membersOf_of_childless hchildren
  | quoted hquoted _ => simp [hquoted, Kind.isEnumMember] at hkind
  | computed hcomputed => exact hclosed hcomputed
  | assignment hassignment _ _ => simp [hassignment, Kind.isEnumMember] at hkind

/-- All that is found is found in the body. -/
theorem EnumShape.membersOf_eq_flatMap {d body : Node} (h : EnumShape d body) :
    membersOf Kind.isEnumMember d =
      body.namedChildren.flatMap (outermost Kind.isEnumMember) := by
  have houtside : ∀ c ∈ d.namedChildren, ¬ decide (c.kind = .enumBody) →
      outermost Kind.isEnumMember c = [] := by
    intro c hc hkind
    obtain ⟨hleaf, hchildren⟩ := h.others c hc (by simpa using hkind)
    have hno : ¬ c.kind.isEnumMember := by rcases hleaf with h | h <;> simp [h, Kind.isEnumMember]
    rw [outermost_eq, if_neg hno]
    exact membersOf_of_childless hchildren
  have hbody : ¬ body.kind.isEnumMember := by simp [h.body_mem.2, Kind.isEnumMember]
  calc membersOf Kind.isEnumMember d
      = d.namedChildren.flatMap (outermost Kind.isEnumMember) := membersOf_eq _ _
    _ = [body].flatMap (outermost Kind.isEnumMember) := by
        rw [flatMap_eq_flatMap_filter houtside, h.bodies]
    _ = body.namedChildren.flatMap (outermost Kind.isEnumMember) := by
        rw [List.flatMap_singleton, outermost_eq, if_neg hbody, membersOf_eq]

theorem outermost_of_isEnumMember {c : Node} (h : c.kind.isEnumMember) :
    outermost Kind.isEnumMember c = [c] := by
  rw [outermost_eq, if_pos h]

/-- The members that are found are the items of the body that are of the kinds of members. -/
theorem membersOf_of_shape {d body : Node} (h : EnumShape d body)
    (hclosed : ComputedNamesClosed body) :
    membersOf Kind.isEnumMember d = body.namedChildren.filter (·.kind.isEnumMember) := by
  have hother : ∀ c ∈ body.namedChildren, ¬ c.kind.isEnumMember →
      outermost Kind.isEnumMember c = [] := fun c hc hkind =>
    (h.items c hc).outermost_eq_nil hkind (computedNamesClosed_iff.mp hclosed c hc)
  calc membersOf Kind.isEnumMember d
      = body.namedChildren.flatMap (outermost Kind.isEnumMember) := h.membersOf_eq_flatMap
    _ = (body.namedChildren.filter (·.kind.isEnumMember)).flatMap (outermost Kind.isEnumMember) :=
        flatMap_eq_flatMap_filter hother
    _ = (body.namedChildren.filter (·.kind.isEnumMember)).flatMap fun c => [c] :=
        List.flatMap_congr fun c hc => outermost_of_isEnumMember (List.mem_filter.mp hc).2
    _ = body.namedChildren.filter (·.kind.isEnumMember) := List.flatMap_singleton' _

/-- A node that is found in a computed name is one more than the items of the body. -/
theorem computedNamesClosed_of_length {d body : Node} (h : EnumShape d body)
    (hlength : (membersOf Kind.isEnumMember d).length =
      (body.namedChildren.filter (·.kind.isEnumMember)).length) : ComputedNamesClosed body := by
  rw [h.membersOf_eq_flatMap] at hlength
  have hrest := eq_nil_of_length_flatMap_eq (p := (·.kind.isEnumMember))
    (fun c _ hc => outermost_of_isEnumMember hc) hlength
  refine computedNamesClosed_iff.mpr fun c hc hcomputed => ?_
  have hkind : ¬ c.kind.isEnumMember := by simp [hcomputed, Kind.isEnumMember]
  have hnil := hrest c hc hkind
  rwa [outermost_eq, if_neg hkind] at hnil

/-! ## Names of members -/

/-- An item of a kind of members has its name where binding and building look for it. -/
theorem EnumShape.properMember {root d body c : Node} (h : EnumShape d body) (hd : d ∈ root.nodes)
    (hnames : NamesItems d body) (hc : c ∈ body.namedChildren) (hkind : c.kind.isEnumMember) :
    ProperMember root c := by
  have hbody : body ∈ root.nodes :=
    Node.mem_nodes_trans (mem_nodes_of_mem_namedChildren h.body_mem.1) hd
  have hcomment : c.kind ≠ .comment := by
    intro he
    simp [he, Kind.isEnumMember] at hkind
  obtain ⟨name, hname, hne⟩ := hnames.items c hc hcomment
  refine ⟨⟨body, hbody, h.body_mem.2, hc⟩, fun hassignment => ?_, fun hleaf => ?_⟩
  · rw [itemBearer, if_pos hassignment] at hname
    cases h.items c hc with
    | comment he _ => exact absurd he hcomment
    | plain he _ => simp [hassignment] at he
    | quoted he _ => simp [hassignment] at he
    | computed he => simp [hassignment] at he
    | @assignment n _ hn _ =>
      rw [Node.bearer, hn] at hname
      exact ⟨n, hn, name, hname, hne⟩
  · rw [itemBearer, if_neg hleaf] at hname
    refine ⟨?_, name, hname, hne⟩
    cases h.items c hc with
    | comment he _ => exact absurd he hcomment
    | plain _ hchildren => simp [Node.nameChild, Node.childInField, hchildren]
    | quoted _ hnone => exact hnone
    | computed he => simp [he, Kind.isEnumMember] at hkind
    | assignment he _ _ => exact absurd he hleaf

theorem ProperMember.itemName_eq {root m : Node} (h : ProperMember root m) :
    itemName m = declaredName m.bearer := by
  rw [itemName, itemBearer]
  split
  · rfl
  · next hleaf => rw [Node.bearer, (h.leaf hleaf).1, Option.getD_none]

theorem outcome_buildMember {t : SymbolTable} {m : Node} {symbol : Symbol}
    (h : t.symbolOf m = some symbol) :
    (buildMember t .bound m).outcome = .ok ⟨symbol.name, symbol.documentation⟩ := by
  simp [buildMember, Naming.bound, SymbolTable.documentationOf, h]

/-- A member of a file in a corpus is built under the name that it spells. -/
theorem ProperMember.exists_built {as : List Addition} (hkeys : Corpus.KeysDiffer as)
    {f : SourceFile} (hf : f ∈ (ofAdditions as).files) {m : Node} (hm : m ∈ f.root.nodes)
    (hkind : m.kind.isEnumMember) (h : ProperMember f.root m) :
    ∃ built, (buildMember (ofAdditions as).table .bound m).outcome = .ok built ∧
      itemName m = .ok built.name := by
  have hsome := isSome_symbolOf_of_properMember (Corpus.complete_ofAdditions as f hf) hkind h
  obtain ⟨symbol, hsymbol⟩ := Option.isSome_iff_exists.mp hsome
  have hname := hkeys.declaredName_eq hf
    (Node.mem_nodes_trans (Node.bearer_mem_nodes m) hm) hsymbol
  exact ⟨_, outcome_buildMember hsymbol, by rw [h.itemName_eq, hname]⟩

theorem outcome_buildEnum {t : SymbolTable} {d : Node} {members : List EnumMember}
    (hd : (t.symbolOf d).isSome)
    (hmembers : (membersOf Kind.isEnumMember d).map (fun m => (buildMember t .bound m).outcome) =
      members.map .ok) :
    ∃ e, (buildEnum t .bound d).outcome = .ok e ∧ e.members = members := by
  obtain ⟨symbol, hsymbol⟩ := Option.isSome_iff_exists.mp hd
  have hrun := Outcome.mapM_eq_ok_iff.mpr hmembers
  refine ⟨⟨symbol.name, members, t.documentationOf d⟩, ?_, rfl⟩
  simp [buildEnum, Naming.bound, hsymbol, hrun]

/-- The members of the enum stand for the items of the body that are to be listed, one for one and in
order, and have their names. -/
abbrev ListsItems (listed : Node → Bool) (body : Node) (e : Enum) : Prop :=
  List.Forall₂ (fun c m => itemName c = .ok m.name) (body.namedChildren.filter listed) e.members

/-! ## Two enums -/

/-- An enum with an item of each form, and with the given text of three bytes in a computed name. -/
def itemsSource (inside : String) : List UInt8 :=
  Text.Utf8.encode ("enum E \x7b A, /* c */ 1, [" ++ inside ++ "], 'b' = f('y') \x7d")

/-- The tree of `itemsSource`. -/
def itemsTree (inside : String) (kind : Kind) : Node :=
  (Sketch.place (itemsSource inside) 0 <|
    .inner .enumDeclaration 0 44
      [.token "enum" 0 4, .nameLeaf (.other "identifier") 5 6,
        .inner .enumBody 7 44
          [.token "\x7b" 7 8, .leaf .propertyIdentifier 9 10, .token "," 10 11,
            .leaf .comment 12 19, .leaf (.other "number") 20 21, .token "," 21 22,
            .inner (.other "computed_property_name") 23 28 [.leaf kind 24 27], .token "," 28 29,
            .inner .enumAssignment 30 42
              [.nameLeaf .stringLiteral 30 33, .token "=" 34 35,
                .inner (.other "call_expression") 36 42
                  [.leaf (.other "identifier") 36 37, .leaf .stringLiteral 38 41]],
            .token "\x7d" 43 44]]).1

def itemsFile (inside : String) (kind : Kind) : Addition :=
  ⟨"src/items.ts", itemsTree inside kind, itemsSource inside⟩

def itemsBody (inside : String) (kind : Kind) : Node :=
  (itemsTree inside kind).namedChildren.getLastD (itemsTree inside kind)

/-- With an identifier or a string in the computed name, the enum is one of the grammar, in a file
that is added. -/
theorem itemsTree_conditions (inside : String) (kind : Kind)
    (h : (inside, kind) ∈ [("abc", .other "identifier"), ("'y'", .stringLiteral)]) :
    Corpus.KeysDiffer [itemsFile inside kind] ∧
    (∃ f ∈ (ofAdditions [itemsFile inside kind]).files, itemsTree inside kind ∈ f.root.nodes) ∧
    EnumShape (itemsTree inside kind) (itemsBody inside kind) ∧
    NamesItems (itemsTree inside kind) (itemsBody inside kind) := by
  simp only [List.mem_cons, List.not_mem_nil, or_false, Prod.mk.injEq] at h
  rcases h with ⟨rfl, rfl⟩ | ⟨rfl, rfl⟩ <;>
    exact ⟨by decide +kernel, by decide +kernel,
      ⟨by decide +kernel, by decide +kernel, by decide +kernel, by decide +kernel,
        by decide +kernel⟩, ⟨by decide +kernel, by decide +kernel⟩⟩

/-- Neither a number nor a computed name is listed. -/
theorem not_all_items_listed :
    ¬ ∀ (as : List Addition) (f : SourceFile) (d body : Node), Corpus.KeysDiffer as →
      f ∈ (ofAdditions as).files → d ∈ f.root.nodes → EnumShape d body → NamesItems d body →
      ∃ e, (buildEnum (ofAdditions as).table .bound d).outcome = .ok e ∧
        ListsItems (·.kind ≠ .comment) body e := by
  intro hall
  obtain ⟨hkeys, ⟨f, hf, hd⟩, hshape, hnames⟩ :=
    itemsTree_conditions "abc" (.other "identifier") (by simp)
  obtain ⟨e, he, hitems⟩ := hall _ f _ _ hkeys hf hd hshape hnames
  obtain ⟨e', he', hcount⟩ : ∃ e', (buildEnum (ofAdditions [itemsFile "abc" (.other
      "identifier")]).table .bound (itemsTree "abc" (.other "identifier"))).outcome = .ok e' ∧
      e'.members.length = 2 := Outcome.map_eq_ok_iff.mp (by decide +kernel)
  obtain rfl : e = e' := Except.ok.inj (he.symm.trans he')
  have hfour : ((itemsBody "abc" (.other "identifier")).namedChildren.filter
      (·.kind ≠ .comment)).length = 4 := by decide +kernel
  have hlength := hitems.length_eq
  omega

/-- The enum is built from the members of its body exactly if no computed name has a node inside
that is taken for a member. -/
theorem buildEnum_lists_members {as : List Addition} (hkeys : Corpus.KeysDiffer as)
    {f : SourceFile} (hf : f ∈ (ofAdditions as).files) {d body : Node} (hd : d ∈ f.root.nodes)
    (hshape : EnumShape d body) (hnames : NamesItems d body) :
    (∃ e, (buildEnum (ofAdditions as).table .bound d).outcome = .ok e ∧
      ListsItems (·.kind.isEnumMember) body e) ↔ ComputedNamesClosed body := by
  constructor
  · rintro ⟨e, he, hitems⟩
    -- Every node that is found makes a member, so one in a computed name would be one too many.
    apply computedNamesClosed_of_length hshape
    calc (membersOf Kind.isEnumMember d).length
        = e.members.length := by simpa using congrArg List.length (buildEnum_eq_ok he).2
      _ = (body.namedChildren.filter (·.kind.isEnumMember)).length := hitems.length_eq.symm
  · intro hclosed
    have hbuilt : ∀ c ∈ body.namedChildren.filter (·.kind.isEnumMember), ∃ m : EnumMember,
        (buildMember (ofAdditions as).table .bound c).outcome = .ok m ∧ itemName c = .ok m.name := by
      intro c hc
      obtain ⟨hc, hkind⟩ := List.mem_filter.mp hc
      have hmem : c ∈ f.root.nodes := Node.mem_nodes_trans (mem_nodes_of_mem_namedChildren hc)
        (Node.mem_nodes_trans (mem_nodes_of_mem_namedChildren hshape.body_mem.1) hd)
      exact (hshape.properMember hd hnames hc hkind).exists_built hkeys hf hmem hkind
    obtain ⟨members, hmembers⟩ := Outcome.exists_forall₂ hbuilt
    have hself : ((ofAdditions as).table.symbolOf d).isSome :=
      isSome_symbolOf_of_hasName (Corpus.complete_ofAdditions as f hf) hd
        (Or.inr (Or.inl hshape.kind)) hnames.self
    have hrun : (membersOf Kind.isEnumMember d).map
        (fun c => (buildMember (ofAdditions as).table .bound c).outcome) = members.map .ok := by
      rw [membersOf_of_shape hshape hclosed, ← List.forall₂_eq_eq_eq, List.forall₂_map_left_iff,
        List.forall₂_map_right_iff]
      exact hmembers.imp fun _ _ h => h.1
    obtain ⟨e, he, rfl⟩ := outcome_buildEnum hself hrun
    exact ⟨e, he, hmembers.imp fun _ _ h => h.2⟩

/-- A string in a computed name is taken for a member, which has no symbol. An identifier there does
no harm. -/
theorem buildEnum_lists_members_items :
    (∃ e, (buildEnum (ofAdditions [itemsFile "abc" (.other "identifier")]).table .bound
        (itemsTree "abc" (.other "identifier"))).outcome = .ok e ∧
      ListsItems (·.kind.isEnumMember) (itemsBody "abc" (.other "identifier")) e) ∧
    (∃ site, (buildEnum (ofAdditions [itemsFile "'y'" .stringLiteral]).table .bound
        (itemsTree "'y'" .stringLiteral)).outcome = .error (.unbound site)) ∧
    ¬ ComputedNamesClosed (itemsBody "'y'" .stringLiteral) := by
  refine ⟨?_, ?_⟩
  · obtain ⟨hkeys, ⟨f, hf, hd⟩, hshape, hnames⟩ :=
      itemsTree_conditions "abc" (.other "identifier") (by simp)
    exact (buildEnum_lists_members hkeys hf hd hshape hnames).mpr (by decide +kernel)
  · obtain ⟨hkeys, ⟨f, hf, hd⟩, hshape, hnames⟩ :=
      itemsTree_conditions "'y'" .stringLiteral (by simp)
    have hfails : (buildEnum (ofAdditions [itemsFile "'y'" .stringLiteral]).table .bound
        (itemsTree "'y'" .stringLiteral)).outcome =
          .error (.unbound ⟨some "string", "string", "'y'", some ⟨0, 24⟩⟩) := by decide +kernel
    refine ⟨⟨_, hfails⟩, fun hclosed => ?_⟩
    obtain ⟨e, he, -⟩ := (buildEnum_lists_members hkeys hf hd hshape hnames).mpr hclosed
    rw [hfails] at he
    cases he

end Reading

end ApiDecl
