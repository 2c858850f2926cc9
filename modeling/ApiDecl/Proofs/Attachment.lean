import ApiDecl.Proofs.Encoded
import Mathlib.Data.List.Chain
import Mathlib.Logic.Relation

/-!
# Which comments document a place

The documentation of a place comes from the comments right before its anchor, the outermost of the
export statements directly around it. `IsLongestRun` says which comments these are: the longest run
of them that reaches the anchor without a blank line. The main statement says that the search finds
exactly this run, reads the documentation from its doc comments alone, and does not see an export
statement put around the place in the same row.
-/

namespace ApiDecl.Syntax.Place

/-- The siblings of a place are the other children of its parent. -/
theorem Within.children_eq {root : Node} {p q : Place} (h : Within root p)
    (hq : p.parent? = some q) :
    ∃ after, q.node.children = p.earlier.reverse ++ p.node :: after := by
  cases h with
  | self => cases hq
  | child _ hmem =>
    obtain ⟨before, n, after, hchildren, rfl⟩ := mem_childrenAfter hmem
    obtain rfl := Option.some.inj hq
    exact ⟨after, by simpa [earlier, node] using hchildren⟩

theorem mem_childrenAfter_append (p : Place) (earlier before after : List Node) (n : Node) :
    .child p (before.reverse ++ earlier) n ∈ childrenAfter p earlier (before ++ n :: after) := by
  induction before generalizing earlier with
  | nil => exact List.mem_cons_self
  | cons m before ih =>
    have hmem := ih (m :: earlier)
    simpa [childrenAfter] using .inr hmem

theorem Within.child_of_children {root n : Node} {p : Place} {before after : List Node}
    (h : Within root p) (hchildren : p.node.children = before ++ n :: after) :
    Within root (.child p before.reverse n) := by
  refine .child h ?_
  have hmem := mem_childrenAfter_append p [] before after n
  rwa [← hchildren, List.append_nil] at hmem

end ApiDecl.Syntax.Place

namespace ApiDecl.Documentation

open Syntax (Node Place Sketch)
open Syntax.Place (Within)
open Text.Utf8 (decodeChars)

/-! ## The anchor -/

/-- A place stands directly in an export statement. -/
def StandsIn (p q : Place) : Prop := p.parent? = some q ∧ q.node.kind = .exportStatement

/-- The place, or the outermost of the export statements that are directly around it. -/
structure IsAnchor (p a : Place) : Prop where
  climbs : Relation.ReflTransGen StandsIn p a
  outermost : ∀ q, ¬ StandsIn a q

theorem anchor_of_standsIn {p q : Place} (h : StandsIn p q) : anchor p = anchor q := by
  obtain ⟨hparent, hkind⟩ := h
  cases p with
  | root n => cases hparent
  | child parent earlier n =>
    obtain rfl := Option.some.inj hparent
    rw [anchor, if_pos hkind]

theorem anchor_eq_self {a : Place} (h : ∀ q, ¬ StandsIn a q) : anchor a = a := by
  cases a with
  | root n => rfl
  | child parent earlier n => rw [anchor, if_neg fun hkind => h parent ⟨rfl, hkind⟩]

theorem IsAnchor.eq {p a : Place} (h : IsAnchor p a) : a = anchor p := by
  obtain ⟨hclimbs, houtermost⟩ := h
  induction hclimbs using Relation.ReflTransGen.head_induction_on with
  | refl => exact (anchor_eq_self houtermost).symm
  | head hstep _ ih => rw [ih, anchor_of_standsIn hstep]

theorem isAnchor_anchor (p : Place) : IsAnchor p (anchor p) := by
  induction p with
  | root n => exact ⟨.refl, fun q h => by cases h.1⟩
  | child parent earlier n ih =>
    by_cases hkind : parent.node.kind = .exportStatement
    · have hstep : StandsIn (.child parent earlier n) parent := ⟨rfl, hkind⟩
      rw [anchor_of_standsIn hstep]
      exact ⟨ih.climbs.head hstep, ih.outermost⟩
    · rw [anchor, if_neg hkind]
      refine ⟨.refl, ?_⟩
      rintro q ⟨hparent, hexport⟩
      obtain rfl := Option.some.inj hparent
      exact hkind hexport

/-! ## Runs of comments -/

/-- The named siblings before a place, in the order of the source. -/
def siblingsBefore (a : Place) : List Node := a.earlier.reverse.filter (·.info.named)

/-- The node is a comment, and no blank line lies between it and the next node. -/
def LeadsUpTo (c next : Node) : Prop := c.kind = .comment ∧ next.startRow ≤ c.info.stopRow + 1

instance (c next : Node) : Decidable (LeadsUpTo c next) :=
  inferInstanceAs (Decidable (_ ∧ _))

/-- Comments right before a place, each of which leads up to the next one and the last of which to
the place. -/
structure IsRun (a : Place) (cs : List Node) : Prop where
  before : cs <:+ siblingsBefore a
  chain : (cs ++ [a.node]).IsChain LeadsUpTo

/-- A run such that no run is longer. -/
def IsLongestRun (a : Place) (cs : List Node) : Prop :=
  IsRun a cs ∧ ∀ ds, IsRun a ds → ds.length ≤ cs.length

theorem IsLongestRun.suffix {a : Place} {cs ds : List Node} (h : IsLongestRun a cs)
    (hds : IsRun a ds) : ds <:+ cs :=
  List.suffix_of_suffix_length_le hds.before h.1.before (h.2 ds hds)

theorem IsLongestRun.unique {a : Place} {cs ds : List Node} (h : IsLongestRun a cs)
    (h' : IsLongestRun a ds) : ds = cs := by
  have hlength : cs.length ≤ ds.length := h'.2 cs h.1
  exact (h.suffix h'.1).eq_of_length_le hlength

theorem run_cons (n c : Node) (rest : List Node) :
    run n.startRow (c :: rest) = if LeadsUpTo c n then c :: run c.startRow rest else [] := by
  rw [run]
  by_cases h : LeadsUpTo c n
  · rw [if_pos h, if_pos (by simpa [LeadsUpTo] using h)]
  · rw [if_neg h, if_neg (by simpa [LeadsUpTo] using h)]

theorem run_isPrefix (n : Node) (ns : List Node) : run n.startRow ns <+: ns := by
  induction ns generalizing n with
  | nil => exact List.nil_prefix
  | cons c rest ih =>
    rw [run_cons]
    split
    · exact List.cons_prefix_cons.mpr ⟨rfl, ih c⟩
    · exact List.nil_prefix

theorem run_isChain (n : Node) (ns : List Node) :
    (n :: run n.startRow ns).IsChain fun next c => LeadsUpTo c next := by
  induction ns generalizing n with
  | nil => exact .singleton n
  | cons c rest ih =>
    rw [run_cons]
    split
    · next h => exact .cons_cons h (ih c)
    · exact .singleton n

/-- The comments that lead up to a node are all found. -/
theorem prefix_run {n : Node} {cs ns : List Node} (hfront : cs <+: ns)
    (hchain : (n :: cs).IsChain fun next c => LeadsUpTo c next) : cs <+: run n.startRow ns := by
  induction ns generalizing n cs with
  | nil =>
    obtain rfl := List.prefix_nil.mp hfront
    exact List.nil_prefix
  | cons c rest ih =>
    cases cs with
    | nil => exact List.nil_prefix
    | cons d ds =>
      obtain ⟨rfl, hds⟩ := List.cons_prefix_cons.mp hfront
      obtain ⟨hleads, hchain⟩ := List.isChain_cons_cons.mp hchain
      rw [run_cons, if_pos hleads]
      exact List.cons_prefix_cons.mpr ⟨rfl, ih hds hchain⟩

theorem isRun_reverse_iff {a : Place} {cs : List Node} :
    IsRun a cs.reverse ↔ cs <+: a.earlier.filter (·.info.named) ∧
      (a.node :: cs).IsChain fun next c => LeadsUpTo c next := by
  have hbefore : cs.reverse <:+ siblingsBefore a ↔ cs <+: a.earlier.filter (·.info.named) := by
    rw [siblingsBefore, List.filter_reverse, List.reverse_suffix]
  have hchain : (cs.reverse ++ [a.node]).IsChain LeadsUpTo ↔
      (a.node :: cs).IsChain fun next c => LeadsUpTo c next := by
    rw [← List.reverse_cons, List.isChain_reverse]
  constructor
  · rintro ⟨h, h'⟩
    exact ⟨hbefore.mp h, hchain.mp h'⟩
  · rintro ⟨h, h'⟩
    exact ⟨hbefore.mpr h, hchain.mpr h'⟩

/-- The attached comments, in the order of the source, are the longest run before the anchor. -/
theorem isLongestRun_attached (p : Place) :
    IsLongestRun (anchor p) (attached p).reverse := by
  refine ⟨isRun_reverse_iff.mpr ⟨run_isPrefix _ _, run_isChain _ _⟩, ?_⟩
  intro ds hds
  rw [← List.reverse_reverse ds] at hds
  obtain ⟨hfront, hchain⟩ := isRun_reverse_iff.mp hds
  have hlength := (prefix_run hfront hchain).length_le
  simpa [attached] using hlength

/-- A blank line in front of a sibling ends the run there. -/
theorem IsRun.suffix_of_gap {a : Place} {cs front back rest : List Node} {c next : Node}
    (h : IsRun a cs) (hsplit : siblingsBefore a = front ++ c :: back)
    (hnext : back ++ [a.node] = next :: rest) (hgap : ¬ LeadsUpTo c next) : cs <:+ back := by
  obtain ⟨hbefore, hchain⟩ := h
  rw [hsplit] at hbefore
  have hback : back <:+ front ++ c :: back := ⟨front ++ [c], by simp⟩
  by_contra hnot
  -- A longer run would have the sibling in front of the next node as one of its comments.
  have hlonger : c :: back <:+ cs := by
    refine List.suffix_of_suffix_length_le (List.suffix_append front (c :: back)) hbefore ?_
    by_contra hshort
    refine hnot (List.suffix_of_suffix_length_le hbefore hback ?_)
    simp only [List.length_cons] at hshort
    omega
  obtain ⟨others, rfl⟩ := hlonger
  have hhere : others ++ c :: back ++ [a.node] = others ++ c :: next :: rest := by
    simp [← hnext]
  rw [hhere, List.isChain_append_cons_cons] at hchain
  exact hgap hchain.2.1

/-! ## Reading the comments -/

/-- The texts of nodes in a source. -/
def Reads (source : List UInt8) (ns : List Node) (texts : List (List Char)) : Prop :=
  List.Forall₂ (fun n text => decodeChars (Syntax.slice source n.info.start n.info.stop) = .ok text)
    ns texts

theorem reads_iff {source : List UInt8} {ns : List Node} {texts : List (List Char)} :
    Reads source ns texts ↔ ns.map (fun n =>
      decodeChars (Syntax.slice source n.info.start n.info.stop)) = texts.map .ok := by
  rw [Reads, ← List.forall₂_eq_eq_eq, List.forall₂_map_left_iff, List.forall₂_map_right_iff]

theorem preceding_of_reads {source : List UInt8} {p : Place} {texts : List (List Char)}
    (h : Reads source (attached p).reverse texts) :
    preceding source p = .ok (match texts.filter isDocComment with
      | [] => none
      | docs => some (String.ofList (Text.joinWith ['\n'] (docs.map clean)))) := by
  have hreverse : (attached p).map (fun n =>
      decodeChars (Syntax.slice source n.info.start n.info.stop)) = texts.reverse.map .ok := by
    have hmap := reads_iff.mp h
    rw [List.map_reverse] at hmap
    rw [List.map_reverse, ← hmap, List.reverse_reverse]
  rw [preceding, Outcome.mapM_eq_ok_iff.mpr hreverse, Outcome.ok_bind, List.filter_reverse]
  cases hdocs : texts.filter isDocComment with
  | nil => rfl
  | cons doc docs =>
    generalize hback : (doc :: docs).reverse = back
    cases back with
    | nil => simp at hback
    | cons last others =>
      have hdocs : (last :: others).reverse = doc :: docs := by rw [← hback, List.reverse_reverse]
      show Except.ok (some (String.ofList
        (Text.joinWith ['\n'] ((last :: others).reverse.map clean)))) = _
      rw [hdocs]

/-! ## Export statements put around a node -/

/-- Two nodes of one kind over one stretch of the source. Their identities may differ, since every
tree gives out its own. -/
structure SameStretch (n m : Node) : Prop where
  kind : n.kind = m.kind
  named : n.info.named = m.info.named
  startRow : n.startRow = m.startRow
  stopRow : n.info.stopRow = m.info.stopRow
  start : n.info.start = m.info.start
  stop : n.info.stop = m.info.stop

instance (n m : Node) : Decidable (SameStretch n m) :=
  decidable_of_iff (n.kind = m.kind ∧ n.info.named = m.info.named ∧ n.startRow = m.startRow ∧
      n.info.stopRow = m.info.stopRow ∧ n.info.start = m.info.start ∧ n.info.stop = m.info.stop)
    ⟨fun ⟨h₁, h₂, h₃, h₄, h₅, h₆⟩ => ⟨h₁, h₂, h₃, h₄, h₅, h₆⟩,
      fun ⟨h₁, h₂, h₃, h₄, h₅, h₆⟩ => ⟨h₁, h₂, h₃, h₄, h₅, h₆⟩⟩

/-- Two places with the same siblings before them and before every node around them, all of one kind
and starting in one row. What follows may differ, and so may the identities. -/
inductive Alike : Place → Place → Prop
  | root {n m : Node} : n.kind = m.kind → n.startRow = m.startRow → Alike (.root n) (.root m)
  | child {p q : Place} {earlier earlier' : List Node} {n m : Node} : Alike p q →
      List.Forall₂ SameStretch earlier earlier' → n.kind = m.kind → n.startRow = m.startRow →
      Alike (.child p earlier n) (.child q earlier' m)

/-- The second place is what the first one becomes when an export statement is put around its node
in the same row. -/
inductive Exported : Place → Place → Prop
  | root {n e m : Node} {front : List Node} : e.kind = .exportStatement → e.startRow = n.startRow →
      Exported (.root n) (.child (.root e) front m)
  | child {p q : Place} {earlier earlier' front : List Node} {n e m : Node} : Alike p q →
      List.Forall₂ SameStretch earlier earlier' → e.kind = .exportStatement →
      e.startRow = n.startRow → Exported (.child p earlier n) (.child (.child q earlier' e) front m)

theorem run_congr {row : Nat} {ns ms : List Node} (h : List.Forall₂ SameStretch ns ms) :
    List.Forall₂ SameStretch (run row ns) (run row ms) := by
  induction h generalizing row with
  | nil => exact .nil
  | cons hc _ ih =>
    rw [run, run, hc.kind, hc.stopRow, hc.startRow]
    split
    · exact .cons hc ih
    · exact .nil

theorem Alike.kind_eq {p q : Place} (h : Alike p q) : p.node.kind = q.node.kind := by
  cases h with
  | root hkind _ => exact hkind
  | child _ _ hkind _ => exact hkind

/-- The comments before a node depend on what is around it only through its anchor. -/
theorem attached_child {p q : Place} {earlier earlier' : List Node} {n m : Node}
    (hkind : p.node.kind = q.node.kind) (hearlier : List.Forall₂ SameStretch earlier earlier')
    (hrow : n.startRow = m.startRow) (h : List.Forall₂ SameStretch (attached p) (attached q)) :
    List.Forall₂ SameStretch (attached (.child p earlier n)) (attached (.child q earlier' m)) := by
  by_cases hexport : p.node.kind = .exportStatement
  · have hp : StandsIn (.child p earlier n) p := ⟨rfl, hexport⟩
    have hq : StandsIn (.child q earlier' m) q := ⟨rfl, hkind ▸ hexport⟩
    simpa only [attached, anchor_of_standsIn hp, anchor_of_standsIn hq] using h
  · have hexport' : q.node.kind ≠ .exportStatement := hkind ▸ hexport
    have hnamed : List.Forall₂ SameStretch (earlier.filter (·.info.named))
        (earlier'.filter (·.info.named)) :=
      List.rel_filter (fun _ _ hsame => iff_of_eq (congrArg (· = true) hsame.named)) hearlier
    rw [attached, attached, anchor, anchor, if_neg hexport, if_neg hexport']
    show List.Forall₂ _ (run n.startRow _) (run m.startRow _)
    rw [hrow]
    exact run_congr hnamed

theorem Alike.attached {p q : Place} (h : Alike p q) :
    List.Forall₂ SameStretch (attached p) (attached q) := by
  induction h with
  | root _ _ => exact .nil
  | child h hearlier _ hrow ih => exact attached_child h.kind_eq hearlier hrow ih

theorem Exported.attached {p wrapped : Place} (h : Exported p wrapped) :
    List.Forall₂ SameStretch (attached p) (attached wrapped) := by
  cases h with
  | @root n e m front hkind _ =>
    have hstands : StandsIn (.child (.root e) front m) (.root e) := ⟨rfl, hkind⟩
    rw [Documentation.attached, Documentation.attached, anchor_of_standsIn hstands]
    exact .nil
  | @child p q earlier earlier' front n e m halike hearlier hkind hrow =>
    have hstands : StandsIn (.child (.child q earlier' e) front m) (.child q earlier' e) :=
      ⟨rfl, hkind⟩
    have hsame := attached_child halike.kind_eq hearlier hrow.symm halike.attached
    rwa [Documentation.attached, Documentation.attached, anchor_of_standsIn hstands]

theorem preceding_congr {source source' : List UInt8} {p q : Place}
    (h : List.Forall₂ SameStretch (attached p) (attached q))
    (hsame : ∀ c ∈ attached p, Syntax.slice source' c.info.start c.info.stop =
      Syntax.slice source c.info.start c.info.stop) :
    preceding source' q = preceding source p := by
  have hread : ∀ ns ms, List.Forall₂ SameStretch ns ms →
      (∀ c ∈ ns, Syntax.slice source' c.info.start c.info.stop =
        Syntax.slice source c.info.start c.info.stop) →
      ms.mapM (fun n => decodeChars (Syntax.slice source' n.info.start n.info.stop)) =
        ns.mapM fun n => decodeChars (Syntax.slice source n.info.start n.info.stop) := by
    intro ns ms hns hslices
    induction hns with
    | nil => rfl
    | cons hc _ ih =>
      have hhead := hslices _ List.mem_cons_self
      have hrest := ih fun c hc => hslices c (List.mem_cons_of_mem _ hc)
      rw [List.mapM_cons, List.mapM_cons, ← hc.start, ← hc.stop, hhead, hrest]
  rw [preceding, preceding, hread _ _ h hsame]

/-! ## The documentation of a place -/

/-- **The comments right before a place document it.** Every place has an anchor and before it a
longest run of comments. If the texts of the run decode, then there is no documentation exactly if
none of them is a doc comment, and otherwise it is made of the doc comments among them, in their
order. An export statement put around the place in the same row changes nothing, and a blank line
after a sibling cuts off this sibling and all before it. -/
theorem preceding_adjacent {root : Node} {p : Place} (hp : Within root p) (source : List UInt8) :
    (∃ a cs, IsAnchor p a ∧ IsLongestRun a cs) ∧
      ∀ a cs, IsAnchor p a → IsLongestRun a cs →
        (Within root a ∧ ∀ q, a.parent? = some q →
          ∃ after, q.node.children = a.earlier.reverse ++ a.node :: after) ∧
        (∀ texts, Reads source cs texts →
          (preceding source p = .ok none ↔ ∀ text ∈ texts, ¬ isDocComment text) ∧
          ((∃ text ∈ texts, isDocComment text) →
            preceding source p = .ok (some (String.ofList
              (Text.joinWith ['\n'] ((texts.filter isDocComment).map clean)))))) ∧
        (∀ wrapped source', Exported p wrapped →
          (∀ c ∈ cs, Syntax.slice source' c.info.start c.info.stop =
            Syntax.slice source c.info.start c.info.stop) →
          preceding source' wrapped = preceding source p) ∧
        ∀ front c back next rest, siblingsBefore a = front ++ c :: back →
          back ++ [a.node] = next :: rest → c.info.stopRow + 1 < next.startRow → cs <:+ back := by
  refine ⟨⟨anchor p, _, isAnchor_anchor p, isLongestRun_attached p⟩, ?_⟩
  intro a cs ha hcs
  obtain rfl := ha.eq
  obtain rfl : cs = (attached p).reverse := (isLongestRun_attached p).unique hcs
  refine ⟨⟨within_anchor hp, fun q hq => (within_anchor hp).children_eq hq⟩, ?_, ?_, ?_⟩
  · intro texts htexts
    have hdocs : (∀ text ∈ texts, ¬ isDocComment text) ↔ texts.filter isDocComment = [] := by
      rw [List.filter_eq_nil_iff]
    rw [preceding_of_reads htexts, hdocs]
    constructor
    · cases texts.filter isDocComment <;> simp
    · rintro ⟨text, htext, hdoc⟩
      have hmem : text ∈ texts.filter isDocComment := List.mem_filter.mpr ⟨htext, hdoc⟩
      cases hfound : texts.filter isDocComment with
      | nil =>
        rw [hfound] at hmem
        cases hmem
      | cons doc docs => rfl
  · intro wrapped source' hexported hsame
    refine preceding_congr hexported.attached fun c hc => hsame c ?_
    exact List.mem_reverse.mpr hc
  · intro front c back next rest hsplit hnext hgap
    refine hcs.1.suffix_of_gap hsplit hnext ?_
    rintro ⟨-, hrow⟩
    omega

/-- The comments of the sources below. -/
def notes : List Sketch :=
  [.leaf .comment 0 10, .leaf .comment 12 20, .leaf .comment 21 25, .leaf .comment 26 34]

/-- An enum without members that starts at an offset. -/
def bareEnum (start : Nat) : Sketch :=
  .inner .enumDeclaration start (start + 9)
    [.token "enum" start (start + 4), .nameLeaf (.other "identifier") (start + 5) (start + 6),
      .inner .enumBody (start + 7) (start + 9)
        [.token "\x7b" (start + 7) (start + 8), .token "\x7d" (start + 8) (start + 9)]]

/-- Comments before an enum, the first one above a blank line. -/
def plainSource : List UInt8 :=
  Text.Utf8.encode "/** old */\n\n/** a */\n// b\n/** c */ enum E \x7b\x7d"

/-- The tree of `plainSource`. -/
def plainTree : Node :=
  (Sketch.place plainSource 0 (.inner (.other "program") 0 44 (notes ++ [bareEnum 35]))).1

/-- The same with an exported enum. -/
def exportedSource : List UInt8 :=
  Text.Utf8.encode "/** old */\n\n/** a */\n// b\n/** c */ export enum E \x7b\x7d"

/-- The tree of `exportedSource`. -/
def exportedTree : Node :=
  (Sketch.place exportedSource 0 (.inner (.other "program") 0 51
    (notes ++ [.inner .exportStatement 35 51 [.token "export" 35 41, bareEnum 42]]))).1

/-- The place of the last child. -/
def lastChild (p : Place) : Place :=
  .child p p.node.children.dropLast.reverse (p.node.children.getLastD p.node)

/-- The enum of `plainTree`. -/
def plainEnum : Place := lastChild (.root plainTree)

/-- The enum of `exportedTree`. -/
def exportedEnum : Place := lastChild (lastChild (.root exportedTree))

theorem within_lastChild {root : Node} (h : root.children ≠ []) :
    Within root (lastChild (.root root)) := by
  have hchildren : root.children = root.children.dropLast ++ [root.children.getLastD root] := by
    rw [← List.dropLast_append_getLast h]
    simp
  exact .child_of_children .self hchildren

theorem isAnchor_lastChild {p : Place} (h : p.node.kind ≠ .exportStatement) :
    IsAnchor (lastChild p) (lastChild p) := by
  refine ⟨.refl, ?_⟩
  rintro q ⟨hparent, hexport⟩
  obtain rfl := Option.some.inj hparent
  exact h hexport

theorem IsAnchor.isLongestRun {a : Place} (h : IsAnchor a a) :
    IsLongestRun a (attached a).reverse := by
  nth_rewrite 1 [h.eq]
  exact isLongestRun_attached a

theorem exported_lastChild {t t' : Node} (h : Alike (.root t) (.root t'))
    (hearlier : List.Forall₂ SameStretch t.children.dropLast.reverse t'.children.dropLast.reverse)
    (hexport : (lastChild (.root t')).node.kind = .exportStatement)
    (hstart : (lastChild (.root t')).node.startRow = (lastChild (.root t)).node.startRow) :
    Exported (lastChild (.root t)) (lastChild (lastChild (.root t'))) :=
  .child h hearlier hexport hstart

theorem preceding_adjacent_enum :
    IsAnchor plainEnum plainEnum ∧
      IsLongestRun plainEnum ((plainTree.children.drop 1).take 3) ∧
      Exported plainEnum exportedEnum ∧
      preceding plainSource plainEnum = .ok (some "a\nc") ∧
      preceding exportedSource exportedEnum = .ok (some "a\nc") := by
  have hanchor : IsAnchor plainEnum plainEnum := isAnchor_lastChild (by decide +kernel)
  have hrun : IsLongestRun plainEnum ((plainTree.children.drop 1).take 3) := by
    have hattached : (attached plainEnum).reverse = (plainTree.children.drop 1).take 3 := by
      decide +kernel
    exact hattached ▸ hanchor.isLongestRun
  have hexported : Exported plainEnum exportedEnum :=
    exported_lastChild (.root (by decide +kernel) (by decide +kernel)) (by decide +kernel)
      (by decide +kernel) (by decide +kernel)
  have hwithin : Within plainTree plainEnum := within_lastChild (by decide +kernel)
  have htexts : Reads plainSource ((plainTree.children.drop 1).take 3)
      ["/** a */".toList, "// b".toList, "/** c */".toList] :=
    reads_iff.mpr (by decide +kernel)
  obtain ⟨-, hdocs, hsame, -⟩ := (preceding_adjacent hwithin plainSource).2 _ _ hanchor hrun
  have hplain : preceding plainSource plainEnum = .ok (some "a\nc") :=
    ((hdocs _ htexts).2 (by decide +kernel)).trans (by decide +kernel)
  refine ⟨hanchor, hrun, hexported, hplain, ?_⟩
  rw [hsame exportedEnum exportedSource hexported (by decide +kernel), hplain]

end ApiDecl.Documentation
