import ApiDecl.Proofs.Additions
import ApiDecl.Proofs.Reader
import ApiDecl.Proofs.Utf8

/-!
# Well encoded files fail in two ways only

A file is well encoded if its bytes are those of a text and its nodes start and end between the
characters of this text. What a node covers is then a text again, so nothing that is decoded on the
way can fail: not a name, a comment, a keyword, a reference or an unrecognized type.

* `WellEncoded.decodes`: the bytes between the offsets of a node are a text.
* `WellEncoded.preceding`: the comments before a place are read from the source and not from nodes
  below the place. They are earlier siblings of the place or of a statement around it, and so nodes
  of the same tree.
* `readCorpus_errors_closed`: additions succeed, and a reading fails on a name or a wrapper only.
-/

namespace ApiDecl

open Syntax (Node Place)
open Syntax.Place (Within)
open Text.Utf8 (Boundary encodeChars decodeChars)
open Outcome (FailsOnly failsOnly_ok failsOnly_false_iff)

/-! ## The comments of a place -/

namespace Documentation

theorem mem_of_mem_run {row : Nat} {ns : List Node} {n : Node} (h : n ∈ run row ns) : n ∈ ns := by
  induction ns generalizing row with
  | nil => simp [run] at h
  | cons m rest ih =>
    rw [run] at h
    split at h
    · rcases List.mem_cons.mp h with rfl | h
      · exact List.mem_cons_self
      · exact List.mem_cons_of_mem _ (ih h)
    · simp at h

theorem within_anchor {root : Node} {p : Place} (h : Within root p) : Within root (anchor p) := by
  induction p with
  | root n => exact h
  | child parent earlier n ih =>
    rw [anchor]
    split
    · exact ih h.parent
    · exact h

theorem mem_nodes_of_mem_attached {root n : Node} {p : Place} (hp : Within root p)
    (h : n ∈ attached p) : n ∈ root.nodes :=
  (within_anchor hp).earlier_mem (List.mem_filter.mp (mem_of_mem_run h)).1

end Documentation

/-! ## Trees over a text -/

/-- The source is the encoding of a text, and every node of the tree covers the bytes between two
boundaries of its characters. -/
def WellEncoded (source : List UInt8) (root : Node) : Prop :=
  ∃ cs, source = encodeChars cs ∧ ∀ n ∈ root.nodes,
    Boundary cs n.info.start ∧ Boundary cs n.info.stop ∧
      n.info.text = Syntax.slice source n.info.start n.info.stop

namespace WellEncoded

variable {source : List UInt8} {root : Node}

theorem decodes (h : WellEncoded source root) {n : Node} (hn : n ∈ root.nodes) :
    ∃ cs, decodeChars (Syntax.slice source n.info.start n.info.stop) = .ok cs := by
  obtain ⟨cs, rfl, hnodes⟩ := h
  obtain ⟨hstart, hstop, -⟩ := hnodes n hn
  obtain ⟨between, hslice⟩ := Text.Utf8.exists_slice_eq_encodeChars hstart hstop
  exact ⟨between, by rw [hslice, Text.Utf8.decodeChars_encodeChars]⟩

theorem decodes_text (h : WellEncoded source root) {n : Node} (hn : n ∈ root.nodes) :
    ∃ cs, decodeChars n.info.text = .ok cs := by
  obtain ⟨cs, hcs⟩ := h.decodes hn
  obtain ⟨_, _, hnodes⟩ := h
  exact ⟨cs, by rw [(hnodes n hn).2.2, hcs]⟩

theorem textOf (h : WellEncoded source root) {n : Node} (hn : n ∈ root.nodes) :
    ∃ text, Reading.textOf n = .ok text := by
  obtain ⟨cs, hcs⟩ := h.decodes_text hn
  refine ⟨String.ofList cs, ?_⟩
  rw [Reading.textOf, Node.text, Text.Utf8.decode, hcs]
  rfl

theorem declaredName (h : WellEncoded source root) {n : Node} (hn : n ∈ root.nodes) :
    ∃ name, Binding.declaredName n = .ok name := by
  obtain ⟨cs, hcs⟩ := h.decodes_text hn
  rw [Binding.declaredName, hcs, Outcome.ok_bind]
  split
  · exact ⟨_, rfl⟩
  · exact ⟨_, rfl⟩

theorem preceding (h : WellEncoded source root) {p : Place} (hp : Within root p) :
    ∃ documentation, Documentation.preceding source p = .ok documentation := by
  have hread : ∀ n ∈ Documentation.attached p,
      ∃ cs, decodeChars (Syntax.slice source n.info.start n.info.stop) = .ok cs :=
    fun n hn => h.decodes (Documentation.mem_nodes_of_mem_attached hp hn)
  obtain ⟨texts, htexts⟩ := Outcome.exists_map_eq hread
  rw [Documentation.preceding, Outcome.mapM_eq_ok_iff.mpr htexts, Outcome.ok_bind]
  split
  · exact ⟨_, rfl⟩
  · exact ⟨_, rfl⟩

/-- Every site of the tree can be declared, so binding does not stop. -/
theorem bindFile (h : WellEncoded source root) (t : SymbolTable) :
    ∃ count, (Binding.bindFile t root source).2.outcome = .ok count := by
  refine Binding.isOk_bindSites t fun s hs => ?_
  -- The name is decoded at its own node, the comments around the owner.
  obtain ⟨owner, name⟩ := s
  rw [Binding.outcome_declare]
  cases name with
  | none => exact ⟨_, rfl⟩
  | some n =>
    have hsite := Binding.mem_sites_iff.mp hs
    obtain ⟨name, hname⟩ := h.declaredName hsite.mem_nodes
    obtain ⟨documentation, hdocumentation⟩ := h.preceding hsite.within
    simp only [hname, hdocumentation, Outcome.ok_bind]
    split
    · exact ⟨_, rfl⟩
    · exact ⟨_, rfl⟩

end WellEncoded

/-! ## Readings -/

namespace Reading

open Corpus (Addition ofAdditions sizeFile levelFile namelessFile)
open Pattern (CharacterNames)

theorem classify_isOk {source : List UInt8} {root n : Node} (h : WellEncoded source root)
    (hn : n ∈ root.nodes) : ∃ kind, classify n = .ok kind :=
  failsOnly_false_iff.mp (failsOnly_classify (failsOnly_false_iff.mpr (h.textOf hn)))

theorem referenceName_isOk {source : List UInt8} {root n : Node} (h : WellEncoded source root)
    (hn : n ∈ root.nodes) : ∃ name, referenceName n = .ok name := by
  refine failsOnly_false_iff.mp (failsOnly_referenceName fun m hm => ?_)
  exact failsOnly_false_iff.mpr (h.textOf (Node.mem_nodes_trans hm hn))

/-- The file of every addition is part of the corpus. -/
theorem files_of_wellEncoded {as : List Addition} (h : ∀ a ∈ as, WellEncoded a.source a.root) :
    (ofAdditions as).files = as.map Addition.file := by
  rw [Corpus.files_ofAdditions, Corpus.added_eq, ← List.filterMap_eq_map]
  refine List.filterMap_congr fun a ha => ?_
  obtain ⟨count, hcount⟩ := (h a ha).bindFile .empty
  simp only [Addition.file?, Addition.binds, hcount, Function.comp_apply]

/-- The error is about a name that is not bound, or about the parts of a wrapper. -/
def ReadError.IsOfDeclaration : ReadError → Prop
  | .unbound _ | .arity .. => True
  | .undecodable _ => False

theorem failsOnly_declared {as : List Addition} (h : ∀ a ∈ as, WellEncoded a.source a.root)
    {s : Selection} {n : Node} (hn : n ∈ declared s (ofAdditions as)) :
    FailsOnly ReadError.IsOfDeclaration (buildEntity (ofAdditions as).table .bound n).outcome := by
  obtain ⟨f, hf, hn⟩ := List.mem_flatMap.mp hn
  have hfile := (List.mem_filter.mp hf).1
  rw [files_of_wellEncoded h] at hfile
  obtain ⟨a, ha, rfl⟩ := List.mem_map.mp hfile
  have hroot : n ∈ a.root.nodes := (List.mem_filter.mp hn).1
  refine failsOnly_buildEntity (fun _ _ _ _ => trivial) (fun _ => trivial) _ fun m hm => ?_
  obtain ⟨text, htext⟩ := (h a ha).textOf (Node.mem_nodes_trans hm hroot)
  rw [htext]
  exact failsOnly_ok text

/-- **Well encoded files fail in two ways only.** Each of them can be added to any corpus. A reading
with patterns that can be used yields a model, or fails because a name is not bound or a wrapper has
the wrong number of parts. Nothing is left that could not be decoded: names, shapes, references and
whole texts of nodes, and the comments before any place. -/
theorem readCorpus_errors_closed [CharacterNames] {as : List Addition}
    (h : ∀ a ∈ as, WellEncoded a.source a.root) :
    (∀ (c : Corpus), ∀ a ∈ as, (c.add a.path a.root a.source).2.outcome = .ok a.file) ∧
      (ofAdditions as).files = as.map Addition.file ∧
      (∀ inclusion exclusion s, selectionOf inclusion exclusion = .ok s →
        (∃ r, (readCorpus (ofAdditions as) inclusion exclusion).outcome = .ok r) ∨
        (∃ site, (readCorpus (ofAdditions as) inclusion exclusion).outcome =
          .error (.read (.unbound site))) ∨
        ∃ wrapper expected actual site,
          (readCorpus (ofAdditions as) inclusion exclusion).outcome =
            .error (.read (.arity wrapper expected actual site))) ∧
      ∀ a ∈ as,
        (∀ n ∈ a.root.nodes, (∃ name, Binding.declaredName n = .ok name) ∧
          (∃ kind, classify n = .ok kind) ∧ (∃ name, referenceName n = .ok name) ∧
          ∃ text, textOf n = .ok text) ∧
        ∀ p, Within a.root p → ∃ d, Documentation.preceding a.source p = .ok d := by
  refine ⟨fun c a ha => ?_, files_of_wellEncoded h, fun inclusion exclusion s hs => ?_,
    fun a ha => ⟨fun n hn => ?_, fun p hp => (h a ha).preceding hp⟩⟩
  · obtain ⟨count, hcount⟩ := (h a ha).bindFile .empty
    exact (Corpus.add_of_ok hcount).2
  · cases hr : (readCorpus (ofAdditions as) inclusion exclusion).outcome with
    | ok r => exact Or.inl ⟨r, rfl⟩
    | error error =>
      obtain ⟨before, n, after, e, rfl, hsplit, -, hfails⟩ := (readCorpus_eq_error_iff hs).mp hr
      have hn : n ∈ declared s (ofAdditions as) := by simp [hsplit]
      have hbuild := (failsWith_iff (isEntity_of_mem_declared hn)).mp hfails
      have hexpected := failsOnly_declared h hn e hbuild
      cases e with
      | unbound site => exact Or.inr (Or.inl ⟨site, rfl⟩)
      | arity wrapper expected actual site =>
        exact Or.inr (Or.inr ⟨wrapper, expected, actual, site, rfl⟩)
      | undecodable e => exact hexpected.elim
  · exact ⟨(h a ha).declaredName hn, classify_isOk (h a ha) hn, referenceName_isOk (h a ha) hn,
      (h a ha).textOf hn⟩

/-- Files with characters of one and of two bytes. The last one declares an interface without a
name. -/
def encodedFiles : List Addition := [sizeFile, levelFile, namelessFile]

/-- All three files are added. Without the last one they can be read, with it the reading fails, and
it fails in one of the two ways. -/
theorem readCorpus_errors_closed_nameless :
    (∀ a ∈ encodedFiles, WellEncoded a.source a.root) ∧
      (ofAdditions encodedFiles).files = encodedFiles.map Addition.file ∧
      (∃ r, (readCorpus (ofAdditions encodedFiles) none (some "nameless")).outcome = .ok r) ∧
      ((∃ site, (readCorpus (ofAdditions encodedFiles) none none).outcome =
          .error (.read (.unbound site))) ∨
        ∃ wrapper expected actual site,
          (readCorpus (ofAdditions encodedFiles) none none).outcome =
            .error (.read (.arity wrapper expected actual site))) := by
  have hencoded : ∀ a ∈ encodedFiles, WellEncoded a.source a.root := by
    simp only [encodedFiles, List.forall_mem_cons, List.not_mem_nil, false_implies, implies_true,
      and_true]
    exact ⟨⟨_, rfl, by decide +kernel⟩, ⟨_, rfl, by decide +kernel⟩, ⟨_, rfl, by decide +kernel⟩⟩
  obtain ⟨s, hs⟩ : ∃ s, selectionOf none none = .ok s := Outcome.isOk_iff.mp (by decide +kernel)
  obtain ⟨error, herror⟩ :
      ∃ e, (readCorpus (ofAdditions encodedFiles) none none).outcome = .error e :=
    Outcome.isOk_eq_false_iff.mp (by decide +kernel)
  obtain ⟨-, hfiles, hread, -⟩ := readCorpus_errors_closed hencoded
  refine ⟨hencoded, hfiles, Outcome.isOk_iff.mp (by decide +kernel), ?_⟩
  rcases hread none none s hs with ⟨r, hr⟩ | hfails
  · rw [hr] at herror
    cases herror
  · exact hfails

end Reading

end ApiDecl
