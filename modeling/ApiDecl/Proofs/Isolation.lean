import ApiDecl.Proofs.Additions
import ApiDecl.Proofs.Reader

/-!
# Files are read independently

All files of a corpus share one table, and an addition that fails leaves some of its symbols there.
When no two nodes of the added trees share an identity, this makes no difference to a reading: the
table of the corpus agrees with the table of a file on its own at all nodes of that file
(`agreeOn_alone`), and a builder reads the table nowhere else.

* `readSelected_eq_concat` (no assumption): a reading is made of blocks, one for each file.
* `outcome_readCorpus_blocks`: the blocks of a corpus are the readings of its files, each in a
  corpus of its own.
* `readCorpus_isolated`: the result is the concatenation of these readings, or the first error of
  one of them; the order of the additions only moves the blocks, and a failed addition does not
  count.
-/

namespace ApiDecl

open Syntax (Node)
open Binding (bindFile)
open Corpus (Addition ofAdditions userFile levelFile brokenFile namelessFile)

namespace Corpus

/-! ## The table of a corpus -/

/-- No two nodes of the trees that are added share an identity. -/
def DistinctIds (as : List Addition) : Prop :=
  ((as.flatMap (·.root.nodes)).map (·.info.id)).Nodup

instance (as : List Addition) : Decidable (DistinctIds as) :=
  inferInstanceAs (Decidable ((as.flatMap (·.root.nodes)).map (·.info.id)).Nodup)

/-- The corpus of one file. -/
def alone (f : SourceFile) : Corpus := (Corpus.empty.add f.path f.root f.source).1

theorem table_alone (a : Addition) :
    (alone a.file).table = (bindFile .empty a.root a.source).1 := by
  change (Corpus.empty.add a.path a.root a.source).1.table = _
  rw [(add_eq _ a).1]
  rfl

theorem files_alone (a : Addition) : (alone a.file).files = a.file?.toList := by
  change (Corpus.empty.add a.path a.root a.source).1.files = _
  rw [(add_eq _ a).1]
  rfl

/-- Additions, even failed ones, change no key outside their trees. -/
theorem find?_addAll_of_ne {c : Corpus} {as : List Addition} {key : NodeKey}
    (h : ∀ a ∈ as, ∀ n ∈ a.root.nodes, key ≠ .ofNode n) :
    (c.addAll as).1.table.find? key = c.table.find? key := by
  induction as generalizing c with
  | nil => rfl
  | cons a rest ih =>
    rw [addAll_cons, ih fun b hb => h b (List.mem_cons_of_mem _ hb), (add_eq c a).1]
    exact Binding.find?_bindFile_of_ne _ _ _ (h a List.mem_cons_self)

theorem DistinctIds.perm {as bs : List Addition} (h : DistinctIds as) (hp : bs.Perm as) :
    DistinctIds bs :=
  ((hp.flatMap_right _).map _).nodup_iff.mpr h

theorem DistinctIds.tail {a : Addition} {as : List Addition} (h : DistinctIds (a :: as)) :
    DistinctIds as := by
  rw [DistinctIds, List.flatMap_cons, List.map_append, List.nodup_append] at h
  exact h.2.1

theorem DistinctIds.ne {as bs : List Addition} {a : Addition} (h : DistinctIds (as ++ a :: bs))
    {n : Node} (hn : n ∈ a.root.nodes) :
    ∀ b ∈ as ++ bs, ∀ m ∈ b.root.nodes, NodeKey.ofNode n ≠ .ofNode m := by
  intro b hb m hm hkey
  have hid : n.info.id = m.info.id := (NodeKey.mk.inj hkey).1
  have hnodup := h.perm List.perm_middle.symm
  rw [DistinctIds, List.flatMap_cons, List.map_append, List.nodup_append] at hnodup
  exact hnodup.2.2 _ (List.mem_map_of_mem hn) _
    (List.mem_map_of_mem (List.mem_flatMap.mpr ⟨b, hb, hm⟩)) hid

/-- At the nodes of one tree, the table of a corpus is the table of that tree on its own. -/
theorem agreeOn_alone {as bs : List Addition} {a : Addition} (h : DistinctIds (as ++ a :: bs)) :
    Reading.AgreeOn (ofAdditions (as ++ a :: bs)).table (alone a.file).table a.root := by
  intro n hn
  have hne := h.ne hn
  have hbefore : (Corpus.empty.addAll as).1.table.find? (.ofNode n) =
      Corpus.empty.table.find? (.ofNode n) :=
    find?_addAll_of_ne fun b hb => hne b (List.mem_append_left _ hb)
  rw [SymbolTable.symbolAt, SymbolTable.symbolAt, ofAdditions, addAll_append, addAll_cons,
    find?_addAll_of_ne fun b hb => hne b (List.mem_append_right _ hb), (add_eq _ a).1, table_alone]
  simp only [bindFile, Binding.bindSites_table]
  exact SymbolTable.find?_bindAll_congr _ hbefore

end Corpus

namespace Reading

open Corpus (alone)
open Pattern (CharacterNames)

/-! ## Readings in blocks -/

/-- The results one after the other. -/
def Result.concat (rs : List Result) : Result :=
  { files := rs.flatMap (·.files)
    model :=
      { interfaces := rs.flatMap (·.model.interfaces)
        enums := rs.flatMap (·.model.enums) } }

/-- Build all declarations of files. -/
def buildAll (t : SymbolTable) (files : List SourceFile) : Except ReadError (List Model.Entity) :=
  (files.flatMap fun f => declarations f.root).mapM fun n => (buildEntity t .bound n).outcome

/-- Read files that have been selected. -/
def readSelected (t : SymbolTable) (files : List SourceFile) : Except ReadError Result :=
  (fun entities => ⟨files.map (·.path), ⟨interfacesOf entities, enumsOf entities⟩⟩) <$>
    buildAll t files

theorem readCorpus_eq_readSelected [CharacterNames] {c : Corpus}
    {inclusion exclusion : Option String} {s : Selection}
    (hs : selectionOf inclusion exclusion = .ok s) :
    (readCorpus c inclusion exclusion).outcome =
      (readSelected c.table (selected s c)).mapError ReaderError.read := by
  rw [outcome_readCorpus hs, readSelected]
  change Except.map _ (Except.mapError _ (buildAll c.table (selected s c))) = _
  cases buildAll c.table (selected s c) <;> rfl

/-- Reading two lists of files is reading the one and then the other. -/
theorem readSelected_append (t : SymbolTable) (fs gs : List SourceFile) :
    readSelected t (fs ++ gs) = do
      let r ← readSelected t fs
      let q ← readSelected t gs
      return Result.concat [r, q] := by
  have hbuild : buildAll t (fs ++ gs) = do
      let es ← buildAll t fs
      let es' ← buildAll t gs
      return es ++ es' := by
    simp only [buildAll, List.flatMap_append, List.mapM_append]
  simp only [readSelected, hbuild, List.map_append]
  cases buildAll t fs with
  | error e => rfl
  | ok es =>
    cases buildAll t gs with
    | error e => rfl
    | ok es' =>
      change Except.ok (Result.mk _ ⟨interfacesOf (es ++ es'), enumsOf (es ++ es')⟩) =
        .ok (Result.concat _)
      simp [Result.concat, interfacesOf, enumsOf]

theorem concat_cons (r : Result) (rs : List Result) :
    Result.concat (r :: rs) = Result.concat [r, Result.concat rs] := by
  simp [Result.concat]

/-- A reading is made of blocks, one for each file. A file that is not selected has an empty one. -/
theorem readSelected_eq_concat (t : SymbolTable) (admitted : SourceFile → Bool)
    (files : List SourceFile) :
    readSelected t (files.filter admitted) =
      Result.concat <$> files.mapM fun f => readSelected t ([f].filter admitted) := by
  induction files with
  | nil => rfl
  | cons f rest ih =>
    have hsplit : (f :: rest).filter admitted = [f].filter admitted ++ rest.filter admitted := by
      rw [← List.filter_append]
      rfl
    rw [hsplit, readSelected_append, ih, List.mapM_cons]
    cases readSelected t ([f].filter admitted) with
    | error e => rfl
    | ok r =>
      cases rest.mapM fun f => readSelected t ([f].filter admitted) with
      | error e => rfl
      | ok rs =>
        change Except.ok (Result.concat [r, Result.concat rs]) = .ok (Result.concat (r :: rs))
        rw [concat_cons r rs]

theorem readSelected_congr {t u : SymbolTable} {files : List SourceFile}
    (h : ∀ f ∈ files, AgreeOn t u f.root) : readSelected t files = readSelected u files := by
  unfold readSelected buildAll
  refine congrArg _ (Outcome.mapM_congr fun n hn => ?_)
  obtain ⟨f, hf, hn⟩ := List.mem_flatMap.mp hn
  rw [buildEntity_congr ((h f hf).of_mem (List.mem_filter.mp hn).1)]

/-! ## Each file on its own -/

/-- The reading of a file in a corpus of its own. -/
def readAlone [CharacterNames] (inclusion exclusion : Option String) (f : SourceFile) :
    Except ReaderError Result :=
  (readCorpus (alone f) inclusion exclusion).outcome

/-- Every file of the corpus comes from an addition that succeeded. -/
theorem exists_addition_of_mem_files {as : List Addition} {f : SourceFile}
    (h : f ∈ (ofAdditions as).files) :
    ∃ before a after, as = before ++ a :: after ∧ f = a.file ∧ (alone f).files = [f] := by
  rw [Corpus.files_ofAdditions, Corpus.added_eq] at h
  obtain ⟨a, ha, hfile⟩ := List.mem_filterMap.mp h
  obtain ⟨before, after, rfl⟩ := List.append_of_mem ha
  have hf : f = a.file := by
    unfold Addition.file? at hfile
    split at hfile
    · exact (Option.some.inj hfile).symm
    · cases hfile
  subst hf
  exact ⟨before, a, after, rfl, rfl, by rw [Corpus.files_alone, hfile]; rfl⟩

/-- The blocks of a corpus are the readings of its files, each in a corpus of its own. -/
theorem outcome_readCorpus_blocks [CharacterNames] {as : List Addition}
    (hids : Corpus.DistinctIds as) {inclusion exclusion : Option String} {s : Selection}
    (hs : selectionOf inclusion exclusion = .ok s) :
    (readCorpus (ofAdditions as) inclusion exclusion).outcome =
      Result.concat <$> (Corpus.empty.added as).mapM (readAlone inclusion exclusion) := by
  rw [← Corpus.files_ofAdditions]
  have hblock : ∀ f ∈ (ofAdditions as).files, readAlone inclusion exclusion f =
      (readSelected (ofAdditions as).table ([f].filter fun f => s.admits f.path)).mapError
        ReaderError.read := by
    intro f hf
    obtain ⟨before, a, after, rfl, rfl, halone⟩ := exists_addition_of_mem_files hf
    rw [readAlone, readCorpus_eq_readSelected hs, selected, halone]
    refine congrArg _ (readSelected_congr fun g hg => ?_)
    obtain rfl := List.mem_singleton.mp (List.mem_filter.mp hg).1
    exact fun n hn => (Corpus.agreeOn_alone hids n hn).symm
  rw [Outcome.mapM_congr hblock, Outcome.mapM_mapError, readCorpus_eq_readSelected hs, selected,
    readSelected_eq_concat]
  cases (ofAdditions as).files.mapM fun f =>
    readSelected (ofAdditions as).table ([f].filter fun f => s.admits f.path) <;> rfl

/-- The result over a corpus, when each of its files can be read on its own. -/
theorem readCorpus_eq_concat [CharacterNames] {as : List Addition} (hids : Corpus.DistinctIds as)
    {inclusion exclusion : Option String} {s : Selection}
    (hs : selectionOf inclusion exclusion = .ok s) {rs : List Result}
    (hrs : (Corpus.empty.added as).map (readAlone inclusion exclusion) = rs.map .ok) :
    (readCorpus (ofAdditions as) inclusion exclusion).outcome = .ok (Result.concat rs) := by
  rw [outcome_readCorpus_blocks hids hs, Outcome.mapM_eq_ok_iff.mpr hrs]
  rfl

/-- **Files are read independently.** Let no two nodes of the added trees share an identity, and let
some additions fail.

When every file that was added can be read in a corpus of its own, the result over the corpus is
made of these results, in the order of the additions. Otherwise the reading fails with the error of
the first file that cannot be read on its own. Another order of the additions gives the same blocks
in another order, and a failed addition does not change the reading. -/
theorem readCorpus_isolated [CharacterNames] {as : List Addition} (hids : Corpus.DistinctIds as)
    {inclusion exclusion : Option String} {s : Selection}
    (hs : selectionOf inclusion exclusion = .ok s) :
    (∀ rs, (Corpus.empty.added as).map (readAlone inclusion exclusion) = rs.map .ok →
      (readCorpus (ofAdditions as) inclusion exclusion).outcome = .ok (Result.concat rs)) ∧
    ((∃ f ∈ Corpus.empty.added as, ∀ r, readAlone inclusion exclusion f ≠ .ok r) →
      ∃ before f after error, Corpus.empty.added as = before ++ f :: after ∧
        (∀ g ∈ before, ∃ r, readAlone inclusion exclusion g = .ok r) ∧
        readAlone inclusion exclusion f = .error error ∧
        (readCorpus (ofAdditions as) inclusion exclusion).outcome = .error error) ∧
    (∀ bs, bs.Perm as → (Corpus.empty.added bs).Perm (Corpus.empty.added as) ∧
      ∀ rs, (Corpus.empty.added as).map (readAlone inclusion exclusion) = rs.map .ok →
        ∃ qs, (Corpus.empty.added bs).map (readAlone inclusion exclusion) = qs.map .ok ∧
          qs.Perm rs ∧
          (readCorpus (ofAdditions bs) inclusion exclusion).outcome = .ok (Result.concat qs)) ∧
    (∀ before a after error, as = before ++ a :: after →
      ((ofAdditions before).add a.path a.root a.source).2.outcome = .error error →
      (readCorpus (ofAdditions as) inclusion exclusion).outcome =
        (readCorpus (ofAdditions (before ++ after)) inclusion exclusion).outcome) := by
  refine ⟨fun rs hrs => readCorpus_eq_concat hids hs hrs, fun hfails => ?_, fun bs hp => ?_, ?_⟩
  · obtain ⟨before, f, after, error, hsplit, hbefore, hf⟩ := Outcome.exists_first_error hfails
    refine ⟨before, f, after, error, hsplit, hbefore, hf, ?_⟩
    rw [outcome_readCorpus_blocks hids hs, hsplit, Outcome.mapM_of_first_error hbefore hf]
    rfl
  · have hadded := Corpus.added_perm Corpus.empty hp
    refine ⟨hadded, fun rs hrs => ?_⟩
    have hblocks : ((Corpus.empty.added bs).map (readAlone inclusion exclusion)).Perm
        (rs.map .ok) := hrs ▸ hadded.map _
    -- A list that is a permutation of successes is a list of successes.
    obtain ⟨qs, hqs, hperm⟩ :=
      (congrFun₂ (List.eq_map_comp_perm Except.ok) _ rs).mpr hblocks
    exact ⟨qs, hqs, hperm, readCorpus_eq_concat (hids.perm hp) hs hqs⟩
  · rintro before a after error rfl hfails
    have hids' : Corpus.DistinctIds (before ++ after) := (hids.perm List.perm_middle.symm).tail
    rw [outcome_readCorpus_blocks hids hs, outcome_readCorpus_blocks hids' hs,
      Corpus.added_of_error hfails]

/-- The enum whose binding fails halfway leaves no trace between the interface and the enum, in
either order. An interface without a name fails as it does alone. -/
theorem readCorpus_isolated_small :
    Corpus.DistinctIds [userFile, brokenFile, levelFile, namelessFile] ∧
      (∃ s, selectionOf none none = .ok s) ∧
      (∃ error, ((ofAdditions [userFile]).add brokenFile.path brokenFile.root
        brokenFile.source).2.outcome = .error error) ∧
      (readCorpus (ofAdditions [userFile, brokenFile, levelFile]) none none).outcome =
        (readCorpus (ofAdditions [userFile, levelFile]) none none).outcome ∧
      (∃ rs qs, (Corpus.empty.added [userFile, brokenFile, levelFile]).map (readAlone none none) =
          rs.map .ok ∧
        (readCorpus (ofAdditions [userFile, brokenFile, levelFile]) none none).outcome =
          .ok (Result.concat rs) ∧
        qs.Perm rs ∧
        (readCorpus (ofAdditions [levelFile, userFile, brokenFile]) none none).outcome =
          .ok (Result.concat qs)) ∧
      ∃ f ∈ Corpus.empty.added [userFile, brokenFile, namelessFile], ∃ error,
        readAlone none none f = .error error ∧
        (readCorpus (ofAdditions [userFile, brokenFile, namelessFile]) none none).outcome =
          .error error := by
  have hids : Corpus.DistinctIds [userFile, brokenFile, levelFile] := by decide
  have hids' : Corpus.DistinctIds [userFile, brokenFile, namelessFile] := by decide
  obtain ⟨s, hs⟩ : ∃ s, selectionOf none none = .ok s := Outcome.isOk_iff.mp (by decide +kernel)
  obtain ⟨error, herror⟩ : ∃ error, ((ofAdditions [userFile]).add brokenFile.path brokenFile.root
      brokenFile.source).2.outcome = .error error :=
    Outcome.isOk_eq_false_iff.mp (by decide +kernel)
  have hreads : ∀ f ∈ Corpus.empty.added [userFile, brokenFile, levelFile],
      (readAlone none none f).isOk := by decide +kernel
  obtain ⟨rs, hrs⟩ := Outcome.exists_map_eq fun f hf => Outcome.isOk_iff.mp (hreads f hf)
  have hfails : ∃ f ∈ Corpus.empty.added [userFile, brokenFile, namelessFile],
      ∀ r, readAlone none none f ≠ .ok r := by
    have hcheck : ∃ f ∈ Corpus.empty.added [userFile, brokenFile, namelessFile],
        ¬ (readAlone none none f).isOk := by decide +kernel
    obtain ⟨f, hf, hnot⟩ := hcheck
    exact ⟨f, hf, fun r hr => hnot (Outcome.isOk_iff.mpr ⟨r, hr⟩)⟩
  obtain ⟨hconcat, -, hperm, hfailed⟩ := readCorpus_isolated hids hs
  have hmoved : ([levelFile] ++ [userFile, brokenFile]).Perm
      ([userFile, brokenFile] ++ [levelFile]) := List.perm_append_comm
  obtain ⟨qs, -, hqs, hread⟩ := (hperm _ hmoved).2 rs hrs
  obtain ⟨before, f, after, error', hsplit, -, hf, hread'⟩ :=
    (readCorpus_isolated hids' hs).2.1 hfails
  exact ⟨by decide, ⟨s, hs⟩, ⟨error, herror⟩,
    hfailed [userFile] brokenFile [levelFile] error rfl herror,
    ⟨rs, qs, hrs, hconcat rs hrs, hqs, hread⟩, f, by simp [hsplit], error', hf, hread'⟩

end Reading

end ApiDecl
