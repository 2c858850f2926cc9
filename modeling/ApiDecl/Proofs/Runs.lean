import ApiDecl.Proofs.Additions
import ApiDecl.Proofs.Files
import ApiDecl.Proofs.JsonText
import ApiDecl.Proofs.Reader
import ApiDecl.Proofs.Utf8
import ApiDecl.Run.Program

/-!
# What a run leaves behind

A run resolves its settings, loads the corpus and reads the model (`Stages`). When one of these
fails, no file has changed. When the run ends well, only its two results have changed, the model and
the report, and the directories above them are there (`Artifacts`). The two results are written one
after the other; they agree with each other and with the files that were loaded.

Nothing is said here about how syntax trees are made and YAML is read, nor about the names of
characters: the statements hold of every `TreeMaker`, `DocumentReader` and `CharacterNames`.
-/

namespace ApiDecl

open Files (FileSystem Location)
open Journal (Traced)
open Pattern (CharacterNames)
open Source (TreeMaker)
open Yaml (Document)
open Syntax (Node Place Sketch)

/-! ## Loading -/

theorem Files.declarationFiles_of_sorted {fs : FileSystem} {directory : String}
    {paths : List String}
    (hfound : (fs.lookup (fs.absolute directory)).map
      (·.declarationFiles (fs.absolute directory)) = .ok paths)
    (hsorted : paths.Pairwise fun a b => decide (a ≤ b)) :
    fs.declarationFiles directory = paths := by
  obtain ⟨t, ht, rfl⟩ := Outcome.map_eq_ok_iff.1 hfound
  unfold FileSystem.declarationFiles
  dsimp only
  rw [ht]
  exact List.mergeSort_of_pairwise hsorted

namespace Corpus

/-- A file of a corpus is what was read at a path below the directory of the corpus. -/
structure Loaded (makeTree : TreeMaker) (fs : FileSystem) (directory path : String)
    (f : SourceFile) : Prop where
  source : fs.read path = .ok f.source
  path : f.path = Path.normalize (Path.relative directory (fs.absolute path))
  root : ∃ id, f.root = ((makeTree f.source).place f.source id).1
  parseErrors : f.parseErrors = f.root.nodes.countP Node.isFault

theorem outcome_readSource (fs : FileSystem) (path : String) :
    (readSource fs path).outcome = (fs.read path).mapError LoadError.unreadable := by
  unfold readSource
  cases fs.read path <;> rfl

theorem addSketch_eq_ok {c : Corpus} {path : String} {source : List UInt8} {tree : Sketch}
    {f : SourceFile} (h : (c.addSketch path source tree).2.outcome = .ok f) :
    (c.addSketch path source tree).1.files = c.files ++ [f] ∧
      f = Addition.file ⟨path, (tree.place source c.nextId).1, source⟩ := by
  let a : Addition := ⟨path, (tree.place source c.nextId).1, source⟩
  let c' : Corpus := { c with nextId := (tree.place source c.nextId).2 }
  change (c'.add a.path a.root a.source).2.outcome = .ok f at h
  change (c'.add a.path a.root a.source).1.files = c.files ++ [f] ∧ f = a.file
  cases hbinds : a.binds with
  | error e =>
    rw [(add_of_error hbinds).2] at h
    cases h
  | ok count =>
    obtain ⟨hadded, hfile⟩ := add_of_ok (c := c') hbinds
    rw [hfile] at h
    obtain rfl := Except.ok.inj h
    rw [hadded]
    exact ⟨rfl, rfl⟩

theorem addFile_eq_ok {makeTree : TreeMaker} {fs : FileSystem} {directory path : String}
    {c c' : Corpus} (h : (addFile makeTree fs directory c path).outcome = .ok c') :
    ∃ f, c'.files = c.files ++ [f] ∧ Loaded makeTree fs directory path f := by
  unfold addFile at h
  simp only [Traced.outcome_bind, outcome_readSource] at h
  obtain ⟨source, hsource, h⟩ := Outcome.bind_eq_ok_iff.1 h
  obtain ⟨tree, htree, h⟩ := Outcome.bind_eq_ok_iff.1 h
  obtain rfl : makeTree source = tree := Except.ok.inj htree
  obtain ⟨-, -, h⟩ := Outcome.bind_eq_ok_iff.1 h
  obtain ⟨f, hf, h⟩ := Outcome.bind_eq_ok_iff.1 h
  obtain rfl := Except.ok.inj h
  obtain ⟨hfiles, rfl⟩ := addSketch_eq_ok (Outcome.mapError_eq_ok_iff.1 hf)
  exact ⟨_, hfiles, Outcome.mapError_eq_ok_iff.1 hsource, rfl, ⟨c.nextId, rfl⟩,
    Place.countFaults_eq _⟩

theorem foldlM_addFile_eq_ok {makeTree : TreeMaker} {fs : FileSystem} {directory : String}
    {paths : List String} {c c' : Corpus}
    (h : (paths.foldlM (addFile makeTree fs directory) c).outcome = .ok c') :
    ∃ added, c'.files = c.files ++ added ∧
      List.Forall₂ (Loaded makeTree fs directory) paths added := by
  induction paths generalizing c with
  | nil =>
    obtain rfl := Except.ok.inj h
    exact ⟨[], (List.append_nil _).symm, .nil⟩
  | cons path paths ih =>
    rw [List.foldlM_cons, Traced.outcome_bind] at h
    obtain ⟨next, hnext, hrest⟩ := Outcome.bind_eq_ok_iff.1 h
    obtain ⟨f, hfiles, hf⟩ := addFile_eq_ok hnext
    obtain ⟨added, hadded, hall⟩ := ih hrest
    exact ⟨f :: added, by rw [hadded, hfiles, List.append_assoc, List.singleton_append],
      .cons hf hall⟩

theorem load_eq_ok {makeTree : TreeMaker} {fs : FileSystem} {directory : String} {c : Corpus}
    (h : (load fs directory none makeTree).outcome = .ok c) :
    List.Forall₂ (Loaded makeTree fs (fs.absolute directory))
      (fs.declarationFiles (fs.absolute directory)) c.files := by
  unfold load at h
  dsimp only at h
  split at h
  · cases h
  · simp only [Traced.outcome_bind] at h
    obtain ⟨paths, hpaths, h⟩ := Outcome.bind_eq_ok_iff.1 h
    obtain rfl : fs.declarationFiles (fs.absolute directory) = paths := Except.ok.inj hpaths
    obtain ⟨loaded, hloaded, h⟩ := Outcome.bind_eq_ok_iff.1 h
    obtain rfl : loaded = c := Except.ok.inj h
    obtain ⟨added, hadded, hall⟩ := foldlM_addFile_eq_ok hloaded
    rw [hadded]
    exact hall

theorem load_none (makeTree : TreeMaker) (fs : FileSystem) (directory : String) :
    (load fs directory none makeTree).outcome =
      (load fs directory (some (fs.declarationFiles (fs.absolute directory)))
        makeTree).outcome := by
  unfold load
  dsimp only
  split
  · simp only [Traced.outcome_bind, Traced.outcome_fail, Outcome.error_bind]
  · simp only [Traced.outcome_bind, discover, Traced.outcome_note, Outcome.ok_bind,
      Traced.outcome_pure]

end Corpus

/-! ## The model as text -/

namespace Model

theorem plain_ofText? (text : Option String) : (Json.ofText? text).Plain := by
  cases text with
  | none => exact .null
  | some s => exact .str s

theorem plain_list {α : Type} {toJson : α → Json} (h : ∀ a, (toJson a).Plain) (l : List α) :
    (Json.arr (l.map toJson)).Plain := by
  refine .arr fun v hv => ?_
  obtain ⟨a, -, rfl⟩ := List.mem_map.1 hv
  exact h a

theorem TypeExpr.plain_toJson (t : TypeExpr) : t.toJson.Plain := by
  induction t with
  | named name => exact .obj (by simp) (by simp [Json.Plain.str])
  | array of ih => exact .obj (by simp) (by simp [Json.Plain.str, ih])
  | map key value hkey hvalue => exact .obj (by simp) (by simp [Json.Plain.str, hkey, hvalue])
  | unresolved shape text => exact .obj (by simp) (by simp [Json.Plain.str])

theorem Property.plain_toJson (p : Property) : p.toJson.Plain :=
  .obj (by simp) (by simp [Json.Plain.str, Json.Plain.bool, plain_ofText?, p.type.plain_toJson])

theorem Interface.plain_toJson (i : Interface) : i.toJson.Plain :=
  .obj (by simp) (by simp [Json.Plain.str, plain_ofText?, plain_list Property.plain_toJson])

theorem Enum.plain_toJson (e : Enum) : e.toJson.Plain := by
  have hmember : ∀ m : EnumMember, m.toJson.Plain := fun m =>
    .obj (by simp) (by simp [Json.Plain.str, plain_ofText?])
  exact .obj (by simp) (by simp [Json.Plain.str, plain_ofText?, plain_list hmember])

theorem plain_toJson (m : Model) : m.toJson.Plain :=
  .obj (by simp)
    (by simp [plain_list Interface.plain_toJson, plain_list Enum.plain_toJson])

end Model

/-! ## Runs -/

namespace Run

open Settings (Command Config DocumentReader Environment Options)

/-- What the stages of a run have found, up to the model. -/
structure Stages [CharacterNames] (makeTree : TreeMaker) (readYaml : DocumentReader)
    (fs : FileSystem) (env : Environment) (o : Options) (r : Findings) : Prop where
  settings : (Settings.resolve fs env o readYaml).outcome = .ok r.config
  sourceDir : Settings.requireSourceDir r.config = .ok r.sourceDir
  corpus : (Corpus.load fs r.sourceDir none makeTree).outcome = .ok r.corpus
  model : (Reading.readCorpus r.corpus r.config.inclusion r.config.exclusion).outcome = .ok r.result

/-- The settings cannot be resolved, the corpus cannot be loaded or the model cannot be read. -/
inductive StageFails [CharacterNames] (makeTree : TreeMaker) (readYaml : DocumentReader)
    (fs : FileSystem) (env : Environment) (o : Options) : Prop
  | settings {e} (h : (Settings.resolve fs env o readYaml).outcome = .error e)
  | corpus {config sourceDir e}
    (hsettings : (Settings.resolve fs env o readYaml).outcome = .ok config)
    (hsource : Settings.requireSourceDir config = .ok sourceDir)
    (h : (Corpus.load fs sourceDir none makeTree).outcome = .error e)
  | model {config sourceDir corpus e}
    (hsettings : (Settings.resolve fs env o readYaml).outcome = .ok config)
    (hsource : Settings.requireSourceDir config = .ok sourceDir)
    (hcorpus : (Corpus.load fs sourceDir none makeTree).outcome = .ok corpus)
    (h : (Reading.readCorpus corpus config.inclusion config.exclusion).outcome = .error e)

section

variable {makeTree : TreeMaker} {readYaml : DocumentReader} {fs : FileSystem} {env : Environment}
  {o : Options}

theorem outcome_readAll [CharacterNames] :
    (readAll fs env o makeTree readYaml).outcome = (do
      let config ← (Settings.resolve fs env o readYaml).outcome.mapError RunError.settings
      let sourceDir ← (Settings.requireSourceDir config).mapError RunError.settings
      let corpus ← (Corpus.load fs sourceDir none makeTree).outcome.mapError RunError.load
      let result ← (Reading.readCorpus corpus config.inclusion config.exclusion).outcome.mapError
        RunError.reading
      .ok { config, sourceDir, corpus, result }) := by
  simp only [readAll, Traced.outcome_bind, Traced.outcome_mapError, Traced.outcome_inPhase,
    Traced.outcome_ofExcept, Traced.outcome_pure]

theorem readAll_eq_ok_iff [CharacterNames] {r : Findings} :
    (readAll fs env o makeTree readYaml).outcome = .ok r ↔ Stages makeTree readYaml fs env o r := by
  rw [outcome_readAll]
  constructor
  · intro h
    obtain ⟨config, hconfig, h⟩ := Outcome.bind_eq_ok_iff.1 h
    obtain ⟨sourceDir, hsource, h⟩ := Outcome.bind_eq_ok_iff.1 h
    obtain ⟨corpus, hcorpus, h⟩ := Outcome.bind_eq_ok_iff.1 h
    obtain ⟨result, hresult, h⟩ := Outcome.bind_eq_ok_iff.1 h
    obtain rfl := Except.ok.inj h
    exact ⟨Outcome.mapError_eq_ok_iff.1 hconfig, Outcome.mapError_eq_ok_iff.1 hsource,
      Outcome.mapError_eq_ok_iff.1 hcorpus, Outcome.mapError_eq_ok_iff.1 hresult⟩
  · intro h
    simp only [h.settings, h.sourceDir, h.corpus, h.model, Outcome.mapError_ok, Outcome.ok_bind]

theorem StageFails.readAll_eq_error [CharacterNames] (h : StageFails makeTree readYaml fs env o) :
    ∃ e, (readAll fs env o makeTree readYaml).outcome = .error e := by
  rw [outcome_readAll]
  cases h with
  | settings h => simp [h]
  | corpus hsettings hsource h => simp [hsettings, hsource, h]
  | model hsettings hsource hcorpus h => simp [hsettings, hsource, hcorpus, h]

variable {m : Moment}

theorem run_of_error [CharacterNames] {e : RunError}
    (h : (readAll fs env o makeTree readYaml).outcome = .error e) :
    (run fs env m o makeTree readYaml).status = 1 ∧
      (run fs env m o makeTree readYaml).files = fs := by
  simp only [run, h, and_self]

theorem run_of_ok [CharacterNames] {r : Findings}
    (h : (readAll fs env o makeTree readYaml).outcome = .ok r) :
    ((run fs env m o makeTree readYaml).status = 0 ↔ (writeAll fs m r).2.outcome = .ok ()) ∧
      (run fs env m o makeTree readYaml).files = (writeAll fs m r).1 := by
  simp only [run, h, and_true]
  cases hwritten : (writeAll fs m r).2.outcome with
  | ok u => simp [Traced.outcome_bind, hwritten]
  | error e => simp [Traced.outcome_bind, hwritten]

end

theorem writeArtifact_eq_ok {fs after : FileSystem} (hfs : fs.Rooted) {payload : Json}
    {path : String} (h : writeArtifact fs payload path = (after, .ok ())) :
    fs.Wrote (fs.location path) (Text.Utf8.encodeChars (artifactText payload)) after := by
  unfold writeArtifact at h
  split at h
  · cases h
  · next made hmade =>
    split at h
    · cases h
    · next written hwrite =>
      obtain rfl := (Prod.mk.inj h).1
      exact FileSystem.wrote_of_write hfs hmade hwrite

theorem writeReport_eq_ok {fs : FileSystem} (hfs : fs.Rooted) {members : List (String × Json)}
    {runId time directory : String}
    (h : (writeReport fs members runId time directory).2 = .ok ()) :
    fs.Wrote (fs.location (reportPath directory runId))
      (Text.Utf8.encodeChars (artifactText (.obj (reportMembers members runId time))))
      (writeReport fs members runId time directory).1 := by
  cases hwrite : writeReport fs members runId time directory with
  | mk after wrote =>
    rw [hwrite] at h
    subst h
    exact writeArtifact_eq_ok hfs hwrite

theorem exists_written {fs : FileSystem} {m : Moment} {r : Findings}
    (h : (writeAll fs m r).2.outcome = .ok ()) :
    ∃ between, writeArtifact fs r.result.model.toJson r.config.outputFile = (between, .ok ()) := by
  cases hmodel : writeArtifact fs r.result.model.toJson r.config.outputFile with
  | mk between wrote =>
    cases wrote with
    | ok u => exact ⟨between, rfl⟩
    | error fault =>
      unfold writeAll at h
      rw [hmodel] at h
      cases h

/-- Once the model is written, the report decides how writing ends. -/
theorem writeAll_of_written {fs between : FileSystem} {m : Moment} {r : Findings}
    (h : writeArtifact fs r.result.model.toJson r.config.outputFile = (between, .ok ())) :
    (writeAll fs m r).1 =
        (writeReport between (reportOf between m r) m.runId m.time r.config.reportDir).1 ∧
      ((writeAll fs m r).2.outcome = .ok () ↔
        (writeReport between (reportOf between m r) m.runId m.time r.config.reportDir).2 =
          .ok ()) := by
  unfold writeAll
  rw [h]
  dsimp only
  cases writeReport between (reportOf between m r) m.runId m.time r.config.reportDir with
  | mk after wrote => cases wrote <;> simp

/-- A file holds a model as JSON, in which these are the lists of interfaces and enums. -/
def HoldsModel (fs : FileSystem) (l : Location) (m : Model) (interfaces enums : List Json) : Prop :=
  ∃ bytes text v, fs.entryAt l = some (.file bytes) ∧ Text.Utf8.decodeChars bytes = .ok text ∧
    Json.parse text = .ok v ∧ v.Same m.toJson ∧
    v.get? "interfaces" = some (.arr interfaces) ∧ v.get? "enums" = some (.arr enums)

/-- The members of a report fit the files that were there before, what was found in them, and the
lists of interfaces and enums that were written. -/
structure Fits [CharacterNames] (report : List (String × Json)) (fs : FileSystem) (r : Findings)
    (interfaces enums : List Json) : Prop where
  interfaces : report.lookup "interfaces" = some (.int interfaces.length)
  enums : report.lookup "enums" = some (.int enums.length)
  filesLoaded : report.lookup "files_loaded" =
    some (.int (fs.declarationFiles (fs.absolute r.sourceDir)).length)
  filesRead : ∃ s, Reading.selectionOf r.config.inclusion r.config.exclusion = .ok s ∧
    report.lookup "files_read" =
      some (.arr (((r.corpus.files.map (·.path)).filter s.admits).map .str))
  parseErrors : report.lookup "parse_errors" =
    some (.int ((r.corpus.files.map fun f => f.root.nodes.countP Node.isFault).sum : Nat))

/-- What a run leaves behind: no file but the two results has changed, no directory but those above
them is new, the same files as before may not be read, and the results fit each other and the files
that were loaded. -/
structure Artifacts [CharacterNames] (makeTree : TreeMaker) (fs : FileSystem) (m : Moment)
    (r : Findings) (after : FileSystem) : Prop where
  files : ∀ l content, l ≠ fs.location r.config.outputFile →
    l ≠ fs.location (reportPath r.config.reportDir m.runId) →
    (after.entryAt l = some (.file content) ↔ fs.entryAt l = some (.file content))
  directories : ∀ l, after.entryAt l = some .directory ↔
    fs.entryAt l = some .directory ∨ l <+: (fs.location r.config.outputFile).dropLast ∨
      l <+: (fs.location (reportPath r.config.reportDir m.runId)).dropLast
  sealed : after.sealed = fs.sealed
  loaded : List.Forall₂ (Corpus.Loaded makeTree fs (fs.absolute r.sourceDir))
    (fs.declarationFiles (fs.absolute r.sourceDir)) r.corpus.files
  results : ∃ interfaces enums report,
    HoldsModel after (fs.location r.config.outputFile) r.result.model interfaces enums ∧
    after.entryAt (fs.location (reportPath r.config.reportDir m.runId)) =
      some (.file (Text.Utf8.encodeChars (artifactText (.obj report)))) ∧
    Fits report fs r interfaces enums

theorem lookup_withDefault {key k : String} {value v : Json} {members : List (String × Json)}
    (h : members.lookup k = some v) : (withDefault key value members).lookup k = some v := by
  unfold withDefault
  split
  · exact h
  · rw [List.lookup_append, h]
    rfl

theorem lookup_reportMembers {members : List (String × Json)} {k : String} {v : Json}
    (h : members.lookup k = some v) (runId time : String) :
    (reportMembers members runId time).lookup k = some v :=
  lookup_withDefault (lookup_withDefault h)

theorem parseErrors_eq_sum {makeTree : TreeMaker} {fs : FileSystem} {directory : String}
    {paths : List String} {files : List SourceFile}
    (h : List.Forall₂ (Corpus.Loaded makeTree fs directory) paths files) :
    files.foldr (fun f n => f.parseErrors + n) 0 =
      (files.map fun f => f.root.nodes.countP Node.isFault).sum := by
  induction h with
  | nil => rfl
  | cons hf _ ih => rw [List.foldr_cons, ih, hf.parseErrors, List.map_cons, List.sum_cons]

theorem holdsModel {fs : FileSystem} {l : Location} {m : Model}
    (h : fs.entryAt l = some (.file (Text.Utf8.encodeChars (artifactText m.toJson)))) :
    HoldsModel fs l m (m.interfaces.map fun i => i.toJson.sorted)
      (m.enums.map fun e => e.toJson.sorted) := by
  have hplain := m.plain_toJson
  have hlist : ∀ {α : Type} (f : α → Json) (l : List α),
      Json.sorted (.arr (l.map f)) = .arr (l.map fun a => (f a).sorted) := by
    intro α f l
    rw [Json.sorted, Json.sortedItems_eq_map, List.map_map]
    rfl
  refine ⟨_, _, _, h, Text.Utf8.decodeChars_encodeChars _, Json.parse_render hplain,
    hplain.same_sorted, ?_, ?_⟩
  · rw [Json.get?_sorted hplain, ← hlist]
    rfl
  · rw [Json.get?_sorted hplain, ← hlist]
    rfl

theorem Stages.fits [CharacterNames] {makeTree : TreeMaker} {readYaml : DocumentReader}
    {fs between : FileSystem} {env : Environment} {o : Options} {m : Moment} {r : Findings}
    (h : Stages makeTree readYaml fs env o r) :
    Fits (reportMembers (reportOf between m r) m.runId m.time) fs r
      (r.result.model.interfaces.map fun i => i.toJson.sorted)
      (r.result.model.enums.map fun e => e.toJson.sorted) := by
  have hloaded := Corpus.load_eq_ok h.corpus
  obtain ⟨s, hs⟩ := Reading.exists_selection h.model
  refine ⟨?_, ?_, ?_, ⟨s, hs, ?_⟩, ?_⟩ <;> refine lookup_reportMembers ?_ _ _
  · rw [List.length_map]
    rfl
  · rw [List.length_map]
    rfl
  · rw [hloaded.length_eq]
    rfl
  · rw [← Reading.files_readCorpus hs h.model]
    rfl
  · rw [← parseErrors_eq_sum hloaded]
    rfl

theorem Stages.artifacts [CharacterNames] {makeTree : TreeMaker} {readYaml : DocumentReader}
    {fs between after : FileSystem} {env : Environment} {o : Options} {m : Moment} {r : Findings}
    (h : Stages makeTree readYaml fs env o r)
    (hdiffer : fs.location r.config.outputFile ≠
      fs.location (reportPath r.config.reportDir m.runId))
    (hmodel : fs.Wrote (fs.location r.config.outputFile)
      (Text.Utf8.encodeChars (artifactText r.result.model.toJson)) between)
    (hreport : between.Wrote (fs.location (reportPath r.config.reportDir m.runId))
      (Text.Utf8.encodeChars
        (artifactText (.obj (reportMembers (reportOf between m r) m.runId m.time)))) after) :
    Artifacts makeTree fs m r after := by
  refine ⟨?_, ?_, hreport.sealed.trans hmodel.sealed, Corpus.load_eq_ok h.corpus, _, _, _,
    holdsModel ?_, hreport.self, h.fits⟩
  · intro l content hout hrep
    rw [hreport.file_iff hrep, hmodel.file_iff hout]
  · intro l
    rw [hreport.directory_iff, hmodel.directory_iff, or_assoc]
  · exact (hreport.file_iff hdiffer).2 hmodel.self

/-- **A run writes results that fit, or nothing.** When the settings cannot be resolved, the corpus
cannot be loaded or the model cannot be read, the run ends with status one and all files are as
before. When it ends with status zero, the two results are where the settings say, they fit each
other and the corpus, and nothing else has changed; only results that go to one file are left out,
since the second of them replaces the first. A run whose results can be written does end so. -/
theorem runCommand_artifacts [CharacterNames] (makeTree : TreeMaker) (readYaml : DocumentReader)
    {fs : FileSystem} (hfs : fs.Rooted) (env : Environment) (m : Moment) {words : List String}
    {o : Options} (hwords : Command.ofWords words = .ok (.run o)) :
    (StageFails makeTree readYaml fs env o →
      (runCommand fs env m words makeTree readYaml).status = 1 ∧
        (runCommand fs env m words makeTree readYaml).files = fs) ∧
    ((runCommand fs env m words makeTree readYaml).status = 0 →
      ∃ r, Stages makeTree readYaml fs env o r ∧
        (fs.location r.config.outputFile ≠ fs.location (reportPath r.config.reportDir m.runId) →
          Artifacts makeTree fs m r (runCommand fs env m words makeTree readYaml).files)) ∧
    ∀ r between, Stages makeTree readYaml fs env o r →
      writeArtifact fs r.result.model.toJson r.config.outputFile = (between, .ok ()) →
      (writeReport between (reportOf between m r) m.runId m.time r.config.reportDir).2 = .ok () →
      (runCommand fs env m words makeTree readYaml).status = 0 := by
  have hrun : runCommand fs env m words makeTree readYaml = run fs env m o makeTree readYaml := by
    rw [runCommand, hwords]
  rw [hrun]
  refine ⟨?_, ?_, ?_⟩
  · intro hfails
    obtain ⟨e, he⟩ := hfails.readAll_eq_error
    exact run_of_error he
  · intro hstatus
    cases hread : (readAll fs env o makeTree readYaml).outcome with
    | error e =>
      rw [(run_of_error hread).1] at hstatus
      cases hstatus
    | ok r =>
      have hstages := readAll_eq_ok_iff.1 hread
      obtain ⟨hzero, hfiles⟩ := run_of_ok hread
      have hwritten := hzero.1 hstatus
      obtain ⟨between, hbetween⟩ := exists_written hwritten
      obtain ⟨hafter, hboth⟩ := writeAll_of_written (m := m) hbetween
      have hmodel := writeArtifact_eq_ok hfs hbetween
      have hreport := writeReport_eq_ok (hfs.of_directory hmodel.directory) (hboth.1 hwritten)
      rw [FileSystem.location_congr hmodel.directory] at hreport
      refine ⟨r, hstages, fun hdiffer => ?_⟩
      rw [hfiles, hafter]
      exact hstages.artifacts hdiffer hmodel hreport
  · intro r between hstages hmodel hreport
    obtain ⟨hzero, -⟩ := run_of_ok (readAll_eq_ok_iff.2 hstages)
    exact hzero.2 ((writeAll_of_written hmodel).2.2 hreport)

/-! ### A small run -/

/-- One file that is read, and one that is not read and has faults. -/
def sampleFiles : FileSystem :=
  ((FileSystem.bare "/work").place "decl/a.ts" (Text.Utf8.encode "enum A \x7b\x7d")).place
    "decl/b.d.ts" (Text.Utf8.encode "x = ;")

/-- The paths of the two files. -/
def samplePaths : List String := ["/work/decl/a.ts", "/work/decl/b.d.ts"]

def sampleMoment : Moment := { runId := "r", time := "t", elapsed := .int 0 }

/-- The settings that the directory of the files gives. -/
def sampleConfig : Config :=
  ⟨some "decl", none, none, "output/model.json", "output/run_reports"⟩

theorem declarationFiles_sampleFiles :
    sampleFiles.declarationFiles (sampleFiles.absolute "decl") = samplePaths :=
  Files.declarationFiles_of_sorted (by decide +kernel) (by decide +kernel)

theorem resolve_sampleFiles :
    (Settings.resolve sampleFiles ⟨[]⟩ { sourceDir := some "decl" }).outcome =
      .ok sampleConfig := by
  decide +kernel

/-- Both files are loaded and the results can be written. -/
theorem exists_sampleFindings :
    ∃ r between,
      Stages Source.tree Document.ofText sampleFiles ⟨[]⟩ { sourceDir := some "decl" } r ∧
      writeArtifact sampleFiles r.result.model.toJson r.config.outputFile = (between, .ok ()) ∧
      (writeReport between (reportOf between sampleMoment r) "r" "t" r.config.reportDir).2 =
        .ok () := by
  -- Sorting the paths does not evaluate, so they are given here.
  have hall : ((Corpus.load sampleFiles "decl" (some samplePaths)).outcome.mapError
      RunError.load >>= fun corpus =>
        (Reading.readCorpus corpus none none).outcome.mapError RunError.reading >>= fun result =>
          (writeAll sampleFiles sampleMoment ⟨sampleConfig, "decl", corpus, result⟩).2.outcome) =
      .ok () := by
    decide +kernel
  obtain ⟨corpus, hcorpus, h⟩ := Outcome.bind_eq_ok_iff.1 hall
  obtain ⟨result, hresult, h⟩ := Outcome.bind_eq_ok_iff.1 h
  obtain ⟨between, hmodel⟩ := exists_written h
  rw [← declarationFiles_sampleFiles, ← Corpus.load_none] at hcorpus
  refine ⟨⟨sampleConfig, "decl", corpus, result⟩, between, ⟨resolve_sampleFiles, rfl, ?_, ?_⟩,
    hmodel, (writeAll_of_written hmodel).2.1 h⟩
  · exact Outcome.mapError_eq_ok_iff.1 hcorpus
  · exact Outcome.mapError_eq_ok_iff.1 hresult

/-- Without a directory nothing is written. With one, the model and the report are. -/
theorem runCommand_artifacts_sample :
    (runCommand sampleFiles ⟨[]⟩ sampleMoment []).status = 1 ∧
      (runCommand sampleFiles ⟨[]⟩ sampleMoment []).files = sampleFiles ∧
      (runCommand sampleFiles ⟨[]⟩ sampleMoment ["--source-dir", "decl"]).status = 0 ∧
      ∃ r, Artifacts Source.tree sampleFiles sampleMoment r
        (runCommand sampleFiles ⟨[]⟩ sampleMoment ["--source-dir", "decl"]).files := by
  have hrooted : sampleFiles.Rooted := by
    unfold FileSystem.Rooted
    decide +kernel
  have hnone : Command.ofWords [] = .ok (.run {}) := by decide +kernel
  have hwords : Command.ofWords ["--source-dir", "decl"] =
      .ok (.run { sourceDir := some "decl" }) := by decide +kernel
  have hsettings : (Settings.resolve sampleFiles ⟨[]⟩ {}).outcome =
      .error (.invalid .noSourceDir) := by decide +kernel
  obtain ⟨hrefused, -⟩ :=
    runCommand_artifacts Source.tree Document.ofText hrooted ⟨[]⟩ sampleMoment hnone
  obtain ⟨-, hwritten, hprogress⟩ :=
    runCommand_artifacts Source.tree Document.ofText hrooted ⟨[]⟩ sampleMoment hwords
  obtain ⟨found, between, hstages, hmodel, hreport⟩ := exists_sampleFindings
  have hstatus := hprogress found between hstages hmodel hreport
  obtain ⟨r, hr, hartifacts⟩ := hwritten hstatus
  have hsame : r.config = sampleConfig := by
    have h := hr.settings
    rw [resolve_sampleFiles] at h
    exact (Except.ok.inj h).symm
  obtain ⟨hfailed, hkept⟩ := hrefused (.settings hsettings)
  refine ⟨hfailed, hkept, hstatus, r, hartifacts ?_⟩
  rw [hsame]
  decide +kernel

end Run

end ApiDecl
