import ApiDecl.Proofs.Members
import ApiDecl.Reading.Reader

/-!
# Reading is building the declarations in order

The reader walks over the trees of the selected files with two growing lists, and every declaration
that it meets is built on the spot. Here the walk is compared with the list of all declarations of
these files, in document order and at any depth (`declared`).

* `outcome_visit`: visiting a tree is going through its declarations one after the other.
* `outcome_readCorpus` (no assumption on the table): the outcome of a reading, from the outcomes of
  the builders.
* `readCorpus_eq_builders`: when all builders succeed, the model holds what they built, interfaces
  and enums each in order; when one fails, the reading fails with the first error.
-/

namespace ApiDecl.Reading

open Syntax (Node userSource userSketch levelSource levelSketch)
open Model (Entity Interface Enum)
open Journal (Traced)
open Pattern (CharacterNames)

/-! ## Models from entities -/

/-- The interfaces among entities, in order. -/
def interfacesOf (entities : List Entity) : List Interface :=
  entities.filterMap fun
    | .interface i => some i
    | .enum _ => none

/-- The enums among entities, in order. -/
def enumsOf (entities : List Entity) : List Enum :=
  entities.filterMap fun
    | .interface _ => none
    | .enum e => some e

/-- Entities that are added one after the other stand in two lists, each in order. -/
theorem foldl_add_eq (entities : List Entity) (m : Model) :
    entities.foldl Model.add m =
      ⟨m.interfaces ++ interfacesOf entities, m.enums ++ enumsOf entities⟩ := by
  induction entities generalizing m with
  | nil => simp [interfacesOf, enumsOf]
  | cons entity rest ih =>
    rw [List.foldl_cons, ih]
    cases entity <;> simp [Model.add, interfacesOf, enumsOf]

/-! ## The walk -/

/-- Build one declaration on top of a model. -/
def step (t : SymbolTable) (m : Model) (n : Node) : Except ReadError Model :=
  m.add <$> (buildEntity t .bound n).outcome

mutual

theorem outcome_visit (t : SymbolTable) :
    ∀ (n : Node) (m : Model), (visit t n m).outcome = (declarations n).foldlM (step t) m
  | .mk info children, m => by
    rw [visit, declarations, Node.nodes_eq, List.filter_cons]
    have hbelow := outcome_visitList t children
    split
    · simp only [Traced.outcome_bind, Traced.outcome_pure, List.foldlM_cons, step, hbelow,
        Node.children]
      cases (buildEntity t .bound (.mk info children)).outcome <;> rfl
    · simp only [pure_bind, hbelow, Node.children]

theorem outcome_visitList (t : SymbolTable) :
    ∀ (ns : List Node) (m : Model),
      (visitList t ns m).outcome = ((Node.nodesList ns).filter isEntity).foldlM (step t) m
  | [], m => by simp [visitList, Outcome.pure_eq_ok]
  | n :: rest, m => by
    rw [visitList, Traced.outcome_bind, Node.nodesList_cons, List.filter_append,
      List.foldlM_append, outcome_visit t n m]
    simp only [outcome_visitList t rest, declarations]

end

/-- Visiting the files one after the other is going through all their declarations. -/
theorem outcome_readFiles (t : SymbolTable) (files : List SourceFile) (m : Model) :
    (files.foldlM (readFile t) m).outcome =
      (files.flatMap fun f => declarations f.root).foldlM (step t) m := by
  induction files generalizing m with
  | nil => rfl
  | cons f rest ih =>
    simp only [List.foldlM_cons, List.flatMap_cons, List.foldlM_append, Traced.outcome_bind, ih,
      readFile, Traced.outcome_inFile, outcome_visit]

/-! ## The reading -/

/-- The files that a selection admits, in order. -/
def selected (s : Selection) (c : Corpus) : List SourceFile :=
  c.files.filter fun f => s.admits f.path

/-- The declarations of the selected files: the files in order, and in each file the declarations in
document order and at any depth. -/
def declared (s : Selection) (c : Corpus) : List Node :=
  (selected s c).flatMap fun f => declarations f.root

/-- The selection that a reading with two patterns uses, if they can be used. -/
def selectionOf [CharacterNames] (inclusion exclusion : Option String) :
    Except BadPattern Selection :=
  Selection.compile (patternOr Selection.defaultInclusion inclusion)
    (patternOr Selection.defaultExclusion exclusion)

/-- The outcome of a reading, from the outcomes of the builders. -/
theorem outcome_readCorpus [CharacterNames] {c : Corpus} {inclusion exclusion : Option String}
    {s : Selection} (hs : selectionOf inclusion exclusion = .ok s) :
    (readCorpus c inclusion exclusion).outcome =
      (((declared s c).mapM fun n => (buildEntity c.table .bound n).outcome).mapError
        ReaderError.read).map fun entities =>
          ⟨(selected s c).map (·.path), ⟨interfacesOf entities, enumsOf entities⟩⟩ := by
  have hread : (declared s c).foldlM (step c.table) .empty =
      (fun entities => ⟨interfacesOf entities, enumsOf entities⟩) <$>
        (declared s c).mapM fun n => (buildEntity c.table .bound n).outcome := by
    unfold step
    rw [Outcome.foldlM_map]
    simp only [foldl_add_eq, Model.empty, List.nil_append]
  unfold selectionOf at hs
  unfold readCorpus
  simp only [Traced.outcome_bind, Traced.outcome_inPhase, Traced.outcome_mapError,
    Traced.outcome_note, Traced.outcome_pure, selectFiles, Traced.outcome_ofExcept, hs,
    outcome_readFiles, Outcome.ok_bind]
  change ((((declared s c).foldlM (step c.table) .empty).mapError ReaderError.read >>=
    fun m => .ok (selected s c, m)) >>= fun r => .ok (Result.mk (r.1.map (·.path)) r.2)) = _
  rw [hread]
  cases (declared s c).mapM fun n => (buildEntity c.table .bound n).outcome <;> rfl

/-- A reading that succeeds has used patterns that can be used. -/
theorem exists_selection [CharacterNames] {c : Corpus} {inclusion exclusion : Option String}
    {r : Result} (h : (readCorpus c inclusion exclusion).outcome = .ok r) :
    ∃ s, selectionOf inclusion exclusion = .ok s := by
  cases hs : selectionOf inclusion exclusion with
  | ok s => exact ⟨s, rfl⟩
  | error bad =>
    unfold selectionOf at hs
    simp only [readCorpus, selectFiles, Traced.outcome_bind, Traced.outcome_inPhase,
      Traced.outcome_mapError, Traced.outcome_ofExcept, hs] at h
    cases h

/-- The files that are read are those that the selection admits, in the order of the corpus. -/
theorem files_readCorpus [CharacterNames] {c : Corpus} {inclusion exclusion : Option String}
    {s : Selection} {r : Result} (hs : selectionOf inclusion exclusion = .ok s)
    (h : (readCorpus c inclusion exclusion).outcome = .ok r) :
    r.files = (c.files.map (·.path)).filter s.admits := by
  rw [outcome_readCorpus hs] at h
  obtain ⟨entities, -, rfl⟩ := Outcome.map_eq_ok_iff.1 h
  rw [List.filter_map]
  rfl

/-! ## Builders of declarations -/

/-- The builder for the kind of the node succeeds. -/
def Builds (t : SymbolTable) (n : Node) : Prop :=
  (n.kind = .interfaceDeclaration ∧ ∃ i, (buildInterface t .bound n).outcome = .ok i) ∨
    (n.kind = .enumDeclaration ∧ ∃ e, (buildEnum t .bound n).outcome = .ok e)

instance (t : SymbolTable) (n : Node) : Decidable (Builds t n) :=
  decidable_of_iff
    ((n.kind = .interfaceDeclaration ∧ (buildInterface t .bound n).outcome.isOk) ∨
      (n.kind = .enumDeclaration ∧ (buildEnum t .bound n).outcome.isOk))
    (by simp only [Builds, Outcome.isOk_iff])

/-- The builder for the kind of the node fails with an error. -/
def FailsWith (t : SymbolTable) (n : Node) (error : ReadError) : Prop :=
  (n.kind = .interfaceDeclaration ∧ (buildInterface t .bound n).outcome = .error error) ∨
    (n.kind = .enumDeclaration ∧ (buildEnum t .bound n).outcome = .error error)

/-- What a declaration is built to, by its kind. -/
theorem buildEntity_eq_ok {t : SymbolTable} {n : Node} (hn : isEntity n) {entity : Entity}
    (h : (buildEntity t .bound n).outcome = .ok entity) :
    (n.kind = .interfaceDeclaration ∧ ∃ i, (buildInterface t .bound n).outcome = .ok i ∧
        entity = .interface i) ∨
      (n.kind = .enumDeclaration ∧ ∃ e, (buildEnum t .bound n).outcome = .ok e ∧
        entity = .enum e) := by
  rcases kind_of_isEntity hn with hk | hk
  · rw [outcome_buildEntity_interface t hk] at h
    obtain ⟨i, hi, he⟩ := Outcome.map_eq_ok_iff.mp h
    exact Or.inl ⟨hk, i, hi, he.symm⟩
  · rw [outcome_buildEntity_enum t hk] at h
    obtain ⟨e, he, hentity⟩ := Outcome.map_eq_ok_iff.mp h
    exact Or.inr ⟨hk, e, he, hentity.symm⟩

theorem builds_iff {t : SymbolTable} {n : Node} (hn : isEntity n) :
    Builds t n ↔ ∃ entity, (buildEntity t .bound n).outcome = .ok entity := by
  constructor
  · rintro (⟨hk, i, hi⟩ | ⟨hk, e, he⟩)
    · exact ⟨.interface i, by rw [outcome_buildEntity_interface t hk, hi]; rfl⟩
    · exact ⟨.enum e, by rw [outcome_buildEntity_enum t hk, he]; rfl⟩
  · rintro ⟨entity, h⟩
    rcases buildEntity_eq_ok hn h with ⟨hk, i, hi, -⟩ | ⟨hk, e, he, -⟩
    · exact Or.inl ⟨hk, i, hi⟩
    · exact Or.inr ⟨hk, e, he⟩

theorem failsWith_iff {t : SymbolTable} {n : Node} (hn : isEntity n) {error : ReadError} :
    FailsWith t n error ↔ (buildEntity t .bound n).outcome = .error error := by
  rcases kind_of_isEntity hn with hk | hk
  · rw [outcome_buildEntity_interface t hk, Outcome.map_eq_error_iff]
    simp [FailsWith, hk]
  · rw [outcome_buildEntity_enum t hk, Outcome.map_eq_error_iff]
    simp [FailsWith, hk]

theorem isEntity_of_mem_declared {s : Selection} {c : Corpus} {n : Node} (h : n ∈ declared s c) :
    isEntity n := by
  obtain ⟨f, -, hn⟩ := List.mem_flatMap.mp h
  exact (List.mem_filter.mp hn).2

/-- When the builders of all nodes succeed, the two lists of the model are what they built. -/
theorem map_builders_eq {t : SymbolTable} {ns : List Node} {entities : List Entity}
    (hns : ∀ n ∈ ns, isEntity n)
    (h : ns.map (fun n => (buildEntity t .bound n).outcome) = entities.map .ok) :
    (ns.filter (·.kind = .interfaceDeclaration)).map
        (fun n => (buildInterface t .bound n).outcome) = (interfacesOf entities).map .ok ∧
      (ns.filter (·.kind = .enumDeclaration)).map
        (fun n => (buildEnum t .bound n).outcome) = (enumsOf entities).map .ok := by
  induction ns generalizing entities with
  | nil =>
    obtain rfl : entities = [] := by simpa using h.symm
    exact ⟨rfl, rfl⟩
  | cons n rest ih =>
    cases entities with
    | nil => simp at h
    | cons entity entities =>
      obtain ⟨hn, hrest⟩ := List.cons.inj h
      obtain ⟨his, hes⟩ := ih (fun n hn => hns n (List.mem_cons_of_mem _ hn)) hrest
      unfold interfacesOf at his ⊢
      unfold enumsOf at hes ⊢
      rcases buildEntity_eq_ok (hns n List.mem_cons_self) hn with
        ⟨hk, i, hi, rfl⟩ | ⟨hk, e, he, rfl⟩
      · exact ⟨by simp [hk, hi, his], by simp [hk, hes]⟩
      · exact ⟨by simp [hk, his], by simp [hk, he, hes]⟩

/-- A declaration is the first one that cannot be built: in terms of the builders for each kind, and
in terms of their common form. -/
theorem firstFailure_iff {s : Selection} {c : Corpus} {before after : List Node} {n : Node}
    (hsplit : declared s c = before ++ n :: after) {error : ReadError} :
    ((∀ m ∈ before, Builds c.table m) ∧ FailsWith c.table n error) ↔
      (∀ m ∈ before, ∃ entity, (buildEntity c.table .bound m).outcome = .ok entity) ∧
        (buildEntity c.table .bound n).outcome = .error error := by
  have hentity : ∀ m ∈ before ++ n :: after, isEntity m := fun m hm =>
    isEntity_of_mem_declared (hsplit ▸ hm)
  refine and_congr (forall₂_congr fun m hm => ?_) (failsWith_iff (hentity n (by simp)))
  exact builds_iff (hentity m (List.mem_append_left _ hm))

/-- Among declarations that cannot all be built there is a first one. -/
theorem exists_first_failure {s : Selection} {c : Corpus}
    (h : ∃ n ∈ declared s c, ¬ Builds c.table n) :
    ∃ before n after error, declared s c = before ++ n :: after ∧
      (∀ m ∈ before, Builds c.table m) ∧ FailsWith c.table n error := by
  obtain ⟨n, hn, hfails⟩ := h
  have hne : ∀ entity, (buildEntity c.table .bound n).outcome ≠ .ok entity := fun entity hok =>
    hfails ((builds_iff (isEntity_of_mem_declared hn)).mpr ⟨entity, hok⟩)
  obtain ⟨before, m, after, error, hsplit, hfirst⟩ :=
    Outcome.exists_first_error (f := fun n => (buildEntity c.table .bound n).outcome) ⟨n, hn, hne⟩
  exact ⟨before, m, after, error, hsplit, (firstFailure_iff hsplit).mpr hfirst⟩

/-- A reading fails exactly with the error of the first declaration that cannot be built. -/
theorem readCorpus_eq_error_iff [CharacterNames] {c : Corpus} {inclusion exclusion : Option String}
    {s : Selection} (hs : selectionOf inclusion exclusion = .ok s) {error : ReaderError} :
    (readCorpus c inclusion exclusion).outcome = .error error ↔
      ∃ before n after e, error = .read e ∧ declared s c = before ++ n :: after ∧
        (∀ m ∈ before, Builds c.table m) ∧ FailsWith c.table n e := by
  rw [outcome_readCorpus hs]
  constructor
  · intro h
    cases hm : (declared s c).mapM fun n => (buildEntity c.table .bound n).outcome with
    | ok entities => rw [hm] at h; cases h
    | error e =>
      rw [hm] at h
      obtain rfl := Except.error.inj h
      obtain ⟨before, n, after, hsplit, hfirst⟩ := Outcome.mapM_eq_error_iff.mp hm
      exact ⟨before, n, after, e, rfl, hsplit, (firstFailure_iff hsplit).mpr hfirst⟩
  · rintro ⟨before, n, after, e, rfl, hsplit, hfirst⟩
    rw [Outcome.mapM_eq_error_iff.mpr
      ⟨before, n, after, hsplit, (firstFailure_iff hsplit).mp hfirst⟩]
    rfl

/-- **Reading is building the declarations in order.** When the builder of every declaration of the
selected files succeeds, the reading yields their paths, all interfaces and all enums, each in the
order of the declarations. When some builder fails, the reading fails with the error of the first
one, whether it builds an interface or an enum. -/
theorem readCorpus_eq_builders [CharacterNames] {c : Corpus} {inclusion exclusion : Option String}
    {s : Selection} (hs : selectionOf inclusion exclusion = .ok s) :
    ((∀ n ∈ declared s c, Builds c.table n) → ∃ interfaces enums,
        ((declared s c).filter (·.kind = .interfaceDeclaration)).map
          (fun n => (buildInterface c.table .bound n).outcome) = interfaces.map .ok ∧
        ((declared s c).filter (·.kind = .enumDeclaration)).map
          (fun n => (buildEnum c.table .bound n).outcome) = enums.map .ok ∧
        (readCorpus c inclusion exclusion).outcome =
          .ok ⟨(selected s c).map (·.path), ⟨interfaces, enums⟩⟩) ∧
      ((∃ n ∈ declared s c, ¬ Builds c.table n) →
        ∃ before n after error, declared s c = before ++ n :: after ∧
          (∀ m ∈ before, Builds c.table m) ∧ FailsWith c.table n error ∧
          (readCorpus c inclusion exclusion).outcome = .error (.read error)) := by
  constructor
  · intro hall
    have hok : ∀ n ∈ declared s c, ∃ entity, (buildEntity c.table .bound n).outcome = .ok entity :=
      fun n hn => (builds_iff (isEntity_of_mem_declared hn)).mp (hall n hn)
    obtain ⟨entities, hentities⟩ := Outcome.exists_map_eq hok
    obtain ⟨his, hes⟩ := map_builders_eq (fun n hn => isEntity_of_mem_declared hn) hentities
    refine ⟨interfacesOf entities, enumsOf entities, his, hes, ?_⟩
    rw [outcome_readCorpus hs, Outcome.mapM_eq_ok_iff.mpr hentities]
    rfl
  · intro hfails
    obtain ⟨before, n, after, error, hsplit, hbefore, hn⟩ := exists_first_failure hfails
    exact ⟨before, n, after, error, hsplit, hbefore, hn,
      (readCorpus_eq_error_iff hs).mpr ⟨before, n, after, error, rfl, hsplit, hbefore, hn⟩⟩

/-- An interface in one file and an enum in another one. -/
def smallCorpus : Corpus :=
  ((Corpus.empty.addSketch "src/user.ts" userSource userSketch).1.addSketch "src/level.ts"
    levelSource levelSketch).1

/-- The same files without their symbols. -/
def unboundCorpus : Corpus := { smallCorpus with table := .empty }

/-- With its symbols the small corpus is read, without them the first builder fails. -/
theorem readCorpus_eq_builders_small :
    ∃ s, selectionOf none none = .ok s ∧
      (∀ n ∈ declared s smallCorpus, Builds smallCorpus.table n) ∧
      (∃ interfaces enums, (readCorpus smallCorpus none none).outcome =
        .ok ⟨["src/user.ts", "src/level.ts"], ⟨interfaces, enums⟩⟩) ∧
      (∃ n ∈ declared s unboundCorpus, ¬ Builds unboundCorpus.table n) ∧
      ∃ error, (readCorpus unboundCorpus none none).outcome = .error (.read error) := by
  obtain ⟨s, hs, hcheck⟩ : ∃ s, selectionOf none none = .ok s ∧
      decide ((∀ n ∈ declared s smallCorpus, Builds smallCorpus.table n) ∧
        (∃ n ∈ declared s unboundCorpus, ¬ Builds unboundCorpus.table n) ∧
        (selected s smallCorpus).map (·.path) = ["src/user.ts", "src/level.ts"]) = true :=
    Outcome.map_eq_ok_iff.mp (by decide +kernel)
  obtain ⟨hbuilds, hfails, hpaths⟩ := of_decide_eq_true hcheck
  obtain ⟨interfaces, enums, -, -, hread⟩ := (readCorpus_eq_builders hs).1 hbuilds
  obtain ⟨_, _, _, error, -, -, -, herror⟩ := (readCorpus_eq_builders hs).2 hfails
  exact ⟨s, hs, hbuilds, ⟨interfaces, enums, hpaths ▸ hread⟩, hfails, error, herror⟩

end ApiDecl.Reading
