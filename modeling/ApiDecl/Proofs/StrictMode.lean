import ApiDecl.Proofs.Layers

/-!
# Strict mode and warnings

Both modes take the same steps until the first problem is met. There strict mode ends, and the other
mode writes a warning and goes on, maybe to an error of another kind. So a run without warnings is
the same in both modes, and the first warning tells how strict mode ends (`StopsAtFirst`, which goes
along with the steps of the program).

The settings of a file are looked at in some order. Which faulty setting is met first depends on
it, and nothing else does (`SameUpToField`).
-/

namespace ApiDecl.Journal.Traced

variable {ε α β : Type} {x : Traced ε α}

theorem bind_of_error {e : ε} (h : x.outcome = .error e) (f : α → Traced ε β) :
    x >>= f = ⟨x.notes, .error e⟩ := by
  show Traced.bind x f = _
  rw [Traced.bind, h]

theorem bind_of_ok {a : α} (h : x.outcome = .ok a) (f : α → Traced ε β) :
    x >>= f = ⟨x.notes ++ (f a).notes, (f a).outcome⟩ := by
  show Traced.bind x f = _
  rw [Traced.bind, h]

-- What has been written stays, whatever comes after it.
theorem notes_prefix_bind (x : Traced ε α) (f : α → Traced ε β) :
    x.notes <+: (x >>= f).notes := by
  cases h : x.outcome with
  | error e =>
    simp only [bind_of_error h, List.prefix_rfl]
  | ok a =>
    rw [bind_of_ok h]
    exact List.prefix_append _ _

end ApiDecl.Journal.Traced

namespace ApiDecl.Settings

open Files (FileSystem)
open Journal (Note Traced)
open Pattern (CharacterNames)
open Yaml (Scalar Value Document)

/-! ## The first warning -/

/-- What follows the problem in a warning. -/
def warningEnd : String := "; continuing with defaults"

/-- The warning about a problem. -/
def warningOf (p : Problem) : Note :=
  { level := .warning, logger, message := p.message ++ warningEnd }

/-- The warnings among the notes of a computation. -/
def warnings {α : Type} (x : Traced ConfigError α) : List Note :=
  x.notes.filter fun n => n.level = .warning

/-- The second computation is like the first one, which writes nothing, or it ends with the problem
that the first one warns of before all else. -/
inductive StopsAtFirst {α : Type} : Traced ConfigError α → Traced ConfigError α → Prop
  | quiet {x : Traced ConfigError α} : x.notes = [] → StopsAtFirst x x
  | stops {x : Traced ConfigError α} {p : Problem} {rest : List Note} :
      x.notes = warningOf p :: rest → StopsAtFirst x (.fail (.invalid p))

namespace StopsAtFirst

variable {α β : Type} {x y : Traced ConfigError α}

theorem refl_pure (a : α) : StopsAtFirst (pure a : Traced ConfigError α) (pure a) := quiet rfl

theorem refl_ofExcept (x : Except ConfigError α) :
    StopsAtFirst (Traced.ofExcept x) (Traced.ofExcept x) := quiet rfl

theorem bind {f g : α → Traced ConfigError β} (hx : StopsAtFirst x y)
    (hf : ∀ a, StopsAtFirst (f a) (g a)) : StopsAtFirst (x >>= f) (y >>= g) := by
  cases hx with
  | quiet hnotes =>
    cases h : x.outcome with
    | error e =>
      rw [Traced.bind_of_error h, Traced.bind_of_error h, hnotes]
      exact quiet rfl
    | ok a =>
      rw [Traced.bind_of_ok h, Traced.bind_of_ok h, hnotes]
      exact hf a
  | @stops p rest hnotes =>
    obtain ⟨more, hmore⟩ := Traced.notes_prefix_bind x f
    have hfirst : (x >>= f).notes = warningOf p :: (rest ++ more) := by
      rw [← hmore, hnotes, List.cons_append]
    exact stops hfirst

theorem foldlM {γ : Type} {f g : α → γ → Traced ConfigError α}
    (hf : ∀ a c, StopsAtFirst (f a c) (g a c)) (l : List γ) (a : α) :
    StopsAtFirst (l.foldlM f a) (l.foldlM g a) := by
  induction l generalizing a with
  | nil => exact refl_pure a
  | cons c rest ih =>
    rw [List.foldlM_cons, List.foldlM_cons]
    exact (hf a c).bind ih

theorem eq_of_quiet (h : StopsAtFirst x y) (hquiet : warnings x = []) : y = x := by
  cases h with
  | quiet => rfl
  | @stops p rest hnotes =>
    rw [warnings, hnotes, List.filter_cons_of_pos (by simp [warningOf])] at hquiet
    cases hquiet

theorem eq_fail {n : Note} {rest : List Note} (h : StopsAtFirst x y)
    (hwarned : warnings x = n :: rest) : ∃ p, y = .fail (.invalid p) ∧ n = warningOf p := by
  cases h with
  | quiet hnotes =>
    rw [warnings, hnotes] at hwarned
    cases hwarned
  | @stops p _ hnotes =>
    rw [warnings, hnotes, List.filter_cons_of_pos (by simp [warningOf])] at hwarned
    exact ⟨p, rfl, (List.cons.inj hwarned).1.symm⟩

end StopsAtFirst

theorem stopsAtFirst_complain (p : Problem) : StopsAtFirst (complain false p) (complain true p) :=
  .stops rfl

-- A problem, after which there is a value to go on with.
theorem stopsAtFirst_complain_bind {α : Type} (p : Problem) (a : α) :
    StopsAtFirst (complain false p >>= fun _ => pure a : Traced ConfigError α)
      (complain true p >>= fun _ => pure a) :=
  (stopsAtFirst_complain p).bind fun _ => .refl_pure a

theorem stopsAtFirst_loadMembers (readYaml : DocumentReader) (fs : FileSystem) (path : String) :
    StopsAtFirst (loadMembers fs path false readYaml) (loadMembers fs path true readYaml) := by
  unfold loadMembers
  dsimp only
  split
  · next fault hread =>
    split
    · exact stopsAtFirst_complain_bind _ _
    · exact .quiet rfl
  · next content hread =>
    refine (StopsAtFirst.refl_ofExcept _).bind fun text => ?_
    refine (StopsAtFirst.refl_ofExcept _).bind fun document => ?_
    cases document with
    | error detail => exact stopsAtFirst_complain_bind _ _
    | ok document =>
      cases document with
      | mapping members => exact .refl_pure members
      | other value => exact stopsAtFirst_complain_bind _ _

theorem stopsAtFirst_membersAt (readYaml : DocumentReader) (fs : FileSystem)
    (path : Option String) :
    StopsAtFirst (membersAt readYaml fs path false) (membersAt readYaml fs path true) := by
  cases path with
  | none => exact .refl_pure []
  | some path =>
    unfold membersAt
    dsimp only
    split
    · exact .refl_pure []
    · exact stopsAtFirst_loadMembers readYaml fs path

/-- The file has a value for a setting, which is neither null nor a text that is not all blank. -/
def Faulty (members : List (Scalar × Value)) (f : Field) : Prop :=
  ∃ value, members.lookup (.str f.key) = some value ∧ value ≠ .scalar .null ∧
    fromFile members f = none

/-- A faulty setting is complained of and stays as it is; any other is taken over without a note. -/
theorem applyMember_cases (members : List (Scalar × Value)) (strict : Bool) (c : Config)
    (f : Field) :
    ¬ Faulty members f ∧
        applyMember members strict c f = pure (c.set? f (fromFile members f)) ∨
      Faulty members f ∧
        applyMember members strict c f = complain strict (.notText f) >>= fun _ => pure c := by
  unfold applyMember
  split
  · next hlookup =>
    exact .inl ⟨by simp [Faulty, hlookup], by simp [fromFile, hlookup, Config.set?]⟩
  · next hlookup =>
    exact .inl ⟨by simp [Faulty, hlookup], by simp [fromFile, hlookup, Config.set?]⟩
  · next s hlookup =>
    have hfile : fromFile members f = if (Text.trimmed s).isEmpty then none
        else some (if f.isPattern then s else Text.trimmed s) := by
      simp only [fromFile, hlookup, Text.isEmpty_trimmed]
    split
    · next hblank =>
      rw [if_pos hblank] at hfile
      exact .inr ⟨⟨_, hlookup, by simp, hfile⟩, rfl⟩
    · next hblank =>
      rw [if_neg hblank] at hfile
      refine .inl ⟨?_, by rw [hfile]; rfl⟩
      rintro ⟨value, -, -, hnone⟩
      rw [hfile] at hnone
      cases hnone
  · next value hnull htext hlookup =>
    have hfile : fromFile members f = none := by
      unfold fromFile
      split
      · next s hfound =>
        rw [hlookup] at hfound
        exact absurd (Option.some.inj hfound) (htext s)
      · rfl
    exact .inr ⟨⟨value, hlookup, hnull, hfile⟩, rfl⟩

theorem stopsAtFirst_applyMember (members : List (Scalar × Value)) (c : Config) (f : Field) :
    StopsAtFirst (applyMember members false c f) (applyMember members true c f) := by
  rcases applyMember_cases members false c f with ⟨hfine, hlenient⟩ | ⟨hfaulty, hlenient⟩
  · rcases applyMember_cases members true c f with ⟨-, hstrict⟩ | ⟨hfaulty, -⟩
    · rw [hlenient, hstrict]
      exact .refl_pure _
    · exact absurd hfaulty hfine
  · rcases applyMember_cases members true c f with ⟨hfine, -⟩ | ⟨-, hstrict⟩
    · exact absurd hfaulty hfine
    · rw [hlenient, hstrict]
      exact stopsAtFirst_complain_bind _ _

theorem stopsAtFirst_ofMembers [CharacterNames] (order : List Field) (env : Environment)
    (members : List (Scalar × Value)) :
    StopsAtFirst (ofMembers order env false members) (ofMembers order env true members) := by
  have hvalues : StopsAtFirst (ofValues order env false members)
      (ofValues order env true members) := by
    refine (StopsAtFirst.foldlM (stopsAtFirst_applyMember members) order {}).bind fun c => ?_
    exact (StopsAtFirst.refl_ofExcept _).bind fun _ => .refl_pure _
  refine (StopsAtFirst.refl_ofExcept _).bind fun unknown => ?_
  dsimp only
  split
  · exact (stopsAtFirst_complain _).bind fun _ => hvalues
  · exact hvalues

theorem stopsAtFirst_loadInOrder [CharacterNames] (readYaml : DocumentReader)
    (order : List Field) (fs : FileSystem) (env : Environment) (path : Option String) :
    StopsAtFirst (loadInOrder order fs env path false readYaml)
      (loadInOrder order fs env path true readYaml) := by
  rw [loadInOrder_eq, loadInOrder_eq]
  exact (stopsAtFirst_membersAt readYaml fs path).bind (stopsAtFirst_ofMembers order env)

/-! ## The order of the settings -/

/-- Equal outcomes, or two problems of strict mode that differ in the faulty setting only. -/
def SameUpToField {α : Type} (strict : Bool) (x y : Except ConfigError α) : Prop :=
  x = y ∨ strict = true ∧
    ∃ f g, x = .error (.invalid (.notText f)) ∧ y = .error (.invalid (.notText g))

namespace SameUpToField

variable {α β : Type} {strict : Bool} {x y : Except ConfigError α}

theorem refl (x : Except ConfigError α) : SameUpToField strict x x := .inl rfl

theorem bind {f g : α → Except ConfigError β} (h : SameUpToField strict x y)
    (hf : ∀ a, SameUpToField strict (f a) (g a)) : SameUpToField strict (x >>= f) (y >>= g) := by
  rcases h with rfl | ⟨hstrict, f, g, rfl, rfl⟩
  · cases x with
    | error e => exact .refl _
    | ok a => exact hf a
  · exact .inr ⟨hstrict, f, g, rfl, rfl⟩

end SameUpToField

theorem outcome_applyMembers_of_fine {members : List (Scalar × Value)} {strict : Bool}
    {order : List Field} (h : strict = true → ∀ f ∈ order, ¬ Faulty members f) (c : Config) :
    (order.foldlM (applyMember members strict) c).outcome =
      .ok (order.foldl (fun c f => c.set? f (fromFile members f)) c) := by
  cases strict with
  | false => exact (upToStrict_applyMembers members false order c).eq_of_lenient rfl
  | true =>
    induction order generalizing c with
    | nil => rfl
    | cons f rest ih =>
      have hrest : ∀ g ∈ rest, ¬ Faulty members g := by
        intro g hg
        exact h rfl g (List.mem_cons_of_mem _ hg)
      rcases applyMember_cases members true c f with ⟨-, hfine⟩ | ⟨hfaulty, -⟩
      · rw [List.foldlM_cons, hfine, pure_bind, List.foldl_cons]
        exact ih _ fun _ => hrest
      · exact absurd hfaulty (h rfl f List.mem_cons_self)

theorem exists_outcome_applyMembers {members : List (Scalar × Value)} {order : List Field}
    (h : ∃ f ∈ order, Faulty members f) (c : Config) :
    ∃ f, (order.foldlM (applyMember members true) c).outcome = .error (.invalid (.notText f)) := by
  induction order generalizing c with
  | nil =>
    obtain ⟨f, hf, -⟩ := h
    cases hf
  | cons f rest ih =>
    rw [List.foldlM_cons]
    rcases applyMember_cases members true c f with ⟨hfine, happly⟩ | ⟨-, happly⟩
    · have hrest : ∃ g ∈ rest, Faulty members g := by
        obtain ⟨g, hg, hfaulty⟩ := h
        rcases List.mem_cons.1 hg with rfl | hg
        · exact absurd hfaulty hfine
        · exact ⟨g, hg, hfaulty⟩
      rw [happly, pure_bind]
      exact ih hrest _
    · rw [happly]
      exact ⟨f, rfl⟩

theorem Config.eq_of_get? {c c' : Config} (h : ∀ f, c.get? f = c'.get? f) : c = c' := by
  have hsource := h .sourceDir
  have hinclusion := h .inclusion
  have hexclusion := h .exclusion
  have houtput := Option.some.inj (h .outputFile)
  have hreport := Option.some.inj (h .reportDir)
  cases c
  cases c'
  simp_all [Config.get?]

/-- The order of the settings has no effect but on which faulty one is met first. -/
theorem sameUpToField_applyMembers {order order' : List Field}
    (h : ∀ f, f ∈ order ↔ f ∈ order') (members : List (Scalar × Value)) (strict : Bool) :
    SameUpToField strict (order.foldlM (applyMember members strict) {}).outcome
      (order'.foldlM (applyMember members strict) {}).outcome := by
  by_cases hfaulty : strict = true ∧ ∃ f ∈ order, Faulty members f
  · obtain ⟨rfl, f, hf, hbad⟩ := hfaulty
    obtain ⟨g, hg⟩ := exists_outcome_applyMembers ⟨f, hf, hbad⟩ {}
    obtain ⟨g', hg'⟩ := exists_outcome_applyMembers ⟨f, (h f).1 hf, hbad⟩ {}
    exact .inr ⟨rfl, g, g', hg, hg'⟩
  · have hfine : strict = true → ∀ f ∈ order, ¬ Faulty members f := by
      intro hstrict f hf hbad
      exact hfaulty ⟨hstrict, f, hf, hbad⟩
    have hfine' : strict = true → ∀ f ∈ order', ¬ Faulty members f := by
      intro hstrict f hf
      exact hfine hstrict f ((h f).2 hf)
    rw [outcome_applyMembers_of_fine hfine, outcome_applyMembers_of_fine hfine']
    refine .inl (congrArg Except.ok (Config.eq_of_get? fun f => ?_))
    simp only [get?_foldl_set?, h f]

theorem sameUpToField_loadInOrder [CharacterNames] (readYaml : DocumentReader)
    {order order' : List Field} (h : ∀ f, f ∈ order ↔ f ∈ order') (fs : FileSystem)
    (env : Environment) (path : Option String) (strict : Bool) :
    SameUpToField strict (loadInOrder order fs env path strict readYaml).outcome
      (loadInOrder order' fs env path strict readYaml).outcome := by
  have hvalues : ∀ members, SameUpToField strict (ofValues order env strict members).outcome
      (ofValues order' env strict members).outcome := by
    intro members
    simp only [ofValues, Traced.outcome_bind]
    exact (sameUpToField_applyMembers h members strict).bind fun c => .refl _
  rw [loadInOrder_eq, loadInOrder_eq, Traced.outcome_bind, Traced.outcome_bind]
  refine SameUpToField.bind (.refl _) fun members => ?_
  simp only [ofMembers, Traced.outcome_bind]
  refine SameUpToField.bind (.refl _) fun unknown => ?_
  split
  · rw [Traced.outcome_bind, Traced.outcome_bind]
    exact SameUpToField.bind (.refl _) fun _ => hvalues members
  · exact hvalues members

/-! ## Both modes -/

/-- **Strict mode is the other mode up to its first warning.** Over every system, environment and
path, however YAML is read and whatever the order of the settings: without a warning strict mode
comes out the same. With one it ends with a problem and no note, and the first warning is the text
of that problem with `warningEnd` after it. In another order of the settings neither mode comes out
differently, except that strict mode may meet another faulty setting first. -/
theorem strict_stops_at_first_warning [CharacterNames] (readYaml : DocumentReader)
    (order : List Field) (fs : FileSystem) (env : Environment) (path : Option String) :
    (warnings (loadInOrder order fs env path false readYaml) = [] →
      loadInOrder order fs env path true readYaml = loadInOrder order fs env path false readYaml) ∧
    (∀ n rest, warnings (loadInOrder order fs env path false readYaml) = n :: rest →
      ∃ p, loadInOrder order fs env path true readYaml = .fail (.invalid p) ∧
        n.message = (ConfigError.invalid p).message ++ warningEnd) ∧
    ∀ order', order.Perm order' →
      (loadInOrder order fs env path false readYaml).outcome =
        (loadInOrder order' fs env path false readYaml).outcome ∧
      ((loadInOrder order fs env path true readYaml).outcome =
          (loadInOrder order' fs env path true readYaml).outcome ∨
        ∃ f g,
          (loadInOrder order fs env path true readYaml).outcome = .error (.invalid (.notText f)) ∧
          (loadInOrder order' fs env path true readYaml).outcome =
            .error (.invalid (.notText g))) := by
  have hmodes := stopsAtFirst_loadInOrder readYaml order fs env path
  refine ⟨hmodes.eq_of_quiet, fun n rest hwarned => ?_, fun order' hperm => ?_⟩
  · obtain ⟨p, hstrict, hn⟩ := hmodes.eq_fail hwarned
    refine ⟨p, hstrict, ?_⟩
    rw [hn]
    rfl
  · have hfields : ∀ f, f ∈ order ↔ f ∈ order' := fun f => hperm.mem_iff
    have hlenient := sameUpToField_loadInOrder readYaml hfields fs env path false
    have hstrict := sameUpToField_loadInOrder readYaml hfields fs env path true
    exact ⟨hlenient.resolve_right (by simp), hstrict.imp_right And.right⟩

/-- A file in which two settings are no texts. -/
def faultySystem : FileSystem :=
  (FileSystem.bare "/work").place "reader.json"
    (Text.Utf8.encode "\x7b\"source_dir\": 1, \"output_file\": []\x7d")

/-- Two warnings, of which strict mode turns the first one into its error; which one that is depends
on the order of the settings. Without a file there is no warning. -/
theorem strict_stops_at_first_warning_faulty :
    (warnings (loadInOrder Field.all faultySystem ⟨[]⟩ (some "reader.json") false)).map
        (·.message) =
      ["Reader config 'source_dir' must be a non-empty string; continuing with defaults",
        "Reader config 'output_file' must be a non-empty string; continuing with defaults"] ∧
    (∃ p, (loadInOrder Field.all faultySystem ⟨[]⟩ (some "reader.json") true).outcome =
        .error (.invalid p) ∧
      p.message = "Reader config 'source_dir' must be a non-empty string") ∧
    (loadInOrder Field.all.reverse faultySystem ⟨[]⟩ (some "reader.json") true).outcome =
      .error (.invalid (.notText .outputFile)) ∧
    (loadInOrder Field.all faultySystem ⟨[]⟩ (some "reader.json") false).outcome =
      (loadInOrder Field.all.reverse faultySystem ⟨[]⟩ (some "reader.json") false).outcome ∧
    loadInOrder Field.all faultySystem ⟨[]⟩ none true =
      loadInOrder Field.all faultySystem ⟨[]⟩ none false := by
  obtain ⟨-, hwarned, horder⟩ :=
    strict_stops_at_first_warning Document.ofText Field.all faultySystem ⟨[]⟩ (some "reader.json")
  obtain ⟨hquiet, -, -⟩ :=
    strict_stops_at_first_warning Document.ofText Field.all faultySystem ⟨[]⟩ none
  have hwarnings : warnings (loadInOrder Field.all faultySystem ⟨[]⟩ (some "reader.json") false) =
      [warningOf (.notText .sourceDir), warningOf (.notText .outputFile)] := by decide +kernel
  obtain ⟨p, hp, hmessage⟩ := hwarned _ _ hwarnings
  have htext : p.message = (Problem.notText .sourceDir).message :=
    (String.append_left_inj warningEnd).1 hmessage.symm
  refine ⟨by rw [hwarnings]; decide +kernel, ⟨p, by rw [hp]; rfl, ?_⟩, by decide +kernel,
    (horder _ Field.all.reverse_perm.symm).1, hquiet (by decide +kernel)⟩
  rw [htext]
  decide +kernel

end ApiDecl.Settings
