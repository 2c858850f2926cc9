import ApiDecl.Proofs.DefaultSelection
import ApiDecl.Proofs.Reader
import ApiDecl.Proofs.Trimming
import ApiDecl.Settings.Resolve

/-!
# Settings in layers

A setting comes from the command line, or else from the environment, or else from the file, or else
it has a default. Each layer has its own way to give nothing: an option that is not there, a
variable that is not set or empty, a member that is no text or all blank. `inForce` says which value
counts by looking at the layers from the top; the program overwrites settings from the bottom up.

* `get?_layered`: what the file and the environment together do to one setting.
* `UpToStrict`: strict mode only adds ways to fail, so both modes are compared with one outcome that
  knows no modes (`upToStrict_ofMembers`, `upToStrict_resolve`).
* `resolve_layered`: every setting is the one in force, and outside strict mode the settings are
  refused for a pattern or for the directory only. Patterns are checked before and after the command
  line, so a bad one is refused even where the command line replaces it. This holds however YAML is
  read and whatever characters have names.
* `resolve_hugeRepeat`: a pattern that counts too far is refused with another error than all other
  patterns.
-/

namespace ApiDecl.Settings

open Files (FileSystem)
open Journal (Traced)
open Pattern (CharacterNames)
open Reading (BadPattern compilePattern selectionOf readCorpus)
open Yaml (Scalar Value Document)

variable {readYaml : DocumentReader}

/-! ## Overwriting settings -/

theorem Config.get?_set (c : Config) (f g : Field) (value : String) :
    (c.set f value).get? g = if g = f then some value else c.get? g := by
  cases f <;> cases g <;> rfl

theorem Config.get?_set? (c : Config) (f g : Field) (value : Option String) :
    (c.set? f value).get? g = if g = f then value.or (c.get? g) else c.get? g := by
  cases value with
  | none => simp [Config.set?]
  | some v => simp [Config.set?, Config.get?_set]

/-! ## The layers -/

/-- What the command line gives for a setting. -/
def Options.get? (o : Options) : Field → Option String
  | .sourceDir => o.sourceDir
  | .inclusion => o.inclusion
  | .exclusion => o.exclusion
  | .outputFile => o.outputFile
  | .reportDir => o.reportDir

/-- The variable for a setting. -/
def Field.variableName : Field → Option String
  | .inclusion => some "TYPE_READER_INCLUDE"
  | .exclusion => some "TYPE_READER_EXCLUDE"
  | .outputFile => some "TYPE_READER_OUTPUT"
  | .sourceDir | .reportDir => none

/-- What the environment gives for a setting: the value of its variable, unless that is empty. -/
def Environment.value? (env : Environment) (f : Field) : Option String :=
  (f.variableName.bind env.get?).filter (· ≠ "")

/-- What a file gives for a setting: a text that is not all blank. Patterns are taken as they are,
other texts without the blanks around them. -/
def fromFile (members : List (Scalar × Value)) (f : Field) : Option String :=
  match members.lookup (.str f.key) with
  | some (.scalar (.str s)) =>
    if s.toList.all Text.isBlank then none else some (if f.isPattern then s else Text.trimmed s)
  | _ => none

/-- A setting without the command line. -/
def beforeOptions (env : Environment) (members : List (Scalar × Value)) (f : Field) :
    Option String :=
  (env.value? f).or ((fromFile members f).or (({} : Config).get? f))

/-- A setting, the highest layer first. -/
def inForce (o : Options) (env : Environment) (members : List (Scalar × Value)) (f : Field) :
    Option String :=
  (o.get? f).or (beforeOptions env members f)

theorem get?_applyOptions (o : Options) (c : Config) (f : Field) :
    (applyOptions o c).get? f = (o.get? f).or (c.get? f) := by
  cases f <;> simp [applyOptions, Config.get?_set?, Options.get?]

theorem get?_applyEnvironment (env : Environment) (c : Config) (f : Field) :
    (applyEnvironment env c).get? f = (env.value? f).or (c.get? f) := by
  have hempty : (fun s : String => !s.isEmpty) = fun s => decide (s ≠ "") := by
    funext s
    rw [Bool.eq_iff_iff]
    simp
  cases f <;>
    simp [applyEnvironment, overrides, Config.get?_set?, Environment.value?, Field.variableName,
      hempty]

/-! ## Strict mode -/

/-- A computation comes out like another one, unless strict mode ends it with a problem. -/
def UpToStrict {α : Type} (strict : Bool) (x y : Except ConfigError α) : Prop :=
  x = y ∨ strict = true ∧ ∃ p, x = .error (.invalid p)

namespace UpToStrict

variable {α β : Type} {strict : Bool} {x y : Except ConfigError α}

theorem refl (x : Except ConfigError α) : UpToStrict strict x x := Or.inl rfl

theorem bind (h : UpToStrict strict x y) (f : α → Except ConfigError β) :
    UpToStrict strict (x >>= f) (y >>= f) := by
  rcases h with rfl | ⟨hstrict, p, rfl⟩
  · exact .refl _
  · exact Or.inr ⟨hstrict, p, rfl⟩

theorem andThen {a : α} {f : α → Except ConfigError β} {z : Except ConfigError β}
    (hx : UpToStrict strict x (.ok a)) (hf : UpToStrict strict (f a) z) :
    UpToStrict strict (x >>= f) z := by
  rcases hx with rfl | ⟨hstrict, p, rfl⟩
  · exact hf
  · exact Or.inr ⟨hstrict, p, rfl⟩

theorem eq_of_lenient (h : UpToStrict strict x y) (hstrict : strict = false) : x = y := by
  rcases h with h | ⟨h, -⟩
  · exact h
  · rw [hstrict] at h
    cases h

theorem eq_ok {a : α} (h : UpToStrict strict x y) (hx : x = .ok a) : y = .ok a := by
  rcases h with h | ⟨-, p, h⟩
  · rw [← h, hx]
  · rw [h] at hx
    cases hx

end UpToStrict

theorem upToStrict_complain (strict : Bool) (p : Problem) :
    UpToStrict strict (complain strict p).outcome (.ok ()) := by
  cases strict with
  | false => exact .refl _
  | true => exact Or.inr ⟨rfl, p, rfl⟩

/-! ## The file -/

/-- The settings that members and the environment give, good or not. -/
def layered (order : List Field) (members : List (Scalar × Value)) (env : Environment) : Config :=
  applyEnvironment env (order.foldl (fun c f => c.set? f (fromFile members f)) {})

/-- The order of the fields has no effect, as long as all occur. -/
theorem get?_foldl_set? (value : Field → Option String) (order : List Field) (c : Config)
    (f : Field) :
    (order.foldl (fun c f => c.set? f (value f)) c).get? f =
      if f ∈ order then (value f).or (c.get? f) else c.get? f := by
  induction order generalizing c with
  | nil => simp
  | cons g rest ih =>
    rw [List.foldl_cons, ih, Config.get?_set?]
    by_cases hg : f = g
    · subst hg
      cases value f <;> simp
    · simp [hg]

theorem get?_layered {order : List Field} {f : Field} (hf : f ∈ order)
    (members : List (Scalar × Value)) (env : Environment) :
    (layered order members env).get? f = beforeOptions env members f := by
  rw [layered, get?_applyEnvironment, get?_foldl_set?, if_pos hf, beforeOptions]

/-- A file holds a mapping, all keys of which are texts. No file holds the empty one. -/
inductive Holds (readYaml : DocumentReader) (fs : FileSystem) :
    Option String → List (Scalar × Value) → Prop
  | absent : Holds readYaml fs none []
  | unnamed : Holds readYaml fs (some "") []
  | mapping {path : String} {content : List UInt8} {text : List Char}
      {members : List (Scalar × Value)} : path ≠ "" →
      fs.read (Path.normalize path) = .ok content → Text.Utf8.decodeChars content = .ok text →
      parseDocument (Path.normalize path) (unifyLines text) readYaml =
        .ok (.ok (.mapping members)) →
      (∀ m ∈ members, ∃ key, m.1 = .str key) → Holds readYaml fs (some path) members

/-- The members of the settings file, if a file is named. -/
def membersAt (readYaml : DocumentReader) (fs : FileSystem) (path : Option String)
    (strict : Bool) : Traced ConfigError (List (Scalar × Value)) :=
  match path with
  | some p => if p.isEmpty then pure [] else loadMembers fs p strict readYaml
  | none => pure []

/-- The settings that the values of members and the environment give. -/
def ofValues [CharacterNames] (order : List Field) (env : Environment) (strict : Bool)
    (members : List (Scalar × Value)) : Traced ConfigError Config := do
  let fromFile ← order.foldlM (applyMember members strict) {}
  let config := applyEnvironment env fromFile
  Traced.ofExcept (validatePatterns config)
  return config

/-- The settings that members and the environment give. -/
def ofMembers [CharacterNames] (order : List Field) (env : Environment) (strict : Bool)
    (members : List (Scalar × Value)) : Traced ConfigError Config := do
  let unknown ← Traced.ofExcept (unknownKeys members)
  if !unknown.isEmpty then complain strict (.unknownKeys unknown)
  ofValues order env strict members

theorem loadInOrder_eq [CharacterNames] (order : List Field) (fs : FileSystem) (env : Environment)
    (path : Option String) (strict : Bool) :
    loadInOrder order fs env path strict readYaml =
      membersAt readYaml fs path strict >>= ofMembers order env strict := by
  cases path with
  | none => rfl
  | some p =>
    simp only [loadInOrder, membersAt]
    split <;> rfl

theorem Holds.outcome_membersAt {fs : FileSystem} {path : Option String}
    {members : List (Scalar × Value)} (h : Holds readYaml fs path members) (strict : Bool) :
    (membersAt readYaml fs path strict).outcome = .ok members := by
  cases h with
  | absent => rfl
  | unnamed => rfl
  | mapping hpath hread htext hparse _ =>
    rw [membersAt, if_neg (by simpa [String.isEmpty_iff] using hpath), loadMembers]
    simp only [hread, htext, hparse, Traced.outcome_bind, Traced.outcome_ofExcept, Except.mapError,
      Outcome.ok_bind, Traced.outcome_pure]

theorem Holds.keys {fs : FileSystem} {path : Option String} {members : List (Scalar × Value)}
    (h : Holds readYaml fs path members) : ∀ m ∈ members, ∃ key, m.1 = .str key := by
  cases h with
  | absent | unnamed => simp
  | mapping _ _ _ _ hkeys => exact hkeys

theorem exists_unknownKeys {members : List (Scalar × Value)}
    (h : ∀ m ∈ members, ∃ key, m.1 = .str key) : ∃ keys, unknownKeys members = .ok keys := by
  have hlength : (((members.map (·.1)).filter fun key => !isKnown key).filterMap keyText?).length =
      ((members.map (·.1)).filter fun key => !isKnown key).length := by
    rw [List.filterMap_length_eq_length]
    intro key hkey
    obtain ⟨m, hm, rfl⟩ := List.mem_map.mp (List.mem_filter.mp hkey).1
    obtain ⟨text, htext⟩ := h m hm
    simp [htext, keyText?]
  rw [unknownKeys, if_pos hlength]
  exact ⟨_, rfl⟩

theorem upToStrict_applyMember (members : List (Scalar × Value)) (strict : Bool) (c : Config)
    (f : Field) :
    UpToStrict strict (applyMember members strict c f).outcome
      (.ok (c.set? f (fromFile members f))) := by
  have hcomplain : ∀ p, UpToStrict strict
      (complain strict p >>= fun _ => pure c : Traced ConfigError Config).outcome (.ok c) := by
    intro p
    rw [Traced.outcome_bind]
    exact (upToStrict_complain strict p).andThen (.refl _)
  -- A text that is not all blank is the one value that is taken over.
  cases hlookup : members.lookup (.str f.key) with
  | none => simp [applyMember, fromFile, hlookup, Config.set?, UpToStrict]
  | some value =>
    cases value with
    | list | set | map => simpa [applyMember, fromFile, hlookup, Config.set?] using hcomplain _
    | scalar scalar =>
      cases scalar with
      | null => simp [applyMember, fromFile, hlookup, Config.set?, UpToStrict]
      | str s =>
        simp only [applyMember, fromFile, hlookup, Text.isEmpty_trimmed]
        split
        · exact hcomplain _
        · exact .refl _
      | bool _ | int _ | float _ | bytes _ | time _ =>
        simpa [applyMember, fromFile, hlookup, Config.set?] using hcomplain _

theorem upToStrict_applyMembers (members : List (Scalar × Value)) (strict : Bool)
    (order : List Field) (c : Config) :
    UpToStrict strict (order.foldlM (applyMember members strict) c).outcome
      (.ok (order.foldl (fun c f => c.set? f (fromFile members f)) c)) := by
  induction order generalizing c with
  | nil => exact .refl _
  | cons f rest ih =>
    rw [List.foldlM_cons, Traced.outcome_bind, List.foldl_cons]
    exact (upToStrict_applyMember members strict c f).andThen (ih _)

/-- The settings of members and the environment, if their patterns are good. -/
def ofLayers [CharacterNames] (order : List Field) (env : Environment)
    (members : List (Scalar × Value)) :
    Except ConfigError Config := do
  validatePatterns (layered order members env)
  return layered order members env

theorem upToStrict_ofMembers [CharacterNames] (order : List Field) (env : Environment)
    (strict : Bool) {members : List (Scalar × Value)}
    (hkeys : ∀ m ∈ members, ∃ key, m.1 = .str key) :
    UpToStrict strict (ofMembers order env strict members).outcome
      (ofLayers order env members) := by
  have hvalues : UpToStrict strict (ofValues order env strict members).outcome
      (ofLayers order env members) := by
    rw [ofValues, Traced.outcome_bind]
    refine (upToStrict_applyMembers members strict order {}).andThen ?_
    simp only [Traced.outcome_bind, Traced.outcome_ofExcept, Traced.outcome_pure]
    exact .refl _
  obtain ⟨unknown, hunknown⟩ := exists_unknownKeys hkeys
  simp only [ofMembers, Traced.outcome_bind, Traced.outcome_ofExcept, hunknown, Outcome.ok_bind]
  split
  · rw [Traced.outcome_bind]
    exact (upToStrict_complain strict _).andThen hvalues
  · exact hvalues

/-! ## Patterns -/

/-- The text is a pattern. -/
def Compiles [CharacterNames] (text : String) : Prop := ∃ p, compilePattern text = .ok p

instance [CharacterNames] (text : String) : Decidable (Compiles text) :=
  decidable_of_iff (compilePattern text).isOk Outcome.isOk_iff

/-- How a bad pattern is refused: as a problem of the settings, unless it goes beyond what patterns
can do. -/
def refusal (f : Field) (bad : BadPattern) : ConfigError :=
  if bad.error.isPatternFault then .invalid (.badPattern f.key bad) else .pattern bad

/-- The patterns among settings, in the order in which they are checked. -/
def patternsOf (value : Field → Option String) : List (Field × String) :=
  [Field.inclusion, Field.exclusion].filterMap fun f => (value f).map (f, ·)

theorem mem_patternsOf_iff {value : Field → Option String} {f : Field} {text : String} :
    (f, text) ∈ patternsOf value ↔ f.isPattern ∧ value f = some text := by
  cases f <;> simp [patternsOf, Field.isPattern]

theorem validatePattern_eq_ok_iff [CharacterNames] {f : Field} {text : String} :
    validatePattern f.key text = .ok () ↔ Compiles text := by
  unfold validatePattern Compiles
  split
  · next p hp => simp [hp]
  · next bad hbad => simp [hbad]

theorem validatePattern_eq_error_iff [CharacterNames] {f : Field} {text : String}
    {e : ConfigError} :
    validatePattern f.key text = .error e ↔
      ∃ bad, compilePattern text = .error bad ∧ e = refusal f bad := by
  unfold validatePattern refusal
  split
  · next p hp => simp [hp]
  · next bad hbad =>
    rw [hbad]
    constructor
    · rintro ⟨⟩
      exact ⟨bad, rfl, rfl⟩
    · rintro ⟨_, ⟨⟩, rfl⟩
      rfl

/-- Check patterns one after the other. -/
def checkAll [CharacterNames] (ps : List (Field × String)) : Except ConfigError Unit :=
  ps.forM fun p => validatePattern p.1.key p.2

theorem checkAll_append [CharacterNames] (ps qs : List (Field × String)) :
    checkAll (ps ++ qs) = checkAll ps >>= fun _ => checkAll qs := List.forM_append

theorem checkAll_eq_ok_iff [CharacterNames] {ps : List (Field × String)} :
    checkAll ps = .ok () ↔ ∀ p ∈ ps, Compiles p.2 := by
  simp only [checkAll, Outcome.forM_eq_ok_iff, validatePattern_eq_ok_iff]

/-- The first pattern of a list that is a bad one. -/
def FirstBad [CharacterNames] (ps : List (Field × String)) (f : Field) (bad : BadPattern) : Prop :=
  ∃ before text after, ps = before ++ (f, text) :: after ∧ (∀ p ∈ before, Compiles p.2) ∧
    compilePattern text = .error bad

theorem checkAll_eq_error_iff [CharacterNames] {ps : List (Field × String)} {e : ConfigError} :
    checkAll ps = .error e ↔ ∃ f bad, FirstBad ps f bad ∧ e = refusal f bad := by
  simp only [checkAll, Outcome.forM_eq_error_iff, validatePattern_eq_ok_iff,
    validatePattern_eq_error_iff]
  constructor
  · rintro ⟨before, ⟨f, text⟩, after, hsplit, hbefore, bad, hbad, he⟩
    exact ⟨f, bad, ⟨before, text, after, hsplit, hbefore, hbad⟩, he⟩
  · rintro ⟨f, bad, ⟨before, text, after, hsplit, hbefore, hbad⟩, he⟩
    exact ⟨before, (f, text), after, hsplit, hbefore, bad, hbad, he⟩

theorem validatePatterns_eq [CharacterNames] (c : Config) : validatePatterns c = checkAll
    (patternsOf c.get?) := by
  unfold validatePatterns checkAll patternsOf
  cases hi : c.get? .inclusion <;> cases he : c.get? .exclusion <;>
    simp [hi, he, ← Outcome.pure_eq_ok]

/-! ## All checks -/

/-- The directory to read is missing or empty. -/
def NoSourceDir (value : Field → Option String) : Prop :=
  value .sourceDir = none ∨ value .sourceDir = some ""

theorem requireSourceDir_eq_error_iff {c : Config} {e : ConfigError} :
    requireSourceDir c = .error e ↔ NoSourceDir c.get? ∧ e = .invalid .noSourceDir := by
  unfold requireSourceDir NoSourceDir Config.get?
  cases c.sourceDir with
  | none => simpa using eq_comm
  | some directory =>
    by_cases hd : directory = ""
    · simpa [hd] using eq_comm
    · simp [hd]

theorem exists_sourceDir {c : Config} (h : ¬ NoSourceDir c.get?) :
    ∃ directory, c.sourceDir = some directory ∧ directory ≠ "" := by
  cases hd : c.sourceDir with
  | none => exact absurd (Or.inl hd) h
  | some directory =>
    refine ⟨directory, rfl, fun hempty => h (Or.inr ?_)⟩
    rw [← hempty]
    exact hd

/-- What is done with settings from below the command line. -/
def settle [CharacterNames] (o : Options) (c : Config) : Except ConfigError Config := do
  validatePatterns c
  validatePatterns (applyOptions o c)
  let _ ← requireSourceDir (applyOptions o c)
  return applyOptions o c

/-- The patterns that are checked: those without the command line, then those in force. -/
def checked (o : Options) (env : Environment) (members : List (Scalar × Value)) :
    List (Field × String) :=
  patternsOf (beforeOptions env members) ++ patternsOf (inForce o env members)

section Resolve

variable {fs : FileSystem} {env : Environment} {o : Options} {members : List (Scalar × Value)}

theorem get?_layered_all (env : Environment) (members : List (Scalar × Value)) :
    (layered Field.all members env).get? = beforeOptions env members := by
  funext f
  exact get?_layered (by cases f <;> decide) members env

theorem get?_applyOptions_all (o : Options) (env : Environment) (members : List (Scalar × Value)) :
    (applyOptions o (layered Field.all members env)).get? = inForce o env members := by
  funext f
  rw [get?_applyOptions, get?_layered_all, inForce]

theorem upToStrict_resolve [CharacterNames] (hfile : Holds readYaml fs o.config members)
    (env : Environment) :
    UpToStrict (strictMode env false) (resolve fs env o readYaml).outcome
      (settle o (layered Field.all members env)) := by
  simp only [resolve, load, loadInOrder_eq, Traced.outcome_bind, Traced.outcome_ofExcept,
    Traced.outcome_pure, hfile.outcome_membersAt, Outcome.ok_bind]
  have hload := upToStrict_ofMembers Field.all env (strictMode env false) hfile.keys
  have hsettle : settle o (layered Field.all members env) =
      ofLayers Field.all env members >>= fun c => do
        validatePatterns (applyOptions o c)
        let _ ← requireSourceDir (applyOptions o c)
        return applyOptions o c := by
    rw [ofLayers, bind_assoc]
    rfl
  rw [hsettle]
  exact hload.bind _

theorem settle_eq [CharacterNames] (o : Options) (env : Environment)
    (members : List (Scalar × Value)) :
    settle o (layered Field.all members env) = do
      checkAll (checked o env members)
      let _ ← requireSourceDir (applyOptions o (layered Field.all members env))
      return applyOptions o (layered Field.all members env) := by
  rw [settle, validatePatterns_eq, validatePatterns_eq, get?_layered_all, get?_applyOptions_all,
    checked, checkAll_append, bind_assoc]

/-- Settling fails on the first bad pattern, and after the patterns on the directory. -/
theorem settle_eq_error_iff [CharacterNames] {e : ConfigError} :
    settle o (layered Field.all members env) = .error e ↔
      (∃ f bad, FirstBad (checked o env members) f bad ∧ e = refusal f bad) ∨
        (∀ p ∈ checked o env members, Compiles p.2) ∧ NoSourceDir (inForce o env members) ∧
          e = .invalid .noSourceDir := by
  rw [settle_eq, Outcome.bind_eq_error_iff, checkAll_eq_error_iff]
  refine or_congr Iff.rfl ?_
  rw [← checkAll_eq_ok_iff, ← get?_applyOptions_all, ← requireSourceDir_eq_error_iff]
  constructor
  · rintro ⟨_, hok, h⟩
    rcases Outcome.bind_eq_error_iff.mp h with h | ⟨_, _, h⟩
    · exact ⟨hok, h⟩
    · cases h
  · rintro ⟨hok, h⟩
    exact ⟨(), hok, by rw [h]; rfl⟩

theorem settle_eq_ok [CharacterNames] {c : Config}
    (h : settle o (layered Field.all members env) = .ok c) :
    c = applyOptions o (layered Field.all members env) ∧
      (∀ p ∈ checked o env members, Compiles p.2) ∧ ¬ NoSourceDir (inForce o env members) := by
  rw [settle_eq] at h
  obtain ⟨_, hchecked, h⟩ := Outcome.bind_eq_ok_iff.mp h
  obtain ⟨directory, hdirectory, h⟩ := Outcome.bind_eq_ok_iff.mp h
  refine ⟨(Except.ok.inj h).symm, checkAll_eq_ok_iff.mp hchecked, fun hnone => ?_⟩
  rw [← get?_applyOptions_all] at hnone
  rw [requireSourceDir_eq_error_iff.mpr ⟨hnone, rfl⟩] at hdirectory
  cases hdirectory

theorem mem_checked_iff {f : Field} {text : String} :
    (f, text) ∈ checked o env members ↔ f.isPattern ∧
      (beforeOptions env members f = some text ∨ inForce o env members f = some text) := by
  rw [checked, List.mem_append, mem_patternsOf_iff, mem_patternsOf_iff, and_or_left]

/-- Among patterns that are not all good there is a first bad one. -/
theorem exists_firstBad_iff [CharacterNames] {ps : List (Field × String)} :
    (∃ f bad, FirstBad ps f bad) ↔ ∃ p ∈ ps, ¬ Compiles p.2 := by
  cases hps : checkAll ps with
  | ok _ =>
    have hall := checkAll_eq_ok_iff.mp hps
    constructor
    · rintro ⟨f, bad, hbad⟩
      rw [checkAll_eq_error_iff.mpr ⟨f, bad, hbad, rfl⟩] at hps
      cases hps
    · rintro ⟨p, hp, hbad⟩
      exact absurd (hall p hp) hbad
  | error e =>
    obtain ⟨f, bad, hbad, -⟩ := checkAll_eq_error_iff.mp hps
    refine iff_of_true ⟨f, bad, hbad⟩ ?_
    by_contra hall
    rw [checkAll_eq_ok_iff.mpr (by simpa using hall)] at hps
    cases hps

/-- A bad pattern stands below the command line or in force. -/
theorem exists_bad_iff [CharacterNames] : (∃ p ∈ checked o env members, ¬ Compiles p.2) ↔
    (∃ f text, f.isPattern ∧ beforeOptions env members f = some text ∧ ¬ Compiles text) ∨
      ∃ f text, f.isPattern ∧ inForce o env members f = some text ∧ ¬ Compiles text := by
  constructor
  · rintro ⟨⟨f, text⟩, hp, hbad⟩
    obtain ⟨hf, hbefore | hforce⟩ := mem_checked_iff.mp hp
    · exact Or.inl ⟨f, text, hf, hbefore, hbad⟩
    · exact Or.inr ⟨f, text, hf, hforce, hbad⟩
  · rintro (⟨f, text, hf, hbefore, hbad⟩ | ⟨f, text, hf, hforce, hbad⟩)
    · exact ⟨(f, text), mem_checked_iff.mpr ⟨hf, Or.inl hbefore⟩, hbad⟩
    · exact ⟨(f, text), mem_checked_iff.mpr ⟨hf, Or.inr hforce⟩, hbad⟩

theorem exists_settle_error_iff [CharacterNames] :
    (∃ e, settle o (layered Field.all members env) = .error e) ↔
      (∃ p ∈ checked o env members, ¬ Compiles p.2) ∨ NoSourceDir (inForce o env members) := by
  simp only [settle_eq_error_iff]
  constructor
  · rintro ⟨_, ⟨f, bad, hbad, -⟩ | ⟨-, hnone, -⟩⟩
    · exact Or.inl (exists_firstBad_iff.mp ⟨f, bad, hbad⟩)
    · exact Or.inr hnone
  · intro h
    by_cases hbad : ∃ p ∈ checked o env members, ¬ Compiles p.2
    · obtain ⟨f, bad, hfirst⟩ := exists_firstBad_iff.mpr hbad
      exact ⟨_, Or.inl ⟨f, bad, hfirst, rfl⟩⟩
    · exact ⟨_, Or.inr ⟨by simpa using hbad, h.resolve_left hbad, rfl⟩⟩

end Resolve

/-! ## Patterns that are used -/

theorem compiles_patternOr [CharacterNames] {default : String} {given : Option String}
    (hdefault : Compiles default) (hgiven : ∀ text, given = some text → Compiles text) :
    Compiles (Reading.patternOr default given) := by
  unfold Reading.patternOr
  split
  · next text =>
    split
    · exact hdefault
    · exact hgiven text rfl
  · exact hdefault

theorem exists_selectionOf [CharacterNames] {inclusion exclusion : Option String}
    (hinclusion : ∀ text, inclusion = some text → Compiles text)
    (hexclusion : ∀ text, exclusion = some text → Compiles text) :
    ∃ s, selectionOf inclusion exclusion = .ok s := by
  obtain ⟨p, hp⟩ := compiles_patternOr ⟨_, Reading.compilePattern_defaultInclusion⟩ hinclusion
  obtain ⟨q, hq⟩ := compiles_patternOr ⟨_, Reading.compilePattern_defaultExclusion⟩ hexclusion
  exact ⟨⟨p, q⟩, by rw [selectionOf, Reading.Selection.compile, hp, hq]; rfl⟩

/-! ## The settings of a run -/

/-- **Settings come in layers.** Over no file, or over one that holds a mapping with texts as keys,
the settings that are returned are those in force, in both modes. Their directory is not empty, and
no reading with their patterns fails on a pattern. Outside strict mode settings are refused exactly
if a pattern is bad, be it without the command line or in force, or if the directory is missing or
empty. The first bad pattern counts, and it alone decides between a problem of the settings and an
error of its own; the directory comes last. -/
theorem resolve_layered [CharacterNames] {fs : FileSystem} {env : Environment} {o : Options}
    {members : List (Scalar × Value)} (hfile : Holds readYaml fs o.config members) :
    (∀ c, (resolve fs env o readYaml).outcome = .ok c →
      (∀ f, c.get? f = inForce o env members f) ∧
      (∃ directory, c.sourceDir = some directory ∧ directory ≠ "") ∧
      (∃ s, selectionOf c.inclusion c.exclusion = .ok s) ∧
      ∀ corpus bad,
        (readCorpus corpus c.inclusion c.exclusion).outcome ≠ .error (.pattern bad)) ∧
    (strictMode env false = false →
      ((∃ e, (resolve fs env o readYaml).outcome = .error e) ↔
        (∃ f text, f.isPattern ∧ beforeOptions env members f = some text ∧ ¬ Compiles text) ∨
        (∃ f text, f.isPattern ∧ inForce o env members f = some text ∧ ¬ Compiles text) ∨
        NoSourceDir (inForce o env members)) ∧
      ∀ e, (resolve fs env o readYaml).outcome = .error e ↔
        (∃ f bad, FirstBad (checked o env members) f bad ∧ e = refusal f bad) ∨
        (∀ p ∈ checked o env members, Compiles p.2) ∧ NoSourceDir (inForce o env members) ∧
          e = .invalid .noSourceDir) := by
  constructor
  · intro c hc
    obtain ⟨rfl, hchecked, hdirectory⟩ := settle_eq_ok ((upToStrict_resolve hfile env).eq_ok hc)
    have hfields := get?_applyOptions_all o env members
    rw [← hfields] at hdirectory
    have hpattern : ∀ f text, f.isPattern →
        (applyOptions o (layered Field.all members env)).get? f = some text → Compiles text := by
      intro f text hf htext
      rw [hfields] at htext
      exact hchecked (f, text) (mem_checked_iff.mpr ⟨hf, Or.inr htext⟩)
    obtain ⟨s, hs⟩ := exists_selectionOf (fun text => hpattern .inclusion text rfl)
      (fun text => hpattern .exclusion text rfl)
    refine ⟨congrFun hfields, exists_sourceDir hdirectory, ⟨s, hs⟩, fun corpus bad hbad => ?_⟩
    obtain ⟨_, _, _, _, herror, -⟩ := (Reading.readCorpus_eq_error_iff hs).mp hbad
    cases herror
  · intro hlenient
    have h := (upToStrict_resolve hfile env).eq_of_lenient hlenient
    refine ⟨?_, fun e => ?_⟩
    · rw [h, exists_settle_error_iff, exists_bad_iff, or_assoc]
    · rw [h, settle_eq_error_iff]

/-- A file with blanks around its values, a blank value and a key that is not known. -/
def sampleText : String :=
  "\x7b\"source_dir\": \" api \", \"include_pattern\": \"a\", \"exclude_pattern\": \" x \", " ++
    "\"output_file\": \" \", \"extra\": 1\x7d"

/-- What the file holds. -/
def sampleMembers : List (Scalar × Value) :=
  [(.str "source_dir", .scalar (.str " api ")), (.str "include_pattern", .scalar (.str "a")),
    (.str "exclude_pattern", .scalar (.str " x ")), (.str "output_file", .scalar (.str " ")),
    (.str "extra", .scalar (.int 1))]

/-- A system with the file. -/
def sampleSystem : FileSystem :=
  (FileSystem.bare "/work").place "reader.json" (Text.Utf8.encode sampleText)

/-- An empty inclusion on the command line. -/
def sampleOptions : Options := { config := some "reader.json", inclusion := some "" }

/-- A bad pattern for the same setting. -/
def sampleEnvironment : Environment := ⟨[("TYPE_READER_INCLUDE", "(")]⟩

/-- The directory is trimmed and the exclusion is not, the blank value gives way to the default, and
the empty option stands. With the bad pattern below it the settings are refused all the same. -/
theorem resolve_layered_sample :
    Holds Document.ofText sampleSystem sampleOptions.config sampleMembers ∧
      (∃ c, (resolve sampleSystem ⟨[]⟩ sampleOptions).outcome = .ok c ∧
        (∀ f, c.get? f = inForce sampleOptions ⟨[]⟩ sampleMembers f) ∧
        c = ⟨some "api", some "", some " x ", "output/model.json", "output/run_reports"⟩ ∧
        ∃ s, selectionOf c.inclusion c.exclusion = .ok s) ∧
      strictMode sampleEnvironment false = false ∧
      inForce sampleOptions sampleEnvironment sampleMembers .inclusion = some "" ∧
      ∃ e, (resolve sampleSystem sampleEnvironment sampleOptions).outcome = .error e := by
  have hfile : Holds Document.ofText sampleSystem sampleOptions.config sampleMembers :=
    @Holds.mapping Document.ofText sampleSystem "reader.json" (Text.Utf8.encode sampleText)
      sampleText.toList sampleMembers (by decide) (by decide +kernel) (by decide +kernel)
      (by decide +kernel) (by simp [sampleMembers])
  have hok : (resolve sampleSystem ⟨[]⟩ sampleOptions).outcome =
      .ok ⟨some "api", some "", some " x ", "output/model.json", "output/run_reports"⟩ := by
    decide +kernel
  have hbad : ¬ Compiles "(" := by decide +kernel
  obtain ⟨hfields, -, hselection, -⟩ := (resolve_layered hfile).1 _ hok
  have hlenient : strictMode sampleEnvironment false = false := by decide +kernel
  refine ⟨hfile, ⟨_, hok, hfields, rfl, hselection⟩, hlenient, by decide, ?_⟩
  exact ((resolve_layered hfile).2 hlenient).1.mpr (Or.inl ⟨.inclusion, "(", rfl, by decide, hbad⟩)

/-- A pattern that counts further than patterns can. -/
def hugeRepeat : String := "a\x7b4294967296\x7d"

/-- A pattern that counts too far is refused, but not as a problem of the settings. -/
theorem resolve_hugeRepeat :
    ∃ o, Command.ofWords ["--source-dir", "x", "--include", hugeRepeat] = .ok (.run o) ∧
      Holds Document.ofText sampleSystem o.config [] ∧ strictMode ⟨[]⟩ false = false ∧
      inForce o ⟨[]⟩ [] .inclusion = some hugeRepeat ∧ ¬ Compiles hugeRepeat ∧
      (resolve sampleSystem ⟨[]⟩ o).outcome = .error (.pattern ⟨hugeRepeat, .hugeRepeat⟩) ∧
      ∀ p, (resolve sampleSystem ⟨[]⟩ o).outcome ≠ .error (.invalid p) := by
  have hresolve : (resolve sampleSystem ⟨[]⟩
      { sourceDir := some "x", inclusion := some hugeRepeat }).outcome =
        .error (.pattern ⟨hugeRepeat, .hugeRepeat⟩) := by decide +kernel
  refine ⟨{ sourceDir := some "x", inclusion := some hugeRepeat }, by decide +kernel, .absent,
    by decide, by decide, by decide +kernel, hresolve, fun p hp => ?_⟩
  rw [hresolve] at hp
  cases hp

end ApiDecl.Settings
