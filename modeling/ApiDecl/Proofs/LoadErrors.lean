import ApiDecl.Proofs.JsonText
import ApiDecl.Proofs.Layers
import ApiDecl.Proofs.Utf8

/-!
# How the reading of settings fails

A settings file holds members, or it is unusable, which is a problem, or reading it fails in a way
that neither mode turns into a problem (`Escape`): it is there but cannot be read, its bytes are no
text, a scalar in it has no value, or one of its keys is no text. One of the three happens for
every file system and every path (`exists_given_or_escape`).

Outside strict mode an unusable file counts as one without members (`Given`), so only escapes and
bad patterns are left as errors, and strict mode adds nothing but problems (`load_errors`). That
escapes do occur, in both modes, is shown by a directory, a file that may not be read, a stray byte,
an integer that is too long and a numbered key (`load_not_only_problems`).
-/

namespace ApiDecl.Settings

open Files (FileSystem Fault)
open Journal (Traced)
open Pattern (CharacterNames)
open Outcome (FailsOnly failsOnly_ok failsOnly_error)
open Yaml (Scalar Value Document)

variable {readYaml : DocumentReader}

/-! ## Keys that are no texts -/

/-- All keys are texts. -/
def TextKeys (members : List (Scalar × Value)) : Prop := ∀ m ∈ members, ∃ key, m.1 = .str key

/-- An error that keys cause. -/
inductive IsKeyError : ConfigError → Prop
  | notText (typeName : String) : IsKeyError (.keyNotText typeName)
  | notComparable (reason : Yaml.Unordered) : IsKeyError (.keysNotComparable reason)

theorem failsOnly_insertKey (key : Scalar) (keys : List Scalar) :
    FailsOnly IsKeyError (insertKey key keys) := by
  induction keys with
  | nil => exact failsOnly_ok _
  | cons k rest ih =>
    rw [insertKey]
    split
    · exact failsOnly_error (.notComparable _)
    · exact failsOnly_ok _
    · exact ih.bind fun _ => failsOnly_ok _

theorem failsOnly_insertKeys (keys done : List Scalar) :
    FailsOnly IsKeyError (keys.foldlM (fun done key => insertKey key done) done) := by
  induction keys generalizing done with
  | nil => exact failsOnly_ok _
  | cons key rest ih =>
    rw [List.foldlM_cons]
    exact (failsOnly_insertKey key done).bind fun sorted => ih sorted

/-- A key that is no text is not known either, and it cannot be listed among the unknown ones. -/
theorem exists_keyError {members : List (Scalar × Value)} (h : ¬ TextKeys members) :
    ∃ e, unknownKeys members = .error e ∧ IsKeyError e := by
  obtain ⟨m, hm, hkey⟩ : ∃ m ∈ members, ∀ key, m.1 ≠ .str key := by
    simpa [TextKeys] using h
  have hunknown : m.1 ∈ (members.map (·.1)).filter fun key => !isKnown key := by
    refine List.mem_filter.mpr ⟨List.mem_map_of_mem hm, ?_⟩
    simp [isKnown, hkey]
  have hnone : keyText? m.1 = none := by
    unfold keyText?
    split
    · next key he => exact absurd he (hkey key)
    · rfl
  have hlength : (((members.map (·.1)).filter fun key => !isKnown key).filterMap keyText?).length ≠
      ((members.map (·.1)).filter fun key => !isKnown key).length := by
    intro hall
    have hsome := List.filterMap_length_eq_length.mp hall m.1 hunknown
    simp [hnone] at hsome
  rw [unknownKeys, if_neg hlength]
  cases hsorted : ((members.map (·.1)).filter fun key => !isKnown key).foldlM
      (fun done key => insertKey key done) [] with
  | error e => exact ⟨e, rfl, failsOnly_insertKeys _ _ e hsorted⟩
  | ok sorted => exact ⟨_, rfl, .notText _⟩

/-! ## What a path leads to -/

/-- What comes of the text of the settings file. -/
inductive Parses (readYaml : DocumentReader) (fs : FileSystem) :
    Option String → Except Yaml.Error (Except String Document) → Prop
  | file {path : String} {content : List UInt8} {text : List Char}
      {parsed : Except Yaml.Error (Except String Document)} : path ≠ "" →
      fs.read (Path.normalize path) = .ok content → Text.Utf8.decodeChars content = .ok text →
      parseDocument (Path.normalize path) (unifyLines text) readYaml = parsed →
      Parses readYaml fs (some path) parsed

/-- The file is missing, or it holds no document or another one than a mapping. -/
inductive Unusable (readYaml : DocumentReader) (fs : FileSystem) : Option String → Prop
  | missing {path : String} {fault : Fault} : path ≠ "" →
      fs.read (Path.normalize path) = .error fault → fault.cause = .missing →
      Unusable readYaml fs (some path)
  | malformed {path : Option String} {detail : String} :
      Parses readYaml fs path (.ok (.error detail)) → Unusable readYaml fs path
  | notMapping {path : Option String} {value : Value} :
      Parses readYaml fs path (.ok (.ok (.other value))) → Unusable readYaml fs path

/-- An error with which reading the file ends in both modes. -/
inductive Escape (readYaml : DocumentReader) (fs : FileSystem) : Option String → ConfigError → Prop
  | unreadable {path : String} {fault : Fault} : path ≠ "" →
      fs.read (Path.normalize path) = .error fault → fault.cause ≠ .missing →
      Escape readYaml fs (some path) (.unreadable fault)
  | undecodable {path : String} {content : List UInt8} {error : Text.Utf8.DecodeError} :
      path ≠ "" → fs.read (Path.normalize path) = .ok content →
      Text.Utf8.decodeChars content = .error error →
      Escape readYaml fs (some path) (.undecodable error)
  | badScalar {path : Option String} {error : Yaml.Error} : Parses readYaml fs path (.error error) →
      Escape readYaml fs path (.badScalar error)
  | keys {path : Option String} {members : List (Scalar × Value)} {e : ConfigError} :
      Parses readYaml fs path (.ok (.ok (.mapping members))) → ¬ TextKeys members →
      unknownKeys members = .error e → IsKeyError e → Escape readYaml fs path e

/-- The members with which the reading goes on outside strict mode. -/
inductive Given (readYaml : DocumentReader) (fs : FileSystem) :
    Option String → List (Scalar × Value) → Prop
  | holds {path : Option String} {members : List (Scalar × Value)} :
      Holds readYaml fs path members → Given readYaml fs path members
  | unusable {path : Option String} : Unusable readYaml fs path → Given readYaml fs path []

theorem exists_given_or_escape_of_parses {fs : FileSystem} {path : Option String}
    {parsed : Except Yaml.Error (Except String Document)} (h : Parses readYaml fs path parsed) :
    (∃ members, Given readYaml fs path members) ∨ ∃ e, Escape readYaml fs path e := by
  match parsed, h with
  | .error error, h => exact .inr ⟨_, .badScalar h⟩
  | .ok (.error detail), h => exact .inl ⟨[], .unusable (.malformed h)⟩
  | .ok (.ok (.other value)), h => exact .inl ⟨[], .unusable (.notMapping h)⟩
  | .ok (.ok (.mapping members)), h =>
    by_cases hkeys : TextKeys members
    · cases h with
      | file hpath hread htext hparsed =>
        exact .inl ⟨members, .holds (.mapping hpath hread htext hparsed hkeys)⟩
    · obtain ⟨e, he, hkind⟩ := exists_keyError hkeys
      exact .inr ⟨e, .keys h hkeys he hkind⟩

/-- Whatever a path leads to, there are members to go on with, or reading ends in both modes. -/
theorem exists_given_or_escape (readYaml : DocumentReader) (fs : FileSystem)
    (path : Option String) :
    (∃ members, Given readYaml fs path members) ∨ ∃ e, Escape readYaml fs path e := by
  cases path with
  | none => exact .inl ⟨[], .holds .absent⟩
  | some path =>
    by_cases hpath : path = ""
    · subst hpath
      exact .inl ⟨[], .holds .unnamed⟩
    · cases hread : fs.read (Path.normalize path) with
      | error fault =>
        by_cases hcause : fault.cause = .missing
        · exact .inl ⟨[], .unusable (.missing hpath hread hcause)⟩
        · exact .inr ⟨_, .unreadable hpath hread hcause⟩
      | ok content =>
        cases htext : Text.Utf8.decodeChars content with
        | error error => exact .inr ⟨_, .undecodable hpath hread htext⟩
        | ok text => exact exists_given_or_escape_of_parses (.file hpath hread htext rfl)

theorem Escape.not_invalid {fs : FileSystem} {path : Option String} {e : ConfigError}
    (h : Escape readYaml fs path e) (p : Problem) : e ≠ .invalid p := by
  cases h with
  | unreadable | undecodable | badScalar => simp
  | keys _ _ _ hkind => cases hkind <;> simp

/-! ## Outcomes -/

/-- What becomes of a document. -/
def ofDocument (path : String) (strict : Bool) :
    Except String Document → Except ConfigError (List (Scalar × Value))
  | .error detail => do
    (complain strict (.unparsable path detail)).outcome
    return []
  | .ok (.mapping members) => .ok members
  | .ok (.other value) => do
    (complain strict
      (if value = .scalar .null then .emptyFile path else .notMapping value.typeName)).outcome
    return []

theorem outcome_loadMembers {fs : FileSystem} {path : String} {content : List UInt8}
    {text : List Char} (hread : fs.read (Path.normalize path) = .ok content)
    (htext : Text.Utf8.decodeChars content = .ok text) (strict : Bool) :
    (loadMembers fs path strict readYaml).outcome =
      (parseDocument (Path.normalize path) (unifyLines text) readYaml).mapError .badScalar >>=
        ofDocument (Path.normalize path) strict := by
  simp only [loadMembers, hread, htext, Traced.outcome_bind, Traced.outcome_ofExcept,
    Outcome.mapError_ok, Outcome.ok_bind]
  congr 1
  funext document
  cases document with
  | error detail => exact Traced.outcome_bind _ _
  | ok document =>
    cases document with
    | mapping members => rfl
    | other value => exact Traced.outcome_bind _ _

theorem membersAt_of_ne (fs : FileSystem) {path : String} (h : path ≠ "") (strict : Bool) :
    membersAt readYaml fs (some path) strict = loadMembers fs path strict readYaml := by
  rw [membersAt, if_neg (by simpa [String.isEmpty_iff] using h)]

theorem Parses.outcome_membersAt {fs : FileSystem} {path : Option String}
    {parsed : Except Yaml.Error (Except String Document)} (h : Parses readYaml fs path parsed)
    (strict : Bool) :
    ∃ file, (membersAt readYaml fs path strict).outcome =
      parsed.mapError .badScalar >>= ofDocument file strict := by
  cases h with
  | @file path _ _ _ hpath hread htext hparsed =>
    refine ⟨Path.normalize path, ?_⟩
    rw [membersAt_of_ne fs hpath, outcome_loadMembers hread htext, hparsed]

/-- An unusable file is one without members, unless strict mode ends the reading. -/
theorem Unusable.upToStrict {fs : FileSystem} {path : Option String} (h : Unusable readYaml fs path)
    (strict : Bool) : UpToStrict strict (membersAt readYaml fs path strict).outcome (.ok []) := by
  cases h with
  | missing hpath hread hcause =>
    rw [membersAt_of_ne fs hpath, loadMembers]
    simp only [hread, hcause, if_true, Traced.outcome_bind]
    exact (upToStrict_complain strict _).andThen (.refl _)
  | malformed hparses | notMapping hparses =>
    obtain ⟨file, hmembers⟩ := hparses.outcome_membersAt strict
    rw [hmembers]
    exact (upToStrict_complain strict _).andThen (.refl _)

/-- Both modes come out as the layers say, but for the problems that strict mode ends with. -/
theorem Given.upToStrict [CharacterNames] {fs : FileSystem} {path : Option String}
    {members : List (Scalar × Value)} (h : Given readYaml fs path members) (order : List Field)
    (env : Environment) (strict : Bool) :
    UpToStrict strict (loadInOrder order fs env path strict readYaml).outcome
      (ofLayers order env members) := by
  rw [loadInOrder_eq, Traced.outcome_bind]
  cases h with
  | holds hholds =>
    rw [hholds.outcome_membersAt, Outcome.ok_bind]
    exact upToStrict_ofMembers order env strict hholds.keys
  | unusable hunusable =>
    exact (hunusable.upToStrict strict).andThen (upToStrict_ofMembers order env strict (by simp))

/-- An escape ends the reading in both modes. -/
theorem Escape.outcome [CharacterNames] {fs : FileSystem} {path : Option String} {e : ConfigError}
    (h : Escape readYaml fs path e) (order : List Field) (env : Environment) (strict : Bool) :
    (loadInOrder order fs env path strict readYaml).outcome = .error e := by
  rw [loadInOrder_eq, Traced.outcome_bind]
  cases h with
  | unreadable hpath hread hcause =>
    rw [membersAt_of_ne fs hpath, loadMembers]
    simp only [hread, if_neg hcause]
    rfl
  | undecodable hpath hread htext =>
    rw [membersAt_of_ne fs hpath, loadMembers]
    simp only [hread, htext]
    rfl
  | badScalar hparses =>
    obtain ⟨file, hmembers⟩ := hparses.outcome_membersAt strict
    rw [hmembers]
    rfl
  | keys hparses _ hkeys _ =>
    obtain ⟨file, hmembers⟩ := hparses.outcome_membersAt strict
    rw [hmembers]
    show (ofMembers order env strict _).outcome = _
    rw [ofMembers, Traced.outcome_bind, Traced.outcome_ofExcept, hkeys]
    rfl

theorem unifyLines_eq_self {cs : List Char} (h : '\r' ∉ cs) : unifyLines cs = cs := by
  induction cs with
  | nil => rfl
  | cons c cs ih =>
    obtain ⟨hc, hcs⟩ := not_or.1 (mt List.mem_cons.2 h)
    rw [unifyLines, ih hcs]
    · rintro _ rfl
      exact absurd rfl hc
    · rintro rfl
      exact absurd rfl hc

/-- A JSON file with nothing in it but an integer that is too long is an escape. -/
theorem escape_longInteger {fs : FileSystem} {path : String} {ds : List Char} (hpath : path ≠ "")
    (hjson : isJsonPath (Path.normalize path) = true)
    (hread : fs.read (Path.normalize path) = .ok (Text.Utf8.encodeChars ds))
    (hdigits : ∀ d ∈ ds, d.isDigit = true) (hzero : ds.head? ≠ some '0')
    (hlong : Decimal.digitLimit < ds.length) :
    Escape readYaml fs (some path)
      (.badScalar (.badValue (Decimal.excessMessage Decimal.digitLimit ds.length))) := by
  have hlines : unifyLines ds = ds := by
    refine unifyLines_eq_self fun hreturn => ?_
    exact absurd (hdigits _ hreturn) (by decide)
  have hparsed : parseDocument (Path.normalize path) (unifyLines ds) readYaml =
      .error (.badValue (Decimal.excessMessage Decimal.digitLimit ds.length)) := by
    rw [parseDocument, if_pos hjson, hlines, Json.parse_long hdigits hzero hlong]
    rfl
  exact .badScalar (.file hpath hread (Text.Utf8.decodeChars_encodeChars ds) hparsed)

theorem ofLayers_eq_error_iff [CharacterNames] {order : List Field} (horder : ∀ f, f ∈ order)
    {env : Environment} {members : List (Scalar × Value)} {e : ConfigError} :
    ofLayers order env members = .error e ↔
      ∃ f bad, FirstBad (patternsOf (beforeOptions env members)) f bad ∧ e = refusal f bad := by
  have hget : (layered order members env).get? = beforeOptions env members := by
    funext f
    exact get?_layered (horder f) members env
  rw [ofLayers, Outcome.bind_eq_error_iff, validatePatterns_eq, hget, checkAll_eq_error_iff]
  constructor
  · rintro (h | ⟨_, _, h⟩)
    · exact h
    · cases h
  · exact .inl

/-! ## All errors -/

theorem refusal_eq (f : Field) (bad : Reading.BadPattern) :
    refusal f bad = if bad.error = .hugeRepeat ∨ bad.error = .incompatibleTypes then .pattern bad
      else .invalid (.badPattern f.key bad) := by
  unfold refusal
  cases bad.error <;> simp [Pattern.Error.isPatternFault]

theorem get?_of_ofLayers [CharacterNames] {order : List Field} (horder : ∀ f, f ∈ order)
    {env : Environment} {members : List (Scalar × Value)} {c : Config}
    (h : ofLayers order env members = .ok c)
    (f : Field) : c.get? f = beforeOptions env members f := by
  obtain ⟨_, -, h⟩ := Outcome.bind_eq_ok_iff.mp h
  obtain rfl := Except.ok.inj h
  exact get?_layered (horder f) members env

theorem Given.outcome_lenient [CharacterNames] {fs : FileSystem} {path : Option String}
    {members : List (Scalar × Value)} (h : Given readYaml fs path members) (order : List Field)
    (env : Environment) :
    (loadInOrder order fs env path false readYaml).outcome = ofLayers order env members :=
  (h.upToStrict order env false).eq_of_lenient rfl

/-- **How reading settings fails.** Let YAML be read in any way, whatever characters have names, and
let the fields be looked at in any order. Outside strict mode the settings that are returned are
those of the environment and of the members to go on with. Reading fails with an escape of the file,
or else on the first bad pattern, which is a problem of the settings unless the pattern counts too
far or mixes up its options. Strict mode fails with a problem, or just as the other mode does, and
no escape is a problem. -/
theorem load_errors [CharacterNames] (readYaml : DocumentReader) {order : List Field}
    (horder : ∀ f, f ∈ order) (fs : FileSystem) (env : Environment) (path : Option String) :
    (∀ c, (loadInOrder order fs env path false readYaml).outcome = .ok c →
      ∃ members, Given readYaml fs path members ∧ ∀ f, c.get? f = beforeOptions env members f) ∧
    (∀ e, (loadInOrder order fs env path false readYaml).outcome = .error e ↔
      Escape readYaml fs path e ∨ ∃ members f bad, Given readYaml fs path members ∧
        FirstBad (patternsOf (beforeOptions env members)) f bad ∧
        e = if bad.error = .hugeRepeat ∨ bad.error = .incompatibleTypes then .pattern bad
          else .invalid (.badPattern f.key bad)) ∧
    (∀ e, (loadInOrder order fs env path true readYaml).outcome = .error e →
      (∃ p, e = .invalid p) ∨ (loadInOrder order fs env path false readYaml).outcome = .error e) ∧
    ∀ e, Escape readYaml fs path e →
      (loadInOrder order fs env path true readYaml).outcome = .error e ∧ ∀ p, e ≠ .invalid p := by
  have hfile := exists_given_or_escape readYaml fs path
  refine ⟨fun c hc => ?_, fun e => ⟨fun he => ?_, fun he => ?_⟩, fun e he => ?_, fun e he => ?_⟩
  · rcases hfile with ⟨members, hgiven⟩ | ⟨e, hescape⟩
    · rw [hgiven.outcome_lenient] at hc
      exact ⟨members, hgiven, get?_of_ofLayers horder hc⟩
    · rw [hescape.outcome] at hc
      cases hc
  · rcases hfile with ⟨members, hgiven⟩ | ⟨e', hescape⟩
    · rw [hgiven.outcome_lenient, ofLayers_eq_error_iff horder] at he
      obtain ⟨f, bad, hbad, rfl⟩ := he
      exact .inr ⟨members, f, bad, hgiven, hbad, refusal_eq f bad⟩
    · rw [hescape.outcome] at he
      obtain rfl := Except.error.inj he
      exact .inl hescape
  · rcases he with hescape | ⟨members, f, bad, hgiven, hbad, rfl⟩
    · exact hescape.outcome order env false
    · rw [hgiven.outcome_lenient, ofLayers_eq_error_iff horder]
      exact ⟨f, bad, hbad, (refusal_eq f bad).symm⟩
  · rcases hfile with ⟨members, hgiven⟩ | ⟨e', hescape⟩
    · rcases hgiven.upToStrict order env true with hsame | ⟨-, p, hproblem⟩
      · exact .inr (by rw [hgiven.outcome_lenient, ← hsame, he])
      · exact .inl ⟨p, Except.error.inj (he.symm.trans hproblem)⟩
    · rw [hescape.outcome] at he
      exact .inr (by rw [hescape.outcome, he])
  · exact ⟨he.outcome order env true, he.not_invalid⟩

/-- A file with a number as a key. -/
def numberedSystem : FileSystem :=
  (FileSystem.bare "/work").place "reader.yml" (Text.Utf8.encode "1: a\n")

theorem escape_numberedKey :
    Escape Document.ofText numberedSystem (some "reader.yml") (.keyNotText "int") := by
  have hparses : Parses Document.ofText numberedSystem (some "reader.yml")
      (.ok (.ok (.mapping [(.int 1, .scalar (.str "a"))]))) :=
    @Parses.file Document.ofText numberedSystem "reader.yml" (Text.Utf8.encode "1: a\n")
      "1: a\n".toList _ (by decide) (by decide +kernel) (by decide +kernel) (by decide +kernel)
  exact .keys hparses (by simp [TextKeys]) (by decide +kernel) (.notText _)

/-- The settings are refused in both modes, with an error that is no problem of the settings. -/
theorem load_errors_numberedKey :
    (∀ f, f ∈ Field.all) ∧
      Escape Document.ofText numberedSystem (some "reader.yml") (.keyNotText "int") ∧
      (load numberedSystem ⟨[]⟩ (some "reader.yml") false).outcome = .error (.keyNotText "int") ∧
      (load numberedSystem ⟨[]⟩ (some "reader.yml") true).outcome = .error (.keyNotText "int") := by
  have hall : ∀ f, f ∈ Field.all := by
    intro f
    cases f <;> decide
  obtain ⟨-, hlenient, -, hstrict⟩ :=
    load_errors Document.ofText hall numberedSystem ⟨[]⟩ (some "reader.yml")
  exact ⟨hall, escape_numberedKey, (hlenient _).mpr (.inl escape_numberedKey),
    (hstrict _ escape_numberedKey).1⟩

/-- A directory, a file whose bytes are no text, one with a number that is too long, one that may
not be read, and one with a number as a key. -/
def strangeSystem : FileSystem :=
  let fs := (numberedSystem.place "settings/" []).place "bytes.yml" [0xff]
  let fs := fs.place "long.json"
    (Text.Utf8.encodeChars (List.replicate (Decimal.digitLimit + 1) '1'))
  { fs.place "secret.yml" [] with sealed := [["work", "secret.yml"]] }

/-- Settings are refused without a bad pattern, and with errors that are no problems of the
settings, outside strict mode as well as in it. -/
theorem load_not_only_problems :
    (∀ strict, (load strangeSystem ⟨[]⟩ (some "reader.yml") strict).outcome =
        .error (.keyNotText "int")) ∧
      (∀ strict, (load strangeSystem ⟨[]⟩ (some "settings") strict).outcome =
        .error (.unreadable ⟨.isDirectory, "settings"⟩)) ∧
      (∀ strict, (load strangeSystem ⟨[]⟩ (some "secret.yml") strict).outcome =
        .error (.unreadable ⟨.denied, "secret.yml"⟩)) ∧
      (∀ strict, ∃ error, (load strangeSystem ⟨[]⟩ (some "bytes.yml") strict).outcome =
        .error (.undecodable error)) ∧
      (∀ strict, ∃ error, (load strangeSystem ⟨[]⟩ (some "long.json") strict).outcome =
        .error (.badScalar error)) ∧
      ¬ (∀ fs env path, (∃ c, (load fs env path false).outcome = .ok c) ∨
        ∃ p, (load fs env path false).outcome = .error (.invalid p)) ∧
      ¬ ∀ fs env path e, (load fs env path true).outcome = .error e → ∃ p, e = .invalid p := by
  have hkey : ∀ strict, (load strangeSystem ⟨[]⟩ (some "reader.yml") strict).outcome =
      .error (.keyNotText "int") := by decide +kernel
  have hdirectory : ∀ strict, (load strangeSystem ⟨[]⟩ (some "settings") strict).outcome =
      .error (.unreadable ⟨.isDirectory, "settings"⟩) := by decide +kernel
  have hsecret : ∀ strict, (load strangeSystem ⟨[]⟩ (some "secret.yml") strict).outcome =
      .error (.unreadable ⟨.denied, "secret.yml"⟩) := by decide +kernel
  have hbytes : Escape Document.ofText strangeSystem (some "bytes.yml") _ :=
    @Escape.undecodable Document.ofText strangeSystem "bytes.yml" [0xff] _ (by decide)
      (by decide +kernel) rfl
  have hlong : Escape Document.ofText strangeSystem (some "long.json") _ :=
    @escape_longInteger _ strangeSystem "long.json"
      (List.replicate (Decimal.digitLimit + 1) '1') (by decide) (by decide +kernel) rfl
      (fun d hd => by rw [List.eq_of_mem_replicate hd]; rfl) (by simp [List.head?_replicate])
      (by simp)
  refine ⟨hkey, hdirectory, hsecret, fun strict => ⟨_, hbytes.outcome Field.all ⟨[]⟩ strict⟩,
    fun strict => ⟨_, hlong.outcome Field.all ⟨[]⟩ strict⟩, ?_, ?_⟩
  · intro h
    rcases h strangeSystem ⟨[]⟩ (some "reader.yml") with ⟨c, hc⟩ | ⟨p, hp⟩
    · cases (hkey false).symm.trans hc
    · cases (hkey false).symm.trans hp
  · intro h
    obtain ⟨p, hp⟩ := h strangeSystem ⟨[]⟩ (some "reader.yml") _ (hkey true)
    cases hp

end ApiDecl.Settings
