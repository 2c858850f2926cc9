import ApiDecl.Proofs.Runs
import ApiDecl.Proofs.Walk
import Mathlib.Data.String.Basic

/-!
# Which files are found and recorded

The found paths are strictly increasing, so that they depend on nothing but which files count: not
on the order in which directories list their entries. Loading records a file under the names on the
way to it from the directory. These come in the order of the found paths, since a common start does
not change the order of two texts.
-/

namespace ApiDecl.Files

/-! ## Sorted paths -/

theorem pairwise_lt_sortPaths {paths : List String} (h : paths.Nodup) :
    (sortPaths paths).Pairwise (· < ·) := by
  have hsorted : (sortPaths paths).Pairwise fun a b => decide (a ≤ b) = true := by
    refine List.pairwise_mergeSort ?_ ?_ _
    · intro a b c hab hbc
      rw [decide_eq_true_eq] at hab hbc ⊢
      exact hab.trans hbc
    · intro a b
      rw [Bool.or_eq_true, decide_eq_true_eq, decide_eq_true_eq]
      exact le_total a b
  have hnodup : (sortPaths paths).Nodup := (List.mergeSort_perm _ _).nodup_iff.2 h
  refine (hsorted.and hnodup).imp ?_
  rintro a b ⟨hle, hne⟩
  exact lt_of_le_of_ne (of_decide_eq_true hle) hne

/-- A strictly increasing list is known by its members. -/
theorem eq_of_pairwise_lt {l m : List String} (hl : l.Pairwise (· < ·)) (hm : m.Pairwise (· < ·))
    (h : ∀ path, path ∈ l ↔ path ∈ m) : l = m := by
  have hperm : l.Perm m :=
    (List.perm_ext_iff_of_nodup (hl.imp fun hlt => hlt.ne) (hm.imp fun hlt => hlt.ne)).2 h
  exact hperm.eq_of_pairwise (fun a b _ _ hab hba => absurd hba hab.asymm) hl hm

/-- What is appended to one path has the order of what is appended. -/
theorem lt_of_append_lt {base x y : String} (hx : x.toList.head? ≠ some '/')
    (hy : y.toList.head? ≠ some '/') (h : Path.append base x < Path.append base y) : x < y := by
  obtain ⟨front, hfront⟩ : ∃ front : String, ∀ z : String, z.toList.head? ≠ some '/' →
      Path.append base z = front ++ z := by
    unfold Path.append
    by_cases hend : (base.isEmpty || base.toList.getLast? = some '/') = true
    · exact ⟨base, fun z hz => by rw [if_neg hz, if_pos hend]⟩
    · exact ⟨base ++ "/", fun z hz => by rw [if_neg hz, if_neg hend]⟩
  rw [hfront x hx, hfront y hy] at h
  have hmono : ∀ z w : String, z < w → front ++ z < front ++ w := by
    intro z w hzw
    rw [String.lt_iff_toList_lt, String.toList_append, String.toList_append]
    exact List.append_left_lt hzw
  rcases lt_trichotomy x y with hlt | rfl | hgt
  · exact hlt
  · exact absurd h (lt_irrefl _)
  · exact absurd h (hmono y x hgt).asymm

/-! ## Found files -/

namespace FileSystem

/-- A system as there is one: the root is a directory, entries are named, and the directory in which
relative paths start is given by an absolute path. -/
structure WellFormed (fs : FileSystem) : Prop where
  root : fs.entryAt [] = some .directory
  named : fs.root.WellNamed
  absolute : fs.directory.toList.head? = some '/'

/-- A file below a directory that counts, with the directories on the way to it. -/
structure Declares (fs : FileSystem) (directory : String) (dirs : List String) (name : String)
    (content : List UInt8) : Prop where
  file : fs.entryAt (fs.location directory ++ (dirs ++ [name])) = some (.file content)
  ending : extension name = ".ts"
  searched : ∀ d ∈ dirs, d.toList.head? ≠ some '.' ∧ d ∉ skippedDirectories

/-- The absolute path of what is below a directory. -/
def pathBelow (fs : FileSystem) (directory : String) (l : Location) : String :=
  Path.append (fs.absolute directory) ("/".intercalate l)

variable {fs : FileSystem} {directory : String} {dirs : List String} {name : String}
  {content : List UInt8}

theorem absolute_of_plain {path : String} (h : Path.Plain path) : fs.absolute path = path :=
  h.absolute_eq fs.directory

theorem WellFormed.plain (hfs : fs.WellFormed) (path : String) : Path.Plain (fs.absolute path) :=
  Path.plain_absolute hfs.absolute path

theorem Declares.entryName (h : fs.Declares directory dirs name content) (hfs : fs.WellFormed) :
    ∀ n ∈ dirs ++ [name], Path.EntryName n.toList := by
  intro n hn
  have hget := Tree.entryAt_eq_file_iff.1 h.file
  exact (hfs.named.get? hget).2 n (List.mem_append_right _ hn)

theorem Declares.foldl_eq (h : fs.Declares directory dirs name content) (hfs : fs.WellFormed) :
    (dirs ++ [name]).foldl Path.append (fs.absolute directory) =
      fs.pathBelow directory (dirs ++ [name]) :=
  (hfs.plain directory).foldl_append_eq (by simp) (h.entryName hfs)

theorem Declares.names_eq (h : fs.Declares directory dirs name content) (hfs : fs.WellFormed) :
    Path.names (fs.pathBelow directory (dirs ++ [name])) =
      fs.location directory ++ (dirs ++ [name]) := by
  rw [← h.foldl_eq hfs, Path.names_foldl_append fun n hn => (h.entryName hfs n hn).1]
  rfl

theorem Declares.plain (h : fs.Declares directory dirs name content) (hfs : fs.WellFormed) :
    Path.Plain (fs.pathBelow directory (dirs ++ [name])) := by
  obtain ⟨slashes, ps, hplain⟩ := hfs.plain directory
  rw [← h.foldl_eq hfs]
  exact ⟨slashes, _, hplain.foldl_append (h.entryName hfs)⟩

theorem isSealed_of_nil (h : fs.sealed = []) (path : String) : fs.isSealed path = false := by
  unfold isSealed
  split
  · rw [h]
    rfl
  · rfl

/-- The path of a file that counts leads to it, and it can be read unless it is sealed. -/
theorem Declares.read_eq (h : fs.Declares directory dirs name content) (hfs : fs.WellFormed) :
    fs.read (fs.pathBelow directory (dirs ++ [name])) =
      if fs.isSealed (fs.pathBelow directory (dirs ++ [name])) then
        .error ⟨.denied, fs.pathBelow directory (dirs ++ [name])⟩
      else .ok content := by
  have hget := Tree.entryAt_eq_file_iff.1 h.file
  rw [← h.names_eq hfs, ← lookup_eq_ok_iff hfs.root (h.plain hfs)] at hget
  rw [read, hget]

/-- The way to a file that counts is its names. -/
theorem Declares.relative_eq (h : fs.Declares directory dirs name content)
    (hfs : fs.WellFormed) :
    Path.normalize (Path.relative (fs.absolute directory)
        (fs.absolute (fs.pathBelow directory (dirs ++ [name])))) =
      "/".intercalate (dirs ++ [name]) := by
  rw [absolute_of_plain (h.plain hfs), Path.relative_eq (by simp) (h.names_eq hfs)]
  exact Path.normalize_intercalate (by simp) fun n hn => (h.entryName hfs n hn).1

theorem declares_iff {t : Tree} (ht : fs.root.get? (fs.location directory) = some t) :
    fs.Declares directory dirs name content ↔
      t.get? (dirs ++ [name]) = some (.file content) ∧ Tree.Counts dirs name := by
  have hfile : fs.entryAt (fs.location directory ++ (dirs ++ [name])) = some (.file content) ↔
      t.get? (dirs ++ [name]) = some (.file content) := by
    rw [entryAt, Tree.entryAt_eq_file_iff, Tree.get?_append, ht]
    rfl
  constructor
  · rintro ⟨h, hending, hsearched⟩
    exact ⟨hfile.1 h, fun d hd => isSearched_iff.2 (hsearched d hd),
      isDeclarationFile_iff.2 hending⟩
  · rintro ⟨h, hsearched, hending⟩
    exact ⟨hfile.2 h, isDeclarationFile_iff.1 hending,
      fun d hd => isSearched_iff.1 (hsearched d hd)⟩

/-- Where something is declared, there is a directory. -/
theorem Declares.isDirectory (h : fs.Declares directory dirs name content) :
    fs.entryAt (fs.location directory) = some .directory :=
  Tree.entryAt_of_below (by simp) h.file

theorem mem_declarationFiles (hfs : fs.WellFormed) {path : String} :
    path ∈ fs.declarationFiles directory ↔ ∃ dirs name content,
      fs.Declares directory dirs name content ∧
        path = fs.pathBelow directory (dirs ++ [name]) := by
  have hplain := hfs.plain directory
  unfold declarationFiles
  dsimp only
  cases hlookup : fs.lookup (fs.absolute directory) with
  | error cause =>
    refine iff_of_false List.not_mem_nil ?_
    rintro ⟨dirs, name, content, h, -⟩
    obtain ⟨entries, hentries⟩ := Tree.entryAt_eq_directory_iff.1 h.isDirectory
    rw [(lookup_eq_ok_iff hfs.root hplain).2 hentries] at hlookup
    cases hlookup
  | ok t =>
    have hget := (lookup_eq_ok_iff hfs.root hplain).1 hlookup
    dsimp only
    rw [sortPaths, List.mem_mergeSort, Tree.mem_declarationFiles_iff (hfs.named.get? hget).1]
    constructor
    · rintro ⟨dirs, name, content, hfile, hcounts, rfl⟩
      have h := (declares_iff hget).2 ⟨hfile, hcounts⟩
      exact ⟨dirs, name, content, h, h.foldl_eq hfs⟩
    · rintro ⟨dirs, name, content, h, rfl⟩
      obtain ⟨hfile, hcounts⟩ := (declares_iff hget).1 h
      exact ⟨dirs, name, content, hfile, hcounts, (h.foldl_eq hfs).symm⟩

theorem pairwise_lt_declarationFiles (hfs : fs.WellFormed) (directory : String) :
    (fs.declarationFiles directory).Pairwise (· < ·) := by
  unfold declarationFiles
  dsimp only
  cases hlookup : fs.lookup (fs.absolute directory) with
  | error cause => exact .nil
  | ok t =>
    have hplain := hfs.plain directory
    have hget := (lookup_eq_ok_iff hfs.root hplain).1 hlookup
    exact pairwise_lt_sortPaths (Tree.nodup_declarationFiles (hfs.named.get? hget).1 _)

theorem declarationFiles_relisted (hfs : fs.WellFormed) {fs' : FileSystem}
    (hdirectory : fs'.directory = fs.directory) (h : fs.root.Relisted fs'.root)
    (directory : String) : fs'.declarationFiles directory = fs.declarationFiles directory := by
  have hentry : ∀ l, fs'.entryAt l = fs.entryAt l := h.entryAt_eq hfs.named
  have hfs' : fs'.WellFormed :=
    ⟨(hentry []).trans hfs.root, h.wellNamed hfs.named, hdirectory ▸ hfs.absolute⟩
  have hdeclares : ∀ dirs name content, fs'.Declares directory dirs name content ↔
      fs.Declares directory dirs name content := by
    intro dirs name content
    have hlocation := location_congr hdirectory directory
    constructor
    · rintro ⟨hfile, hending, hsearched⟩
      rw [hentry, hlocation] at hfile
      exact ⟨hfile, hending, hsearched⟩
    · rintro ⟨hfile, hending, hsearched⟩
      rw [← hentry, ← hlocation] at hfile
      exact ⟨hfile, hending, hsearched⟩
  have hpath : ∀ l, fs'.pathBelow directory l = fs.pathBelow directory l := by
    intro l
    rw [pathBelow, pathBelow, absolute, absolute, hdirectory]
  refine eq_of_pairwise_lt (pairwise_lt_declarationFiles hfs' directory)
    (pairwise_lt_declarationFiles hfs directory) ?_
  intro path
  simp only [mem_declarationFiles hfs', mem_declarationFiles hfs, hdeclares, hpath]

end FileSystem

end ApiDecl.Files

/-! ## Loaded files -/

namespace ApiDecl.Corpus

open Files (FileSystem)
open Journal (Traced)
open Source (TreeMaker)

/-- A file that counts is recorded with its content, under the names on the way to it. -/
def Recorded (fs : FileSystem) (directory path : String) (f : SourceFile) : Prop :=
  ∃ dirs name, fs.Declares directory dirs name f.source ∧
    path = fs.pathBelow directory (dirs ++ [name]) ∧ f.path = "/".intercalate (dirs ++ [name])

section

variable {makeTree : TreeMaker} {fs : FileSystem} {directory : String}

theorem addFile_eq_error {c : Corpus} {path : String} {content : List UInt8} {e : LoadError}
    (hread : fs.read path = .ok content)
    (h : (addFile makeTree fs directory c path).outcome = .error e) :
    ∃ d, e = .undecodable d := by
  unfold addFile at h
  simp only [Traced.outcome_bind, outcome_readSource, hread, Outcome.mapError_ok,
    Outcome.ok_bind] at h
  rcases Outcome.bind_eq_error_iff.1 h with hparse | ⟨tree, -, h⟩
  · cases hparse
  · rw [Traced.outcome_note, Outcome.ok_bind] at h
    rcases Outcome.bind_eq_error_iff.1 h with hadd | ⟨f, -, hpure⟩
    · cases hadded : (c.addSketch (Path.normalize (Path.relative directory (fs.absolute path)))
          content tree).2.outcome with
      | ok f =>
        rw [Traced.outcome_mapError, hadded] at hadd
        cases hadd
      | error d =>
        rw [Traced.outcome_mapError, hadded] at hadd
        exact ⟨d, (Except.error.inj hadd).symm⟩
    · cases hpure

theorem foldlM_addFile_eq_error {paths : List String} {c : Corpus} {e : LoadError}
    (hread : ∀ path ∈ paths, ∃ content, fs.read path = .ok content)
    (h : (paths.foldlM (addFile makeTree fs directory) c).outcome = .error e) :
    ∃ d, e = .undecodable d := by
  induction paths generalizing c with
  | nil => cases h
  | cons path paths ih =>
    rw [List.foldlM_cons, Traced.outcome_bind] at h
    rcases Outcome.bind_eq_error_iff.1 h with hadd | ⟨next, -, hrest⟩
    · obtain ⟨content, hcontent⟩ := hread path List.mem_cons_self
      exact addFile_eq_error hcontent hadd
    · exact ih (fun p hp => hread p (List.mem_cons_of_mem _ hp)) hrest

theorem declarationFiles_absolute (hfs : fs.WellFormed) :
    fs.declarationFiles (fs.absolute directory) = fs.declarationFiles directory := by
  unfold FileSystem.declarationFiles
  rw [FileSystem.absolute_of_plain (hfs.plain directory)]

theorem exists_load_eq_ok (hfs : fs.WellFormed)
    (hdirectory : fs.entryAt (fs.location directory) = some .directory)
    (hopen : ∀ path ∈ fs.declarationFiles directory, fs.isSealed path = false)
    (hbinds : ∀ d, (load fs directory none makeTree).outcome ≠ .error (.undecodable d)) :
    ∃ c, (load fs directory none makeTree).outcome = .ok c := by
  cases hload : (load fs directory none makeTree).outcome with
  | ok c => exact ⟨c, rfl⟩
  | error e =>
    have hplain := hfs.plain directory
    have hread : ∀ path ∈ fs.declarationFiles (fs.absolute directory),
        ∃ content, fs.read path = .ok content := by
      intro path hpath
      rw [declarationFiles_absolute hfs] at hpath
      have hsealed := hopen path hpath
      obtain ⟨dirs, name, content, h, rfl⟩ := (FileSystem.mem_declarationFiles hfs).1 hpath
      exact ⟨content, by rw [h.read_eq hfs, hsealed]; rfl⟩
    have hthere : fs.isDirectory (fs.absolute directory) = true := by
      obtain ⟨entries, hentries⟩ := Files.Tree.entryAt_eq_directory_iff.1 hdirectory
      rw [FileSystem.isDirectory, (FileSystem.lookup_eq_ok_iff hfs.root hplain).2 hentries]
      rfl
    have hfailed := hload
    unfold load at hfailed
    dsimp only at hfailed
    rw [if_neg (by simp [hthere])] at hfailed
    simp only [Traced.outcome_bind, discover, Traced.outcome_note, Outcome.ok_bind,
      Traced.outcome_pure] at hfailed
    rcases Outcome.bind_eq_error_iff.1 hfailed with hadd | ⟨c, -, hnoted⟩
    · obtain ⟨d, rfl⟩ := foldlM_addFile_eq_error hread hadd
      exact absurd hload (hbinds d)
    · cases hnoted

/-- What loading records of the files that are found. -/
theorem forall₂_of_load (hfs : fs.WellFormed) {c : Corpus}
    (h : (load fs directory none makeTree).outcome = .ok c) :
    List.Forall₂ (Recorded fs directory) (fs.declarationFiles directory) c.files := by
  have hloaded := load_eq_ok h
  rw [declarationFiles_absolute hfs] at hloaded
  have hfound := (List.forall₂_and_left _ _).2
    ⟨fun path hpath => (FileSystem.mem_declarationFiles hfs).1 hpath, hloaded⟩
  refine hfound.imp ?_
  rintro path f ⟨⟨dirs, name, content, hdeclares, rfl⟩, hf⟩
  obtain rfl : content = f.source := by
    have hsource := hf.source
    rw [hdeclares.read_eq hfs] at hsource
    split at hsource
    · cases hsource
    · exact Except.ok.inj hsource
  exact ⟨dirs, name, hdeclares, rfl, hf.path.trans (hdeclares.relative_eq hfs)⟩

/-- Paths with a common start are in the order of what follows it. -/
theorem pairwise_lt_of_forall₂ (hfs : fs.WellFormed) {paths : List String}
    {files : List SourceFile}
    (h : List.Forall₂ (Recorded fs directory) paths files)
    (hpaths : paths.Pairwise (· < ·)) : (files.map (·.path)).Pairwise (· < ·) := by
  have hback : paths = files.map fun f => Path.append (fs.absolute directory) f.path := by
    clear hpaths
    induction h with
    | nil => rfl
    | cons hf _ ih =>
      obtain ⟨dirs, name, -, hpath, hrecorded⟩ := hf
      rw [List.map_cons, ← ih, hpath, hrecorded]
      rfl
  have hrelative : ∀ f ∈ files, f.path.toList.head? ≠ some '/' := by
    intro f hf
    obtain ⟨i, hi, rfl⟩ := List.getElem_of_mem hf
    obtain ⟨dirs, name, hdeclares, -, hrecorded⟩ := h.get (h.length_eq ▸ hi) hi
    rw [List.get_eq_getElem] at hrecorded
    rw [hrecorded]
    exact Path.head?_intercalate_ne fun n hn => (hdeclares.entryName hfs n hn).1
  rw [hback, List.pairwise_map] at hpaths
  rw [List.pairwise_map]
  exact hpaths.imp_of_mem fun hf hg hlt =>
    Files.lt_of_append_lt (hrelative _ hf) (hrelative _ hg) hlt

end

/-- The found paths are strictly increasing and exactly those of the files that count, in whatever
order directories list their entries. If every one of these files may be read and its names can be
bound, then loading succeeds and records the files in this order, under relative paths that are
strictly increasing too. -/
theorem discovery_exact (makeTree : TreeMaker) {fs : FileSystem} (hfs : fs.WellFormed)
    (directory : String) :
    ∃ found, (discover fs directory : Traced LoadError (List String)).outcome = .ok found ∧
      found.Pairwise (· < ·) ∧
      (∀ path, path ∈ found ↔ ∃ dirs name content, fs.Declares directory dirs name content ∧
        path = fs.pathBelow directory (dirs ++ [name])) ∧
      (∀ fs' : FileSystem, fs'.directory = fs.directory → fs.root.Relisted fs'.root →
        (discover fs' directory : Traced LoadError (List String)).outcome = .ok found) ∧
      (fs.entryAt (fs.location directory) = some .directory →
        (∀ path ∈ found, fs.isSealed path = false) →
        (∀ d, (load fs directory none makeTree).outcome ≠ .error (.undecodable d)) →
        ∃ c, (load fs directory none makeTree).outcome = .ok c ∧
          (c.files.map (·.path)).Pairwise (· < ·) ∧
          List.Forall₂ (Recorded fs directory) found c.files) := by
  have hsorted := FileSystem.pairwise_lt_declarationFiles hfs directory
  refine ⟨fs.declarationFiles directory, rfl, hsorted,
    fun path => FileSystem.mem_declarationFiles hfs, ?_, ?_⟩
  · intro fs' hdirectory hrelisted
    have hsame := FileSystem.declarationFiles_relisted hfs hdirectory hrelisted directory
    exact congrArg Except.ok hsame
  · intro hdirectory hopen hbinds
    obtain ⟨c, hc⟩ := exists_load_eq_ok hfs hdirectory hopen hbinds
    have hfiles := forall₂_of_load hfs hc
    exact ⟨c, hc, pairwise_lt_of_forall₂ hfs hfiles hsorted, hfiles⟩

/-- Files in a hidden directory, which has a hidden directory and one with results of a build. -/
def hiddenEntries : List (String × Files.Tree) :=
  [(".git", .directory [("x.ts", .file [])]),
    (".ts", .file []),
    ("a-b.ts", .file (Text.Utf8.encode "enum A \x7b\x7d")),
    ("a", .directory [("z.d.ts", .file (Text.Utf8.encode "x = ;"))]),
    ("dist", .directory [("y.ts", .file [])])]

/-- A system with one directory, which lists entries in some order. -/
def hiddenSystem (entries : List (String × Files.Tree)) : FileSystem :=
  { root := .directory [(".api", .directory entries)], directory := "/" }

theorem wellNamed_hiddenEntries : (Files.Tree.directory hiddenEntries).WellNamed := by
  have hone : ∀ name content, Path.EntryName name.toList →
      (Files.Tree.directory [(name, .file content)]).WellNamed := by
    intro name content hname
    exact .directory (by simp) (by simpa using hname) (by simpa using .file content)
  refine .directory (by decide +kernel) (by decide +kernel) ?_
  simp only [hiddenEntries, List.forall_mem_cons]
  exact ⟨hone _ _ (by decide +kernel), .file _, .file _, hone _ _ (by decide +kernel),
    hone _ _ (by decide +kernel), by simp⟩

theorem wellFormed_hiddenSystem : (hiddenSystem hiddenEntries).WellFormed :=
  ⟨rfl, .directory (by simp) (by decide +kernel) (by simpa using wellNamed_hiddenEntries), by
    decide +kernel⟩

theorem declarationFiles_hiddenSystem :
    (hiddenSystem hiddenEntries).declarationFiles ".api" = ["/.api/a-b.ts", "/.api/a/z.d.ts"] :=
  Files.declarationFiles_of_sorted (by decide +kernel) (by decide +kernel)

/-- The directory itself may be hidden. A walk along the second listing meets the two files in the
other order. -/
theorem discovery_exact_hidden :
    (discover (hiddenSystem hiddenEntries.reverse) ".api" :
        Traced LoadError (List String)).outcome = .ok ["/.api/a-b.ts", "/.api/a/z.d.ts"] ∧
      ∃ c, (load (hiddenSystem hiddenEntries) ".api" none).outcome = .ok c ∧
        c.files.map (·.path) = ["a-b.ts", "a/z.d.ts"] ∧
        (c.files.map (·.path)).Pairwise (· < ·) := by
  have hrelisted : (hiddenSystem hiddenEntries).root.Relisted
      (hiddenSystem hiddenEntries.reverse).root := by
    refine .directory (.refl _) ?_
    intro name t t' ht ht'
    obtain ⟨-, rfl⟩ := Prod.mk.inj (List.mem_singleton.1 ht)
    obtain ⟨-, rfl⟩ := Prod.mk.inj (List.mem_singleton.1 ht')
    exact .of_perm hiddenEntries.reverse_perm.symm wellNamed_hiddenEntries
  have hloaded : (load (hiddenSystem hiddenEntries) ".api" none).outcome.map
      (·.files.map (·.path)) = .ok ["a-b.ts", "a/z.d.ts"] := by
    have habsolute : (hiddenSystem hiddenEntries).absolute ".api" = "/.api" := by decide +kernel
    have hfound : (hiddenSystem hiddenEntries).declarationFiles "/.api" =
        ["/.api/a-b.ts", "/.api/a/z.d.ts"] :=
      Files.declarationFiles_of_sorted (by decide +kernel) (by decide +kernel)
    rw [load_none, habsolute, hfound]
    decide +kernel
  obtain ⟨c, hc, hpaths⟩ := Outcome.map_eq_ok_iff.1 hloaded
  obtain ⟨found, hfound, -, -, hsame, hload⟩ :=
    discovery_exact Source.tree wellFormed_hiddenSystem ".api"
  obtain rfl : (hiddenSystem hiddenEntries).declarationFiles ".api" = found := Except.ok.inj hfound
  have hopen := FileSystem.isSealed_of_nil (show (hiddenSystem hiddenEntries).sealed = [] from rfl)
  obtain ⟨c', hc', hsorted, -⟩ := hload (by decide +kernel) (fun path _ => hopen path) (by
    intro d hd
    rw [hc] at hd
    cases hd)
  obtain rfl : c' = c := Except.ok.inj (hc'.symm.trans hc)
  refine ⟨?_, c', hc, hpaths, hsorted⟩
  rw [hsame (hiddenSystem hiddenEntries.reverse) rfl hrelisted, declarationFiles_hiddenSystem]

end ApiDecl.Corpus
