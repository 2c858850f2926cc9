import ApiDecl.Files.Discovery
import ApiDecl.Proofs.AbsolutePaths
import Mathlib.Data.List.Nodup
import Mathlib.Data.List.TakeWhile

/-!
# What a walk finds

The walk below a directory leaves out whole subtrees, and lists what it finds in the order of the
entries. What it finds is said here by locations: a file counts by its name and by the names of the
directories on the way to it (`Tree.mem_declarationFiles_iff`), and different locations have
different paths (`Tree.nodup_declarationFiles`). A directory whose entries come in another order has
the same locations (`Tree.Relisted`).
-/

namespace ApiDecl.Files

/-- The ending of a name, from its last dot on. Dots at the start do not begin an ending. -/
def extension (name : String) : String :=
  let stem := name.toList.dropWhile (· = '.')
  if '.' ∈ stem then String.ofList ('.' :: (stem.reverse.takeWhile (· ≠ '.')).reverse) else ""

theorem isDeclarationFile_iff_front {name : String} :
    isDeclarationFile name = true ↔
      ∃ front, name.toList = front ++ ['.', 't', 's'] ∧ ∃ c ∈ front, c ≠ '.' := by
  unfold isDeclarationFile
  constructor
  · intro h
    split at h
    · next stem hname =>
      refine ⟨stem.reverse, ?_, by simpa using h⟩
      rw [← List.reverse_reverse name.toList, hname]
      simp
    · cases h
  · rintro ⟨front, hname, hfront⟩
    simpa [hname] using hfront

theorem extension_eq_of_front {name : String} {front : List Char}
    (hname : name.toList = front ++ ['.', 't', 's']) (hfront : ∃ c ∈ front, c ≠ '.') :
    extension name = ".ts" := by
  have hne : front.dropWhile (· = '.') ≠ [] := by
    intro hnil
    obtain ⟨c, hc, hdot⟩ := hfront
    exact hdot (by simpa using List.dropWhile_eq_nil_iff.1 hnil c hc)
  have hstem : name.toList.dropWhile (· = '.') = front.dropWhile (· = '.') ++ ['.', 't', 's'] := by
    rw [hname, List.dropWhile_append, if_neg (by simpa using hne)]
  rw [extension, hstem]
  simp

theorem not_of_dropWhile_eq_cons {p : Char → Bool} {cs rest : List Char} {c : Char}
    (h : cs.dropWhile p = c :: rest) : p c = false := by
  have hhead := List.head_dropWhile_not p (l := cs) (by simp [h])
  simpa only [h, List.head_cons] using hhead

-- What stands after the last dot is what comes first from the other end.
theorem eq_append_of_last_dot {stem : List Char} (hdot : '.' ∈ stem) :
    ∃ rest, stem = rest ++ '.' :: (stem.reverse.takeWhile (· ≠ '.')).reverse := by
  have hsplit : stem.reverse.takeWhile (· ≠ '.') ++ stem.reverse.dropWhile (· ≠ '.') =
      stem.reverse := List.takeWhile_append_dropWhile
  have hne : stem.reverse.dropWhile (· ≠ '.') ≠ [] := by
    intro hnil
    exact absurd (List.dropWhile_eq_nil_iff.1 hnil '.' (List.mem_reverse.2 hdot)) (by simp)
  obtain ⟨c, rest, hrest⟩ := List.exists_cons_of_ne_nil hne
  obtain rfl : c = '.' := by simpa using not_of_dropWhile_eq_cons hrest
  rw [hrest] at hsplit
  refine ⟨rest.reverse, ?_⟩
  calc stem = (stem.reverse.takeWhile (· ≠ '.') ++ '.' :: rest).reverse := by
        rw [hsplit, List.reverse_reverse]
    _ = rest.reverse ++ '.' :: (stem.reverse.takeWhile (· ≠ '.')).reverse := by
        simp only [List.reverse_append, List.reverse_cons, List.append_assoc,
          List.singleton_append]

theorem exists_front_of_extension {name : String} (h : extension name = ".ts") :
    ∃ front, name.toList = front ++ ['.', 't', 's'] ∧ ∃ c ∈ front, c ≠ '.' := by
  have hsplit : name.toList.takeWhile (· = '.') ++ name.toList.dropWhile (· = '.') = name.toList :=
    List.takeWhile_append_dropWhile
  have hfirst : ∀ c cs, name.toList.dropWhile (· = '.') = c :: cs → c ≠ '.' := by
    intro c cs hcs
    simpa using not_of_dropWhile_eq_cons hcs
  unfold extension at h
  dsimp only at h
  generalize name.toList.dropWhile (· = '.') = stem at hsplit hfirst h
  split at h
  · next hdot =>
    have hending : '.' :: (stem.reverse.takeWhile (· ≠ '.')).reverse = ['.', 't', 's'] := by
      rw [← String.toList_ofList (l := '.' :: _), h]
      rfl
    obtain ⟨rest, hstem⟩ := eq_append_of_last_dot hdot
    rw [hending] at hstem
    refine ⟨name.toList.takeWhile (· = '.') ++ rest, ?_, ?_⟩
    · rw [List.append_assoc, ← hstem, hsplit]
    · -- The first character after the dots at the start stands before the last dot.
      cases rest with
      | nil => exact absurd rfl (hfirst _ _ hstem)
      | cons c cs => exact ⟨c, by simp, hfirst _ _ hstem⟩
  · exact absurd h (by decide)

theorem isDeclarationFile_iff {name : String} :
    isDeclarationFile name = true ↔ extension name = ".ts" := by
  rw [isDeclarationFile_iff_front]
  constructor
  · rintro ⟨front, hname, hfront⟩
    exact extension_eq_of_front hname hfront
  · exact exists_front_of_extension

theorem isSearched_iff {name : String} :
    isSearched name = true ↔ name.toList.head? ≠ some '.' ∧ name ∉ skippedDirectories := by
  simp [isSearched]

namespace Tree

/-- The entries of every directory have different names, and each of these names something. -/
inductive WellNamed : Tree → Prop
  | file (content : List UInt8) : WellNamed (.file content)
  | directory {entries : List (String × Tree)} (different : (entries.map Prod.fst).Nodup)
      (names : ∀ e ∈ entries, Path.EntryName e.1.toList) (below : ∀ e ∈ entries, WellNamed e.2) :
      WellNamed (.directory entries)

theorem WellNamed.get? {t u : Tree} {l : Location} (ht : t.WellNamed) (h : t.get? l = some u) :
    u.WellNamed ∧ ∀ name ∈ l, Path.EntryName name.toList := by
  induction l generalizing t with
  | nil =>
    rw [get?_nil] at h
    obtain rfl := Option.some.inj h
    exact ⟨ht, by simp⟩
  | cons name l ih =>
    cases ht with
    | file content => simp [Tree.get?] at h
    | @directory entries different names below =>
      obtain ⟨w, hw, hrest⟩ := Option.bind_eq_some_iff.1 h
      have hentry := (Keyed.lookup_eq_some_iff_mem different).1 hw
      obtain ⟨hu, hl⟩ := ih (below _ hentry) hrest
      exact ⟨hu, List.forall_mem_cons.2 ⟨names _ hentry, hl⟩⟩

/-! ## The walk -/

theorem declarationFilesAmong_eq (path : String) (entries : List (String × Tree)) :
    declarationFilesAmong path entries = entries.flatMap (declarationFilesOf path) := by
  induction entries with
  | nil => rfl
  | cons e entries ih => rw [declarationFilesAmong, ih, List.flatMap_cons]

theorem mem_declarationFilesOf {path p name : String} {t : Tree} :
    p ∈ declarationFilesOf path (name, t) ↔
      (∃ content, t = .file content) ∧ isDeclarationFile name = true ∧ p = Path.append path name ∨
        isSearched name = true ∧ p ∈ t.declarationFiles (Path.append path name) := by
  cases t with
  | file content => simp [declarationFilesOf, declarationFiles, isDirectory]
  | directory entries => simp [declarationFilesOf, isDirectory]

/-- Every directory on the way is looked into, and the last name is that of a declaration file. -/
def Counts (dirs : List String) (name : String) : Prop :=
  (∀ d ∈ dirs, isSearched d = true) ∧ isDeclarationFile name = true

theorem mem_declarationFiles_iff {t : Tree} (ht : t.WellNamed) {path p : String} :
    p ∈ t.declarationFiles path ↔ ∃ dirs name content,
      t.get? (dirs ++ [name]) = some (.file content) ∧ Counts dirs name ∧
        p = (dirs ++ [name]).foldl Path.append path := by
  induction ht generalizing path with
  | file content =>
    have hnone : ∀ dirs name, (Tree.file content).get? (dirs ++ [name]) = none := by
      intro dirs name
      cases dirs <;> rfl
    simp [declarationFiles, hnone]
  | @directory entries different names below ih =>
    rw [declarationFiles, declarationFilesAmong_eq, List.mem_flatMap]
    constructor
    · rintro ⟨⟨first, u⟩, he, hp⟩
      have hlookup := (Keyed.lookup_eq_some_iff_mem different).2 he
      rcases mem_declarationFilesOf.1 hp with ⟨⟨content, rfl⟩, hname, rfl⟩ | ⟨hsearched, hp⟩
      · exact ⟨[], first, content, by simp [get?, hlookup], ⟨by simp, hname⟩, rfl⟩
      · obtain ⟨dirs, name, content, hfile, ⟨hdirs, hname⟩, rfl⟩ := (ih _ he).1 hp
        exact ⟨first :: dirs, name, content, by simp [get?, hlookup, hfile],
          ⟨List.forall_mem_cons.2 ⟨hsearched, hdirs⟩, hname⟩, rfl⟩
    · rintro ⟨dirs, name, content, hfile, ⟨hdirs, hname⟩, rfl⟩
      cases dirs with
      | nil =>
        obtain ⟨u, hu, hself⟩ := Option.bind_eq_some_iff.1 hfile
        rw [get?_nil] at hself
        obtain rfl := Option.some.inj hself
        exact ⟨(name, .file content), (Keyed.lookup_eq_some_iff_mem different).1 hu,
          mem_declarationFilesOf.2 (Or.inl ⟨⟨content, rfl⟩, hname, rfl⟩)⟩
      | cons first dirs =>
        obtain ⟨u, hu, hrest⟩ := Option.bind_eq_some_iff.1 hfile
        have he := (Keyed.lookup_eq_some_iff_mem different).1 hu
        obtain ⟨hsearched, hdirs⟩ := List.forall_mem_cons.1 hdirs
        exact ⟨(first, u), he, mem_declarationFilesOf.2 (Or.inr ⟨hsearched,
          (ih _ he).2 ⟨dirs, name, content, hrest, ⟨hdirs, hname⟩, rfl⟩⟩)⟩

-- What is found below an entry has the name of the entry after the names of the path.
theorem exists_names_of_mem {e : String × Tree} (hname : Path.EntryName e.1.toList)
    (he : e.2.WellNamed) {path p : String} (hp : p ∈ declarationFilesOf path e) :
    ∃ rest, Path.names p = Path.names path ++ e.1 :: rest := by
  obtain ⟨first, u⟩ := e
  rcases mem_declarationFilesOf.1 hp with ⟨-, -, rfl⟩ | ⟨-, hp⟩
  · exact ⟨[], Path.names_append hname.1⟩
  · obtain ⟨dirs, name, content, hfile, -, rfl⟩ := (mem_declarationFiles_iff he).1 hp
    have hnames := (he.get? hfile).2
    refine ⟨dirs ++ [name], ?_⟩
    rw [Path.names_foldl_append fun n hn => (hnames n hn).1, Path.names_append hname.1,
      List.append_assoc, List.singleton_append]

theorem nodup_declarationFiles {t : Tree} (ht : t.WellNamed) (path : String) :
    (t.declarationFiles path).Nodup := by
  induction ht generalizing path with
  | file content => exact List.nodup_nil
  | @directory entries different names below ih =>
    rw [declarationFiles, declarationFilesAmong_eq, List.nodup_flatMap]
    constructor
    · rintro ⟨name, u⟩ he
      unfold declarationFilesOf
      split
      · split
        · exact ih _ he _
        · exact List.nodup_nil
      · split
        · exact List.nodup_singleton _
        · exact List.nodup_nil
    · -- Two entries have different names, and the names can be read off the paths.
      have hdifferent := List.pairwise_map.1 different
      refine hdifferent.imp_of_mem ?_
      intro e e' he he' hne p hp hp'
      obtain ⟨rest, hrest⟩ := exists_names_of_mem (names e he) (below e he) hp
      obtain ⟨rest', hrest'⟩ := exists_names_of_mem (names e' he') (below e' he') hp'
      rw [hrest, List.append_cancel_left_eq] at hrest'
      exact hne (List.cons.inj hrest').1

/-! ## Orders of listing -/

/-- The same tree, with the entries of its directories listed in another order. -/
inductive Relisted : Tree → Tree → Prop
  | file (content : List UInt8) : Relisted (.file content) (.file content)
  | directory {entries entries' : List (String × Tree)}
      (names : (entries.map Prod.fst).Perm (entries'.map Prod.fst))
      (below : ∀ name t t', (name, t) ∈ entries → (name, t') ∈ entries' → Relisted t t') :
      Relisted (.directory entries) (.directory entries')

theorem Relisted.refl {t : Tree} (ht : t.WellNamed) : Relisted t t := by
  induction ht with
  | file content => exact .file content
  | directory different names below ih =>
    refine .directory (.refl _) ?_
    intro name t t' ht ht'
    obtain rfl : t = t' := by
      have hlookup := (Keyed.lookup_eq_some_iff_mem different).2 ht
      rw [(Keyed.lookup_eq_some_iff_mem different).2 ht'] at hlookup
      exact (Option.some.inj hlookup).symm
    exact ih _ ht

/-- The entries of one directory in another order. -/
theorem Relisted.of_perm {entries entries' : List (String × Tree)} (h : entries.Perm entries')
    (hnamed : (Tree.directory entries).WellNamed) :
    Relisted (.directory entries) (.directory entries') := by
  cases Relisted.refl hnamed with
  | directory _ below =>
    exact .directory (h.map Prod.fst) fun name t t' ht ht' => below name t t' ht (h.mem_iff.2 ht')

theorem Relisted.wellNamed {t t' : Tree} (h : Relisted t t') (ht : t.WellNamed) :
    t'.WellNamed := by
  induction h with
  | file content => exact ht
  | @directory entries entries' hperm hbelow ih =>
    cases ht with
    | directory different names below =>
      have hfind : ∀ e ∈ entries', ∃ t, (e.1, t) ∈ entries := by
        intro e he
        have hkey := hperm.mem_iff.2 (List.mem_map_of_mem (f := Prod.fst) he)
        obtain ⟨⟨name, t⟩, ht, hname⟩ := List.mem_map.1 hkey
        exact ⟨t, hname ▸ ht⟩
      refine .directory (hperm.nodup_iff.1 different) ?_ ?_
      · intro e he
        obtain ⟨t, ht⟩ := hfind e he
        exact names (e.1, t) ht
      · intro e he
        obtain ⟨t, ht⟩ := hfind e he
        exact ih _ _ _ ht he (below _ ht)

theorem entryAt_cons (entries : List (String × Tree)) (name : String) (l : Location) :
    (Tree.directory entries).entryAt (name :: l) =
      (entries.lookup name).bind (entryAt · l) := by
  rw [entryAt, get?, Option.map_bind]
  rfl

theorem lookup_eq_none {entries : List (String × Tree)} {name : String}
    (h : name ∉ entries.map Prod.fst) : entries.lookup name = none := by
  refine List.lookup_eq_none_iff.2 ?_
  intro e he
  rw [bne_iff_ne]
  rintro rfl
  exact h (List.mem_map_of_mem he)

theorem Relisted.entryAt_eq {t t' : Tree} (h : Relisted t t') (ht : t.WellNamed) (l : Location) :
    t'.entryAt l = t.entryAt l := by
  induction h generalizing l with
  | file content => rfl
  | @directory entries entries' hperm hbelow ih =>
    have ht' := (Relisted.directory hperm hbelow).wellNamed ht
    cases ht with
    | directory different names below =>
      cases ht' with
      | directory different' _ _ =>
        cases l with
        | nil => rfl
        | cons name l =>
          rw [entryAt_cons, entryAt_cons]
          by_cases hname : name ∈ entries.map Prod.fst
          · obtain ⟨⟨_, u⟩, hu, rfl⟩ := List.mem_map.1 hname
            obtain ⟨⟨name, u'⟩, hu', rfl⟩ := List.mem_map.1 (hperm.mem_iff.1 hname)
            rw [(Keyed.lookup_eq_some_iff_mem different).2 hu,
              (Keyed.lookup_eq_some_iff_mem different').2 hu']
            exact ih _ _ _ hu hu' (below _ hu) l
          · rw [lookup_eq_none hname, lookup_eq_none fun h => hname (hperm.mem_iff.2 h)]

end Tree

end ApiDecl.Files
