import ApiDecl.Files.Tree
import ApiDecl.Proofs.Outcomes
import ApiDecl.Proofs.Paths

/-!
# What writing changes

A tree is looked at through `entryAt`: which locations hold a directory, and which a file with which
content. Making the directories above a file and writing it changes this view at the location of
the file and at the directories above it, and nowhere else (`FileSystem.Wrote`).

Paths are followed name by name when a file is written, while its directories are made along the
absolute path, where `..` is taken back in the text. Both lead to one location (`location_eq`). This
needs a current directory that is given without `..` (`Rooted`), as every current directory is.
-/

namespace ApiDecl.Files

/-- What stands at a location. -/
inductive Entry
  | file (content : List UInt8)
  | directory
deriving DecidableEq

namespace Tree

/-- The root of a tree, without what is below it. -/
def entry : Tree → Entry
  | .file content => .file content
  | .directory _ => .directory

/-- What stands at a location of a tree. -/
def entryAt (t : Tree) (l : Location) : Option Entry := (t.get? l).map entry

theorem entryAt_eq_directory_iff {t : Tree} {l : Location} :
    t.entryAt l = some .directory ↔ ∃ entries, t.get? l = some (.directory entries) := by
  cases h : t.get? l with
  | none => simp [entryAt, h]
  | some u => cases u <;> simp [entryAt, h, entry]

theorem entryAt_eq_file_iff {t : Tree} {l : Location} {content : List UInt8} :
    t.entryAt l = some (.file content) ↔ t.get? l = some (.file content) := by
  cases h : t.get? l with
  | none => simp [entryAt, h]
  | some u => cases u <;> simp [entryAt, h, entry]

@[simp] theorem get?_nil (t : Tree) : t.get? [] = some t := by
  cases t <;> rfl

@[simp] theorem put_nil (x t : Tree) : x.put t [] = x := by
  cases t <;> rfl

theorem get?_append (t : Tree) (l r : Location) :
    t.get? (l ++ r) = (t.get? l).bind (get? · r) := by
  induction l generalizing t with
  | nil => simp
  | cons name l ih =>
    cases t with
    | file content => rfl
    | directory entries =>
      cases h : entries.lookup name with
      | none => simp [get?, h]
      | some u => simp [get?, h, ih u]

theorem get?_put_append (x t : Tree) (l r : Location) : (x.put t l).get? (l ++ r) = x.get? r := by
  induction l generalizing t with
  | nil => simp
  | cons name l ih =>
    cases t with
    | file content => simp [put, get?, ih]
    | directory entries => simp [put, get?, ih]

theorem get?_put_of_incomparable (x : Tree) {t : Tree} {l l' : Location} (h : ¬ l <+: l')
    (h' : ¬ l' <+: l) : (x.put t l).get? l' = t.get? l' := by
  induction l generalizing t l' with
  | nil => exact absurd List.nil_prefix h
  | cons name l ih =>
    cases l' with
    | nil => exact absurd List.nil_prefix h'
    | cons name' l' =>
      by_cases hname : name' = name
      · subst hname
        rw [List.cons_prefix_cons] at h h'
        have hrest : ∀ u : Tree, (x.put u l).get? l' = u.get? l' := fun u =>
          ih (fun hl => h ⟨rfl, hl⟩) fun hl => h' ⟨rfl, hl⟩
        obtain ⟨n, rest, rfl⟩ : ∃ n rest, l' = n :: rest := by
          refine List.exists_cons_of_ne_nil ?_
          rintro rfl
          exact h' ⟨rfl, List.nil_prefix⟩
        cases t with
        | file content => simp [put, get?, hrest, empty]
        | directory entries =>
          cases hlookup : entries.lookup name' with
          | none => simp [put, get?, hlookup, hrest, empty]
          | some u => simp [put, get?, hlookup, hrest]
      · cases t with
        | file content => simp [put, get?, List.lookup_cons, beq_eq_false_iff_ne.2 hname]
        | directory entries => simp [put, get?, Keyed.lookup_set, hname]

theorem entryAt_put_above (x t : Tree) (l : Location) (name : String) (r : Location) :
    (x.put t (l ++ name :: r)).entryAt l = some .directory := by
  induction l generalizing t with
  | nil => cases t <;> simp [put, entryAt, entry]
  | cons n l ih =>
    cases t with
    | file content => simpa [put, entryAt, get?] using ih .empty
    | directory entries => simpa [put, entryAt, get?] using ih _

-- What has something below it is a directory.
theorem entryAt_of_below {t : Tree} {l r : Location} (hr : r ≠ []) {e : Entry}
    (h : t.entryAt (l ++ r) = some e) : t.entryAt l = some .directory := by
  rw [entryAt, get?_append] at h
  obtain ⟨u, hu, -⟩ := Option.map_eq_some_iff.1 h
  obtain ⟨w, hw, hwr⟩ := Option.bind_eq_some_iff.1 hu
  obtain ⟨n, rest, rfl⟩ := List.exists_cons_of_ne_nil hr
  cases w with
  | file content => simp [get?] at hwr
  | directory entries => simp [entryAt, hw, entry]

theorem entryAt_of_prefix {t : Tree} {l l' : Location} (h : t.entryAt l = some .directory)
    (hl : l' <+: l) : t.entryAt l' = some .directory := by
  obtain ⟨r, rfl⟩ := hl
  by_cases hr : r = []
  · rwa [hr, List.append_nil] at h
  · exact entryAt_of_below hr h

/-- A new directory where nothing stood: all above it are directories, and nothing else changes. -/
theorem entryAt_put_empty {t : Tree} {l : Location} (hnew : t.entryAt l = none) (l' : Location) :
    (Tree.empty.put t l).entryAt l' = if l' <+: l then some .directory else t.entryAt l' := by
  by_cases habove : l' <+: l
  · rw [if_pos habove]
    obtain ⟨r, rfl⟩ := habove
    cases r with
    | nil =>
      have hself : (Tree.empty.put t l').get? l' = some .empty := by
        simpa using get?_put_append .empty t l' []
      rw [List.append_nil, entryAt, hself]
      rfl
    | cons name r => exact entryAt_put_above _ _ _ _ _
  · rw [if_neg habove]
    by_cases hbelow : l <+: l'
    · obtain ⟨r, rfl⟩ := hbelow
      have hr : r ≠ [] := by
        rintro rfl
        exact habove (by simp)
      have hold : t.entryAt (l ++ r) = none := by
        by_contra hsome
        obtain ⟨e, he⟩ := Option.ne_none_iff_exists'.1 hsome
        rw [entryAt_of_below hr he] at hnew
        cases hnew
      obtain ⟨n, rest, rfl⟩ := List.exists_cons_of_ne_nil hr
      rw [hold, entryAt, get?_put_append]
      rfl
    · rw [entryAt, get?_put_of_incomparable _ hbelow habove, entryAt]

/-- A file in a directory, where no directory stood: nothing else changes. -/
theorem entryAt_put_file {t : Tree} {l : Location} {name : String} (content : List UInt8)
    (hup : t.entryAt l = some .directory) (hfree : t.entryAt (l ++ [name]) ≠ some .directory)
    (l' : Location) :
    ((Tree.file content).put t (l ++ [name])).entryAt l' =
      if l' = l ++ [name] then some (.file content) else t.entryAt l' := by
  by_cases hbelow : l ++ [name] <+: l'
  · obtain ⟨r, rfl⟩ := hbelow
    rw [entryAt, get?_put_append]
    by_cases hr : r = []
    · simp [hr, entry]
    · rw [if_neg (by simp [hr])]
      have hold : t.entryAt (l ++ [name] ++ r) = none := by
        by_contra hsome
        obtain ⟨e, he⟩ := Option.ne_none_iff_exists'.1 hsome
        exact hfree (entryAt_of_below hr he)
      obtain ⟨n, rest, rfl⟩ := List.exists_cons_of_ne_nil hr
      rw [hold]
      rfl
  · have hne : l' ≠ l ++ [name] := by
      rintro rfl
      exact hbelow List.prefix_rfl
    rw [if_neg hne]
    by_cases habove : l' <+: l ++ [name]
    · have hup' : t.entryAt l' = some .directory := by
        rcases List.prefix_concat_iff.1 habove with heq | hl
        · exact absurd heq hne
        · exact entryAt_of_prefix hup hl
      obtain ⟨r, hr⟩ := habove
      have hr' : r ≠ [] := by
        rintro rfl
        exact hne (by simpa using hr)
      obtain ⟨n, rest, rfl⟩ := List.exists_cons_of_ne_nil hr'
      rw [← hr, entryAt_put_above, hup']
    · rw [entryAt, get?_put_of_incomparable _ hbelow habove, entryAt]

end Tree

/-! ## Following paths -/

namespace FileSystem

/-- What stands at a location. -/
def entryAt (fs : FileSystem) (l : Location) : Option Entry := fs.root.entryAt l

/-- The names on the way to a path, from the root. -/
def location (fs : FileSystem) (path : String) : Location := Path.names (fs.absolute path)

/-- The directory in which relative paths start is given without going back. -/
def Rooted (fs : FileSystem) : Prop := ['.', '.'] ∉ Path.parts fs.directory.toList

theorem Rooted.of_directory {fs fs' : FileSystem} (hfs : fs.Rooted)
    (h : fs'.directory = fs.directory) : fs'.Rooted := by
  rw [Rooted, h]
  exact hfs

theorem location_congr {fs fs' : FileSystem} (h : fs'.directory = fs.directory) (path : String) :
    fs'.location path = fs.location path := by
  rw [location, location, absolute, absolute, h]

/-- The location after one more name. -/
def advance (here : Location) (name : List Char) : Location :=
  if name.isEmpty || name = ['.'] then here
  else if name = ['.', '.'] then here.dropLast
  else here ++ [String.ofList name]

theorem follow_eq_ok {fs : FileSystem} {here l : Location} {name : List Char}
    (h : fs.follow here name = .ok l) :
    fs.entryAt here = some .directory ∧ l = advance here name := by
  unfold follow at h
  split at h
  · cases h
  · cases h
  · next entries hget =>
    refine ⟨Tree.entryAt_eq_directory_iff.2 ⟨entries, hget⟩, ?_⟩
    unfold advance
    split at h
    · next hsame => rw [if_pos hsame]; exact (Except.ok.inj h).symm
    · next hsame =>
      rw [if_neg hsame]
      split at h
      · next hup => rw [if_pos hup]; exact (Except.ok.inj h).symm
      · next hup => rw [if_neg hup]; exact (Except.ok.inj h).symm

theorem foldlM_follow_eq_ok {fs : FileSystem} {here l : Location} {names : List (List Char)}
    (h : names.foldlM fs.follow here = .ok l) : l = names.foldl advance here := by
  induction names generalizing here with
  | nil => exact (Except.ok.inj h).symm
  | cons name names ih =>
    rw [List.foldlM_cons] at h
    obtain ⟨next, hnext, hrest⟩ := Outcome.bind_eq_ok_iff.1 h
    rw [List.foldl_cons, ← (follow_eq_ok hnext).2]
    exact ih hrest

/-- Going from name to name is pushing and taking back the parts that count. -/
theorem foldl_advance (names gone : List (List Char)) :
    names.foldl advance (gone.reverse.map String.ofList) =
      ((names.filter fun part => !part.isEmpty && part ≠ ['.']).foldl Path.pushPart
        gone).reverse.map String.ofList := by
  induction names generalizing gone with
  | nil => rfl
  | cons name names ih =>
    -- A name that does not count stays out of the parts and does not move.
    by_cases hsame : name = [] ∨ name = ['.']
    · have hstay : advance (gone.reverse.map String.ofList) name =
          gone.reverse.map String.ofList := by
        simpa [advance] using fun hne hdot => absurd hsame (by simp [hne, hdot])
      rw [List.foldl_cons, hstay, ih, List.filter_cons_of_neg (by simpa using hsame.resolve_left)]
    · rw [not_or] at hsame
      have hgo : advance (gone.reverse.map String.ofList) name =
          (Path.pushPart gone name).reverse.map String.ofList := by
        by_cases hup : name = ['.', '.']
        · cases gone <;> simp [advance, Path.pushPart, hup]
        · simp [advance, Path.pushPart, hsame, hup]
      rw [List.foldl_cons, hgo, ih, List.filter_cons_of_pos (by simpa using hsame),
        List.foldl_cons]

/-- The names of an absolute path are those that the path leads along. -/
theorem location_eq {fs : FileSystem} (hfs : fs.Rooted) (path : String) :
    fs.location path = (Path.split path.toList).foldl advance (fs.start path.toList) := by
  rw [location, absolute, Path.names_absolute, Path.absoluteParts, Path.parts_append,
    List.foldl_append, start]
  by_cases hroot : path.toList.head? = some '/'
  · rw [if_pos hroot, if_pos hroot]
    exact (foldl_advance _ []).symm
  · rw [if_neg hroot, if_neg hroot, Path.foldl_pushPart_of_not_mem hfs, List.append_nil]
    have hstart : Path.names fs.directory =
        (Path.parts fs.directory.toList).reverse.reverse.map String.ofList := by
      rw [List.reverse_reverse, Path.names]
    rw [hstart, foldl_advance]
    rfl

/-! ## Writing -/

theorem dropWhile_reverse_of_last {names : List (List Char)} (h : names.getLastD [] ≠ []) :
    (names.reverse.dropWhile List.isEmpty).reverse = names := by
  cases hrev : names.reverse with
  | nil => simpa using hrev
  | cons last rest =>
    have hnames : names = rest.reverse ++ [last] := by
      rw [← List.reverse_reverse names, hrev, List.reverse_cons]
    have hlast : last ≠ [] := by simpa [hnames] using h
    rw [List.dropWhile_cons_of_neg (by simpa using hlast), hnames, List.reverse_cons]

theorem exists_name_of_writeLocation {fs : FileSystem} {path : String} {l : Location}
    (h : fs.writeLocation path = .ok l) :
    ∃ front name above, Path.split path.toList = front ++ [name] ∧
      fs.followAll path.toList front = .ok above ∧ name ≠ [] ∧ name ≠ ['.'] ∧ name ≠ ['.', '.'] ∧
      fs.follow above name = .ok l ∧ fs.entryAt l ≠ some .directory := by
  unfold writeLocation at h
  split at h
  · cases h
  · obtain ⟨above, habove, h⟩ := Outcome.bind_eq_ok_iff.1 h
    obtain ⟨l', hl', h⟩ := Outcome.bind_eq_ok_iff.1 h
    dsimp only at h
    split at h
    · next hlast => cases h
    · next hlast =>
      simp only [Bool.or_eq_true, decide_eq_true_eq, List.isEmpty_iff, not_or] at hlast
      obtain ⟨⟨hne, hdot⟩, hup⟩ := hlast
      -- The last name is not empty, so the names are followed as they stand.
      rw [dropWhile_reverse_of_last hne] at habove hl'
      have hsplit : Path.split path.toList ≠ [] := by
        rw [Path.split, Text.splitOn_eq]
        exact List.splitOn_ne_nil _ _
      have hlastD : (Path.split path.toList).getLastD [] =
          (Path.split path.toList).getLast hsplit := by
        simp [List.getLast?_eq_some_getLast hsplit]
      split at h
      · cases h
      · next hfree =>
        obtain rfl := Except.ok.inj h
        refine ⟨_, _, above, ?_, habove, hne, hdot, hup, hl', ?_⟩
        · rw [hlastD, List.dropLast_append_getLast]
        · intro hdirectory
          obtain ⟨entries, hget⟩ := Tree.entryAt_eq_directory_iff.1 hdirectory
          exact hfree entries hget

/-- Where a file is written is where its absolute path leads: into a directory that is there. -/
theorem writeLocation_eq_ok {fs : FileSystem} (hfs : fs.Rooted) {path : String} {l : Location}
    (h : fs.writeLocation path = .ok l) :
    ∃ above name, l = above ++ [name] ∧ fs.location path = above ++ [name] ∧
      fs.entryAt above = some .directory ∧ fs.entryAt (above ++ [name]) ≠ some .directory := by
  obtain ⟨front, name, above, hsplit, hfront, hne, hdot, hup, hlast, hfree⟩ :=
    exists_name_of_writeLocation h
  obtain ⟨hdirectory, hl⟩ := follow_eq_ok hlast
  have habove := foldlM_follow_eq_ok hfront
  have hadvance : advance above name = above ++ [String.ofList name] := by
    simp [advance, hne, hdot, hup]
  have hlocation : fs.location path = above ++ [String.ofList name] := by
    rw [location_eq hfs, hsplit, List.foldl_append, ← habove, ← hadvance]
    rfl
  rw [hadvance] at hl
  exact ⟨above, String.ofList name, hl, hlocation, hdirectory, hl ▸ hfree⟩

/-- A file with some content is put at a location, and the directories on the way to it are there.
Nothing else changes, and no file was on the way. -/
structure Wrote (fs : FileSystem) (l : Location) (content : List UInt8) (fs' : FileSystem) :
    Prop where
  directory : fs'.directory = fs.directory
  sealed : fs'.sealed = fs.sealed
  named : l ≠ []
  free : fs.entryAt l ≠ some .directory
  way : ∀ l' c, l' <+: l.dropLast → fs.entryAt l' ≠ some (.file c)
  entry : ∀ l', fs'.entryAt l' =
    if l' = l then some (.file content)
    else if l' <+: l.dropLast then some .directory
    else fs.entryAt l'

theorem obstacle?_eq_none {root : Tree} {gone l : Location} (h : obstacle? root gone l = none) :
    ∀ q c, q <+: l → root.entryAt (gone ++ q) ≠ some (.file c) := by
  induction l generalizing gone with
  | nil =>
    intro q c hq hfile
    rw [List.prefix_nil.1 hq, List.append_nil, Tree.entryAt_eq_file_iff] at hfile
    simp [obstacle?, hfile] at h
  | cons name l ih =>
    intro q c hq hfile
    cases hget : root.get? gone with
    | none =>
      -- Nothing stands here, and so nothing further down.
      rw [Tree.entryAt, Tree.get?_append, hget] at hfile
      cases hfile
    | some t =>
      cases t with
      | file content => simp [obstacle?, hget] at h
      | directory entries =>
        cases q with
        | nil =>
          rw [List.append_nil, Tree.entryAt_eq_file_iff, hget] at hfile
          cases hfile
        | cons n q =>
          rw [List.cons_prefix_cons] at hq
          obtain ⟨rfl, hq⟩ := hq
          rw [obstacle?, hget] at h
          exact ih h q c hq (by simpa using hfile)

theorem makeDirectories_eq_ok {fs made : FileSystem} {path : String}
    (h : fs.makeDirectories path = .ok made) :
    made.directory = fs.directory ∧ made.sealed = fs.sealed ∧
      (∀ l c, l <+: Path.names path → fs.entryAt l ≠ some (.file c)) ∧
      ∀ l, made.entryAt l = if l <+: Path.names path then some .directory else fs.entryAt l := by
  unfold makeDirectories at h
  dsimp only at h
  split at h
  · cases h
  · next hclear =>
    have hway := obstacle?_eq_none hclear
    refine ⟨?_, ?_, hway, ?_⟩
    · split at h <;> cases h <;> rfl
    · split at h <;> cases h <;> rfl
    · intro l
      split at h
      · next t hthere =>
        obtain rfl := Except.ok.inj h
        have hdirectory : fs.entryAt (Path.names path) = some .directory := by
          cases t with
          | file content =>
            exact absurd (Tree.entryAt_eq_file_iff.2 hthere) (hway _ content List.prefix_rfl)
          | directory entries => exact Tree.entryAt_eq_directory_iff.2 ⟨entries, hthere⟩
        by_cases hl : l <+: Path.names path
        · rw [if_pos hl]
          exact Tree.entryAt_of_prefix hdirectory hl
        · rw [if_neg hl]
      · next hnew =>
        obtain rfl := Except.ok.inj h
        exact Tree.entryAt_put_empty (by simp [Tree.entryAt, hnew]) l

theorem write_eq_ok {fs fs' : FileSystem} (hfs : fs.Rooted) {path : String}
    {content : List UInt8} (h : fs.write path content = .ok fs') :
    fs'.directory = fs.directory ∧ fs'.sealed = fs.sealed ∧ fs.location path ≠ [] ∧
      fs.entryAt (fs.location path) ≠ some .directory ∧
      ∀ l, fs'.entryAt l = if l = fs.location path then some (.file content) else fs.entryAt l := by
  unfold write at h
  split at h
  · next l hl =>
    obtain ⟨above, name, rfl, hlocation, hup, hfree⟩ := writeLocation_eq_ok hfs hl
    obtain rfl := Except.ok.inj h
    refine ⟨rfl, rfl, by simp [hlocation], hlocation ▸ hfree, ?_⟩
    intro l'
    rw [hlocation]
    exact Tree.entryAt_put_file content hup hfree l'
  · cases h

namespace Wrote

variable {fs fs' : FileSystem} {l : Location} {content : List UInt8}

theorem self (h : fs.Wrote l content fs') : fs'.entryAt l = some (.file content) := by
  rw [h.entry, if_pos rfl]

theorem file_iff (h : fs.Wrote l content fs') {l' : Location} (hl : l' ≠ l) {c : List UInt8} :
    fs'.entryAt l' = some (.file c) ↔ fs.entryAt l' = some (.file c) := by
  rw [h.entry, if_neg hl]
  by_cases hway : l' <+: l.dropLast
  · simp [hway, h.way l' c hway]
  · rw [if_neg hway]

theorem directory_iff (h : fs.Wrote l content fs') {l' : Location} :
    fs'.entryAt l' = some .directory ↔ fs.entryAt l' = some .directory ∨ l' <+: l.dropLast := by
  rw [h.entry]
  by_cases hl : l' = l
  · have hlong : ¬ l <+: l.dropLast := by
      intro hpre
      have hle := hpre.length_le
      have hpos := List.length_pos_iff.2 h.named
      rw [List.length_dropLast] at hle
      omega
    simp [hl, h.free, hlong]
  · rw [if_neg hl]
    by_cases hway : l' <+: l.dropLast <;> simp [hway]

end Wrote

/-- Making the directories above a file and then writing it. -/
theorem wrote_of_write {fs made fs' : FileSystem} (hfs : fs.Rooted) {path : String}
    {content : List UInt8} (hmade : fs.makeDirectories (Path.parent (fs.absolute path)) = .ok made)
    (hwrite : made.write path content = .ok fs') : fs.Wrote (fs.location path) content fs' := by
  obtain ⟨hdirectory, hsealed, hway, hentry⟩ := makeDirectories_eq_ok hmade
  rw [Path.names_parent] at hway hentry
  obtain ⟨hdirectory', hsealed', hnamed, hfree, hfile⟩ :=
    write_eq_ok (hfs.of_directory hdirectory) hwrite
  rw [location_congr hdirectory] at hnamed hfree hfile
  refine ⟨hdirectory'.trans hdirectory, hsealed'.trans hsealed, hnamed, ?_, hway, ?_⟩
  · intro hold
    rw [hentry, hold, ite_self] at hfree
    exact hfree rfl
  · intro l
    rw [hfile, hentry]
    rfl

end FileSystem

end ApiDecl.Files
