import ApiDecl.Proofs.Files

/-!
# Absolute paths in plain form

An absolute path in plain form is one or two slashes and names, none of them `..`, with a slash
between each two (`Plain`). Making a path absolute gives such a path and changes none
(`plain_absolute`, `Plain.absolute_eq`), and so does going on to an entry of a directory. Following
such a path in a system is going along its names (`lookup_eq_ok_iff`).
-/

namespace ApiDecl.Path

/-- What an entry of a directory can be called. -/
def EntryName (name : List Char) : Prop := Names name ∧ name ≠ ['.', '.']

instance (name : List Char) : Decidable (EntryName name) :=
  inferInstanceAs (Decidable ((name ≠ [] ∧ name ≠ ['.'] ∧ '/' ∉ name) ∧ name ≠ ['.', '.']))

/-- A path is one or two slashes and names with a slash between each two. -/
structure PlainAs (path : String) (slashes : List Char) (ps : List (List Char)) : Prop where
  text : path.toList = slashes ++ join ps
  slashes : slashes = ['/'] ∨ slashes = ['/', '/']
  names : ∀ part ∈ ps, EntryName part

/-- An absolute path in plain form. -/
def Plain (path : String) : Prop := ∃ slashes ps, PlainAs path slashes ps

section

variable {part : List Char} {ps : List (List Char)}

theorem Names.head?_ne (h : Names part) : part.head? ≠ some '/' :=
  fun hhead => h.2.2 (List.mem_of_head? hhead)

theorem Names.getLast?_ne (h : Names part) : part.getLast? ≠ some '/' :=
  fun hlast => h.2.2 (List.mem_of_getLast? hlast)

theorem join_singleton (part : List Char) : join [part] = part := by
  rw [join, Text.joinWith_eq, List.intercalate_singleton]

theorem head?_join_ne (h : ∀ part ∈ ps, Names part) : (join ps).head? ≠ some '/' := by
  cases ps with
  | nil => simp [join, Text.joinWith]
  | cons part ps =>
    have hpart := h part List.mem_cons_self
    cases ps with
    | nil =>
      rw [join_singleton]
      exact hpart.head?_ne
    | cons next ps =>
      have hjoin := join_append (List.cons_ne_nil part []) (List.cons_ne_nil next ps)
      rw [join_singleton, List.singleton_append] at hjoin
      rw [hjoin, List.head?_append_of_ne_nil _ hpart.1]
      exact hpart.head?_ne

theorem join_ne_nil (hne : ps ≠ []) (h : ∀ part ∈ ps, Names part) : join ps ≠ [] := by
  intro hempty
  have hback := parts_join h
  rw [hempty, parts_nil] at hback
  exact hne hback.symm

theorem getLast?_join_ne (h : ∀ part ∈ ps, Names part) : (join ps).getLast? ≠ some '/' := by
  rcases List.eq_nil_or_concat ps with rfl | ⟨front, last, rfl⟩
  · simp [join, Text.joinWith]
  · have hlast := h last (by simp)
    by_cases hfront : front = []
    · rw [hfront, List.concat_eq_append, List.nil_append, join_singleton]
      exact hlast.getLast?_ne
    · rw [List.concat_eq_append, join_append hfront (List.cons_ne_nil _ _), join_singleton,
        List.getLast?_append_of_ne_nil _ (List.cons_ne_nil _ _),
        List.getLast?_cons_of_ne_nil hlast.1]
      exact hlast.getLast?_ne

end

/-! ## Making paths absolute -/

theorem root_of_head? {cs : List Char} (h : cs.head? = some '/') :
    root cs = ['/'] ∨ root cs = ['/', '/'] := by
  cases cs with
  | nil => cases h
  | cons c cs =>
    obtain rfl : c = '/' := Option.some.inj h
    unfold root
    split <;> simp_all

theorem root_of_head?_ne {cs : List Char} (h : cs.head? ≠ some '/') : root cs = [] := by
  cases cs with
  | nil => rfl
  | cons c cs =>
    have hc : c ≠ '/' := by simpa using h
    simp [root, hc]

theorem root_slashes_append {slashes cs : List Char}
    (hslashes : slashes = ['/'] ∨ slashes = ['/', '/']) (h : cs.head? ≠ some '/') :
    root (slashes ++ cs) = slashes := by
  rcases hslashes with rfl | rfl <;> cases cs with
  | nil => rfl
  | cons c cs =>
    have hc : c ≠ '/' := by simpa using h
    simp [root, hc]

theorem parts_slashes_append {slashes : List Char}
    (hslashes : slashes = ['/'] ∨ slashes = ['/', '/']) (cs : List Char) :
    parts (slashes ++ cs) = parts cs := by
  rcases hslashes with rfl | rfl <;> simp [parts_slash]

theorem up_not_mem_foldl_pushPart {ps gone : List (List Char)} (h : ['.', '.'] ∉ gone) :
    ['.', '.'] ∉ ps.foldl pushPart gone := by
  induction ps generalizing gone with
  | nil => exact h
  | cons p ps ih =>
    refine ih ?_
    unfold pushPart
    split
    · exact fun hmem => h (List.mem_of_mem_drop hmem)
    · next hp =>
      rw [List.mem_cons, not_or]
      exact ⟨Ne.symm hp, h⟩

theorem entryName_of_mem_absoluteParts {cs part : List Char} (h : part ∈ absoluteParts cs) :
    EntryName part := by
  refine ⟨names_of_mem_absoluteParts h, ?_⟩
  rintro rfl
  rw [absoluteParts, List.mem_reverse] at h
  exact up_not_mem_foldl_pushPart List.not_mem_nil h

theorem head?_append {base path : String} (h : base.toList.head? = some '/') :
    (append base path).toList.head? = some '/' := by
  have hne : base.toList ≠ [] := by
    intro hnil
    rw [hnil] at h
    cases h
  unfold append
  split
  · next hpath => exact hpath
  · split
    · rw [String.toList_append, List.head?_append_of_ne_nil _ hne, h]
    · rw [String.toList_append, String.toList_append, List.append_assoc,
        List.head?_append_of_ne_nil _ hne, h]

theorem plain_absolute {directory : String} (h : directory.toList.head? = some '/')
    (path : String) : Plain (absolute directory path) :=
  ⟨_, _, String.toList_ofList, root_of_head? (head?_append h),
    fun _ => entryName_of_mem_absoluteParts⟩

namespace PlainAs

variable {path : String} {slashes : List Char} {ps ls : List (List Char)}

theorem head? (h : PlainAs path slashes ps) : path.toList.head? = some '/' := by
  rw [h.text]
  rcases h.slashes with rfl | rfl <;> rfl

theorem isEmpty_eq (h : PlainAs path slashes ps) : path.isEmpty = false := by
  rw [Bool.eq_false_iff]
  intro hempty
  have hhead := h.head?
  rw [String.isEmpty_iff.1 hempty] at hhead
  cases hhead

theorem parts_eq (h : PlainAs path slashes ps) : parts path.toList = ps := by
  rw [h.text, parts_slashes_append h.slashes, parts_join fun part hpart => (h.names part hpart).1]

theorem absoluteParts_eq (h : PlainAs path slashes ps) : absoluteParts path.toList = ps := by
  have hup : ['.', '.'] ∉ ps := fun hmem => (h.names _ hmem).2 rfl
  rw [absoluteParts, h.parts_eq, foldl_pushPart_of_not_mem hup, List.append_nil,
    List.reverse_reverse]

theorem absolute_eq (h : PlainAs path slashes ps) (directory : String) :
    absolute directory path = path := by
  have hself : Path.append directory path = path := if_pos h.head?
  have hroot : root path.toList = slashes := by
    rw [h.text, root_slashes_append h.slashes (head?_join_ne fun part hp => (h.names part hp).1)]
  rw [absolute, hself, h.absoluteParts_eq, hroot, ← h.text, String.ofList_toList]

/-- More names can follow, with a slash between each two. -/
theorem append_join (h : PlainAs path slashes ps) (hls : ls ≠ [])
    (hnames : ∀ part ∈ ls, EntryName part) :
    PlainAs (Path.append path (String.ofList (join ls))) slashes (ps ++ ls) := by
  have hnames' : ∀ part ∈ ls, Names part := fun part hpart => (hnames part hpart).1
  refine ⟨?_, h.slashes, List.forall_mem_append.2 ⟨h.names, hnames⟩⟩
  unfold Path.append
  rw [String.toList_ofList, if_neg (head?_join_ne hnames')]
  by_cases hnil : ps = []
  · have hlast : path.toList.getLast? = some '/' := by
      rw [h.text, hnil]
      rcases h.slashes with rfl | rfl <;> rfl
    rw [if_pos (by simp [hlast]), String.toList_append, h.text, hnil, String.toList_ofList,
      List.nil_append]
    simp [join, Text.joinWith]
  · have hlast : path.toList.getLast? ≠ some '/' := by
      have hnames : ∀ part ∈ ps, Names part := fun part hpart => (h.names part hpart).1
      rw [h.text, List.getLast?_append_of_ne_nil _ (join_ne_nil hnil hnames)]
      exact getLast?_join_ne hnames
    rw [if_neg (by simp [hlast, h.isEmpty_eq]), String.toList_append, String.toList_append, h.text,
      String.toList_ofList, join_append hnil hls]
    simp

/-- Going from name to name is going along the names. -/
theorem foldl_append (h : PlainAs path slashes ps) {l : List String}
    (hl : ∀ name ∈ l, EntryName name.toList) :
    PlainAs (l.foldl Path.append path) slashes (ps ++ l.map String.toList) := by
  induction l generalizing path ps with
  | nil => simpa using h
  | cons name l ih =>
    have hone := h.append_join (List.cons_ne_nil name.toList []) (by simpa using hl name (by simp))
    rw [join_singleton, String.ofList_toList] at hone
    simpa using ih hone fun n hn => hl n (List.mem_cons_of_mem _ hn)

end PlainAs

theorem Plain.absolute_eq {path : String} (h : Plain path) (directory : String) :
    absolute directory path = path := by
  obtain ⟨slashes, ps, h⟩ := h
  exact h.absolute_eq directory

/-! ## Names that follow a path -/

section

variable {base : String} {l : List String}

theorem toList_intercalate (l : List String) :
    ("/".intercalate l).toList = join (l.map String.toList) := by
  rw [String.toList_intercalate, join, Text.joinWith_eq]
  rfl

theorem names_append {name : String} (h : Names name.toList) :
    names (append base name) = names base ++ [name] := by
  have hself : parts name.toList = [name.toList] := by
    rw [← join_singleton name.toList, parts_join (by simpa using h), join_singleton]
  rw [names, parts_append, if_neg h.head?_ne, hself, List.map_append, names]
  simp

theorem names_foldl_append (h : ∀ name ∈ l, Names name.toList) :
    names (l.foldl append base) = names base ++ l := by
  induction l generalizing base with
  | nil => simp
  | cons name l ih =>
    rw [List.foldl_cons, ih fun n hn => h n (List.mem_cons_of_mem _ hn),
      names_append (h name List.mem_cons_self), List.append_assoc, List.singleton_append]

theorem Plain.foldl_append_eq (hbase : Plain base) (hne : l ≠ [])
    (h : ∀ name ∈ l, EntryName name.toList) :
    l.foldl append base = append base ("/".intercalate l) := by
  obtain ⟨slashes, ps, hbase⟩ := hbase
  have hwalk := (hbase.foldl_append h).text
  have hjoin := (hbase.append_join (mt List.map_eq_nil_iff.1 hne) (List.forall_mem_map.2 h)).text
  rw [← toList_intercalate, String.ofList_toList] at hjoin
  rw [← String.toList_inj, hwalk, hjoin]

theorem head?_intercalate_ne (h : ∀ name ∈ l, Names name.toList) :
    ("/".intercalate l).toList.head? ≠ some '/' := by
  rw [toList_intercalate]
  exact head?_join_ne (by simpa using h)

theorem dropCommon_append {α : Type} [DecidableEq α] (as bs : List α) :
    dropCommon as (as ++ bs) = ([], bs) := by
  induction as with
  | nil => simp [dropCommon]
  | cons a as ih => simp [dropCommon, ih]

/-- The way to what is below is the names that follow. -/
theorem relative_eq {path : String} (hne : l ≠ []) (h : names path = names base ++ l) :
    relative base path = "/".intercalate l := by
  have htexts : ∀ p : String, parts p.toList = (names p).map String.toList := by
    intro p
    simp [names]
  have hparts : parts path.toList = parts base.toList ++ l.map String.toList := by
    rw [htexts, htexts, h, List.map_append]
  obtain ⟨name, l, rfl⟩ := List.exists_cons_of_ne_nil hne
  rw [relative, hparts, dropCommon_append, ← String.toList_inj, toList_intercalate]
  simp

theorem normalize_intercalate (hne : l ≠ []) (h : ∀ name ∈ l, Names name.toList) :
    normalize ("/".intercalate l) = "/".intercalate l := by
  have hnames : ∀ part ∈ l.map String.toList, Names part := List.forall_mem_map.2 h
  have hjoin := join_ne_nil (mt List.map_eq_nil_iff.1 hne) hnames
  rw [normalize, toList_intercalate, normalizeChars, root_of_head?_ne (head?_join_ne hnames),
    parts_join hnames, List.nil_append, ← String.toList_inj, toList_intercalate]
  split
  · next hempty => exact absurd hempty hjoin
  · exact String.toList_ofList

end

end ApiDecl.Path

/-! ## Following absolute paths -/

namespace ApiDecl.Files.FileSystem

variable {fs : FileSystem} {path : String}

theorem follow_nil (h : fs.entryAt [] = some .directory) : fs.follow [] [] = .ok [] := by
  obtain ⟨entries, hentries⟩ := Tree.entryAt_eq_directory_iff.1 h
  simp [follow, hentries]

theorem follow_entryName {here : Location} {name : List Char} (hname : Path.EntryName name)
    (h : fs.entryAt here = some .directory) :
    fs.follow here name = .ok (here ++ [String.ofList name]) := by
  obtain ⟨entries, hentries⟩ := Tree.entryAt_eq_directory_iff.1 h
  simp [follow, hentries, hname.1.1, hname.1.2.1, hname.2]

/-- Where something is at the end of the names, they can be followed. -/
theorem foldlM_follow_of_get? {here : Location} {ps : List (List Char)} {t : Tree}
    (hps : ∀ part ∈ ps, Path.EntryName part)
    (h : fs.root.get? (here ++ ps.map String.ofList) = some t) :
    ps.foldlM fs.follow here = .ok (here ++ ps.map String.ofList) := by
  induction ps generalizing here with
  | nil => simp [pure, Except.pure]
  | cons part ps ih =>
    have hdirectory : fs.entryAt here = some .directory := by
      have hentry : fs.root.entryAt (here ++ (part :: ps).map String.ofList) = some t.entry := by
        rw [Tree.entryAt, h]
        rfl
      exact Tree.entryAt_of_below (by simp) hentry
    rw [List.map_cons, List.append_cons] at h ⊢
    rw [List.foldlM_cons, follow_entryName (hps part List.mem_cons_self) hdirectory,
      Outcome.ok_bind]
    exact ih (fun p hp => hps p (List.mem_cons_of_mem _ hp)) h

theorem followAll_of_get? (hroot : fs.entryAt [] = some .directory) {slashes : List Char}
    {ps : List (List Char)} (hpath : Path.PlainAs path slashes ps) {t : Tree}
    (h : fs.root.get? (ps.map String.ofList) = some t) :
    fs.followAll path.toList (Path.split path.toList) = .ok (ps.map String.ofList) := by
  have hstart : fs.start path.toList = [] := if_pos hpath.head?
  have hnames : (Path.split (Path.join ps)).foldlM fs.follow [] = .ok (ps.map String.ofList) := by
    by_cases hnil : ps = []
    · subst hnil
      have hsplit : Path.split (Path.join []) = [[]] := rfl
      simp [hsplit, follow_nil hroot]
    · rw [Path.split_join hnil fun part hpart => (hpath.names part hpart).1.2.2]
      simpa using @foldlM_follow_of_get? fs [] ps t hpath.names (by simpa using h)
  rw [followAll, hstart, hpath.text]
  rcases hpath.slashes with rfl | rfl <;>
    simpa [Path.split_slash, follow_nil hroot] using hnames

/-- An absolute path in plain form leads to what is at the location of its names. -/
theorem lookup_eq_ok_iff (hroot : fs.entryAt [] = some .directory) (hpath : Path.Plain path)
    {t : Tree} : fs.lookup path = .ok t ↔ fs.root.get? (Path.names path) = some t := by
  obtain ⟨slashes, ps, hpath⟩ := hpath
  have hne : path.isEmpty = false := hpath.isEmpty_eq
  have hlocation : Path.names path = ps.map String.ofList := by
    rw [Path.names, hpath.parts_eq]
  rw [lookup, if_neg (by simp [hne]), hlocation]
  constructor
  · intro h
    obtain ⟨l, hl, h⟩ := Outcome.bind_eq_ok_iff.1 h
    have hend : l = ps.map String.ofList := by
      rw [foldlM_follow_eq_ok hl, start, if_pos hpath.head?, ← hpath.absoluteParts_eq]
      exact foldl_advance (Path.split path.toList) []
    subst hend
    cases hget : fs.root.get? (ps.map String.ofList) with
    | none =>
      rw [hget] at h
      cases h
    | some u =>
      rw [hget] at h
      rw [Except.ok.inj h]
  · intro h
    rw [followAll_of_get? hroot hpath h, Outcome.ok_bind, h]
    rfl

end ApiDecl.Files.FileSystem
