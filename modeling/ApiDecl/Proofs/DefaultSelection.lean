import Mathlib
import ApiDecl.Proofs.Paths
import ApiDecl.Proofs.PatternSearch
import ApiDecl.Reading.Selection

/-!
# Which files are read by default

The default patterns search for a text at the end, or for one that stands at the start or after a
slash. In a path in plain form these are endings of its last name and names of its directories.
-/

/-! ## Components of paths -/

namespace ApiDecl.Path

-- A word without slashes does not reach beyond the last component.
theorem suffix_iff_of_split {word cs last : List Char} {front : List (List Char)}
    (hword : '/' ∉ word) (h : split cs = front ++ [last]) : word <:+ cs ↔ word <:+ last := by
  have hcs : cs = join (front ++ [last]) := by rw [← h, join_split]
  by_cases hfront : front = []
  · rw [hcs, hfront]
    rfl
  · rw [join_append hfront (List.cons_ne_nil _ _)] at hcs
    have hlast : '/' :: last <:+ cs := ⟨join front, hcs.symm⟩
    constructor
    · intro hsuffix
      rcases List.suffix_or_suffix_of_suffix hsuffix hlast with hin | hover
      · rcases List.suffix_cons_iff.1 hin with rfl | hin
        · exact absurd List.mem_cons_self hword
        · exact hin
      · exact absurd (hover.subset List.mem_cons_self) hword
    · intro hsuffix
      exact (hsuffix.trans (List.suffix_cons _ _)).trans hlast

/-- The components before the last one are the words that a slash follows, at the start or after
another slash. -/
theorem mem_dropLast_split_iff {word cs : List Char} (hword : '/' ∉ word) :
    word ∈ (split cs).dropLast ↔ word ++ ['/'] <+: cs ∨ '/' :: (word ++ ['/']) <:+: cs := by
  constructor
  · intro hmem
    obtain ⟨xs, ys, hdrop⟩ := List.append_of_mem hmem
    obtain ⟨last, hlast⟩ : ∃ last, split cs = xs ++ word :: (ys ++ [last]) := by
      have hall := List.dropLast_append_getLast (split_ne_nil cs)
      rw [hdrop, List.append_assoc, List.cons_append] at hall
      exact ⟨_, hall.symm⟩
    have hne : ys ++ [last] ≠ [] := by simp
    have hrest : join (word :: (ys ++ [last])) = word ++ '/' :: join (ys ++ [last]) :=
      join_append (List.cons_ne_nil word []) hne
    have hcs : cs = join (xs ++ word :: (ys ++ [last])) := by rw [← hlast, join_split]
    by_cases hxs : xs = []
    · refine .inl ⟨join (ys ++ [last]), ?_⟩
      rw [hcs, hxs, List.nil_append, hrest]
      simp
    · refine .inr ⟨join xs, join (ys ++ [last]), ?_⟩
      rw [hcs, join_append hxs (List.cons_ne_nil _ _), hrest]
      simp
  · rintro (⟨rest, rfl⟩ | ⟨before, rest, rfl⟩)
    · rw [List.append_assoc, List.singleton_append, split_append_slash, split_of_not_mem hword,
        List.singleton_append, List.dropLast_cons_of_ne_nil (split_ne_nil rest)]
      exact List.mem_cons_self
    · have hform : before ++ '/' :: (word ++ ['/']) ++ rest =
          before ++ '/' :: (word ++ '/' :: rest) := by simp
      rw [hform, split_append_slash, split_append_slash, split_of_not_mem hword,
        List.dropLast_append_of_ne_nil (by simp), List.singleton_append,
        List.dropLast_cons_of_ne_nil (split_ne_nil rest)]
      simp

/-- In a plain path nothing but empty components at the start stands before the named parts. -/
theorem split_of_normal {cs : List Char} (h : normalizeChars cs = cs) (hparts : parts cs ≠ []) :
    ∃ blanks, split cs = blanks ++ parts cs ∧ ∀ b ∈ blanks, b = [] := by
  have hnames : ∀ part ∈ parts cs, '/' ∉ part := by
    intro part hpart
    exact (names_of_mem_parts hpart).2.2
  have hjoin := split_join hparts hnames
  have hcs : cs = root cs ++ join (parts cs) := by
    unfold normalizeChars at h
    split at h
    · next hnil =>
      -- The joined parts are not empty, since no part is.
      rw [(List.append_eq_nil_iff.1 hnil).2] at hjoin
      have hempty : [] ∈ parts cs := hjoin ▸ List.mem_cons_self
      exact absurd rfl (names_of_mem_parts hempty).1
    · exact h.symm
  have hroot : root cs = [] ∨ root cs = ['/'] ∨ root cs = ['/', '/'] := by
    unfold root
    split <;> simp
  have hsplit := congrArg split hcs
  rcases hroot with hr | hr | hr
  · rw [hr, List.nil_append, hjoin] at hsplit
    exact ⟨[], hsplit, by simp⟩
  · rw [hr, List.singleton_append, split_slash, hjoin] at hsplit
    exact ⟨[[]], hsplit, by simp⟩
  · rw [hr, List.cons_append, List.singleton_append, split_slash, split_slash, hjoin] at hsplit
    exact ⟨[[], []], hsplit, by simp⟩

/-- The components of a plain path, of which all that are not empty are its names. -/
theorem exists_last_of_normal {path : String} (h : normalizeChars path.toList = path.toList)
    (hparts : parts path.toList ≠ []) :
    ∃ front last, split path.toList = front ++ [last] ∧
      names path = (names path).dropLast ++ [String.ofList last] ∧
      ∀ word, word ≠ [] → (word ∈ front ↔ String.ofList word ∈ (names path).dropLast) := by
  obtain ⟨blanks, hsplit, hblanks⟩ := split_of_normal h hparts
  obtain ⟨named, last, hnamed⟩ := (List.eq_nil_or_concat (parts path.toList)).resolve_left hparts
  rw [List.concat_eq_append] at hnamed
  have hnames : names path = named.map String.ofList ++ [String.ofList last] := by
    rw [names, hnamed, List.map_append, List.map_singleton]
  refine ⟨blanks ++ named, last, by rw [hsplit, hnamed, List.append_assoc], ?_, ?_⟩
  · rw [hnames, List.dropLast_concat]
  · intro word hword
    rw [hnames, List.dropLast_concat, List.mem_append, List.mem_map]
    constructor
    · rintro (hblank | hmem)
      · exact absurd (hblanks word hblank) hword
      · exact ⟨word, hmem, rfl⟩
    · rintro ⟨part, hmem, hpart⟩
      exact .inr (String.ofList_injective hpart ▸ hmem)

-- What is longer than a dot and stands at the end is part of a name.
theorem parts_ne_nil_of_suffix {word cs : List Char} (hword : '/' ∉ word) (hlong : 2 ≤ word.length)
    (h : word <:+ cs) : parts cs ≠ [] := by
  have hsplit := List.dropLast_append_getLast (split_ne_nil cs)
  have hlast := ((suffix_iff_of_split hword hsplit.symm).1 h).length_le
  have hmem : (split cs).getLast (split_ne_nil cs) ∈ parts cs := by
    refine mem_parts_iff.2 ⟨List.getLast_mem _, fun heq => ?_, fun heq => ?_⟩
    · rw [heq, List.length_nil] at hlast
      omega
    · rw [heq, List.length_singleton] at hlast
      omega
  exact List.ne_nil_of_mem hmem

end ApiDecl.Path

namespace ApiDecl.Reading

open Journal (Traced)
open Pattern (CharacterNames EndsIn componentStart literal)

/-! ## The default patterns -/

deriving instance DecidableEq for Selection

/-- The selection that the default patterns make. -/
def defaultSelection : Selection where
  inclusion := ⟨[], literal ".ts".toList ++ [.anchor .stop]⟩
  exclusion := ⟨[], [.choice [componentStart :: literal "node_modules/".toList,
    literal ".d.ts".toList ++ [.anchor .stop]]]⟩

theorem compilePattern_defaultInclusion [CharacterNames] :
    compilePattern Selection.defaultInclusion = .ok defaultSelection.inclusion := by
  cbv

theorem compilePattern_defaultExclusion [CharacterNames] :
    compilePattern Selection.defaultExclusion = .ok defaultSelection.exclusion := by
  cbv

theorem compile_default [CharacterNames] :
    Selection.compile Selection.defaultInclusion Selection.defaultExclusion =
      .ok defaultSelection := by
  rw [Selection.compile, compilePattern_defaultInclusion, compilePattern_defaultExclusion]
  rfl

/-- A path ends as declarations do but not as declarations of what others define, and there is no
directory of installed packages on the way. -/
def ReadByDefault (path : String) : Prop :=
  EndsIn ".ts".toList path.toList ∧ ¬ EndsIn ".d.ts".toList path.toList ∧
    ¬ "node_modules/".toList <+: path.toList ∧ ¬ "/node_modules/".toList <:+: path.toList

instance (word text : List Char) : Decidable (EndsIn word text) :=
  inferInstanceAs (Decidable (_ ∨ _))

instance (path : String) : Decidable (ReadByDefault path) :=
  inferInstanceAs (Decidable (_ ∧ _ ∧ _ ∧ _))

theorem admits_default_iff (path : String) :
    defaultSelection.admits path = true ↔ ReadByDefault path := by
  have hinclusion : defaultSelection.inclusion.search path = true ↔
      EndsIn ".ts".toList path.toList := Pattern.search_ending_iff
  have hexclusion : defaultSelection.exclusion.search path = true ↔
      ("node_modules/".toList <+: path.toList ∨ "/node_modules/".toList <:+: path.toList) ∨
        EndsIn ".d.ts".toList path.toList := by
    rw [defaultSelection, Pattern.search_choice_iff, List.exists_mem_cons_iff,
      List.exists_mem_cons_iff, Pattern.search_component_iff, Pattern.search_ending_iff]
    simp
  rw [Selection.admits, Bool.and_eq_true, Bool.not_eq_true', ← Bool.not_eq_true, hinclusion,
    hexclusion, ReadByDefault, not_or, not_or, and_comm (a := ¬ EndsIn _ _)]

theorem endsIn_iff_of_oneLine {word text : List Char} (h : '\n' ∉ text) :
    EndsIn word text ↔ word <:+ text := by
  constructor
  · rintro (hend | hbreak)
    · exact hend
    · exact absurd (hbreak.subset (by simp)) h
  · exact .inl

/-- The default selection by the names on the way: a plain path of one line is read if its last name
ends as it should and none before it is that of installed packages. -/
theorem readByDefault_iff_names {path : String} (hplain : Path.normalize path = path)
    (hline : '\n' ∉ path.toList) :
    ReadByDefault path ↔ ∃ front last, Path.names path = front ++ [last] ∧
      ".ts".toList <:+ last.toList ∧ ¬ ".d.ts".toList <:+ last.toList ∧
        "node_modules" ∉ front := by
  have hchars : Path.normalizeChars path.toList = path.toList := by
    have h := congrArg String.toList hplain
    rwa [Path.normalize, String.toList_ofList] at h
  have hpackages : ("node_modules/".toList <+: path.toList ∨
      "/node_modules/".toList <:+: path.toList) ↔
        "node_modules".toList ∈ (Path.split path.toList).dropLast := by
    have h := @Path.mem_dropLast_split_iff "node_modules".toList path.toList (by decide)
    exact h.symm
  rw [ReadByDefault, ← not_or, hpackages, endsIn_iff_of_oneLine hline, endsIn_iff_of_oneLine hline]
  by_cases hnone : Path.parts path.toList = []
  · constructor
    · rintro ⟨hend, -, -⟩
      exact absurd hnone (Path.parts_ne_nil_of_suffix (by decide) (by decide) hend)
    · rintro ⟨front, last, hnames, -⟩
      rw [Path.names, hnone] at hnames
      simp at hnames
  · obtain ⟨front, last, hsplit, hnames, hfront⟩ := Path.exists_last_of_normal hchars hnone
    have htext : (String.ofList last).toList = last := String.toList_ofList
    rw [Path.suffix_iff_of_split (by decide) hsplit, Path.suffix_iff_of_split (by decide) hsplit,
      hsplit, List.dropLast_concat, hfront _ (by decide), String.ofList_toList]
    constructor
    · rintro ⟨hend, hother, hpackage⟩
      exact ⟨_, _, hnames, by rwa [htext], by rwa [htext], hpackage⟩
    · rintro ⟨front', last', hnames', hend, hother, hpackage⟩
      obtain ⟨rfl, hlast⟩ := List.append_inj' (hnames'.symm.trans hnames) rfl
      rw [List.singleton_inj.1 hlast, htext] at hend hother
      exact ⟨hend, hother, hpackage⟩

/-- **The default selection.** Of any files, those are selected by the default patterns, in their
order, whose path ends in `.ts` and not in `.d.ts`, each maybe before a last line break, and in
whose path `node_modules/` stands neither at the start nor after a slash. For a plain path of one
line this is said of its names: the last one ends in `.ts` and not in `.d.ts`, and none before it
is `node_modules`. -/
theorem selectFiles_default [CharacterNames] (files : List SourceFile) :
    (selectFiles files Selection.defaultInclusion Selection.defaultExclusion).outcome =
        .ok (files.filter fun f => ReadByDefault f.path) ∧
    ∀ path, Path.normalize path = path → '\n' ∉ path.toList →
      (ReadByDefault path ↔ ∃ front last, Path.names path = front ++ [last] ∧
        ".ts".toList <:+ last.toList ∧ ¬ ".d.ts".toList <:+ last.toList ∧
          "node_modules" ∉ front) := by
  refine ⟨?_, fun path hplain hline => readByDefault_iff_names hplain hline⟩
  have hadmits : (fun f : SourceFile => defaultSelection.admits f.path) =
      fun f => decide (ReadByDefault f.path) := by
    funext f
    rw [Bool.eq_iff_iff, admits_default_iff, decide_eq_true_iff]
  rw [selectFiles, Traced.outcome_bind, Traced.outcome_ofExcept, compile_default]
  exact congrArg (fun p => Except.ok (files.filter p)) hadmits

/-- A file with a path and nothing in it. -/
def blankFile (path : String) : SourceFile := ⟨path, .mk default [], [], 0⟩

/-- Installed packages are left out at the start and further down, but a longer name is no such
directory. A last line break makes no difference. -/
theorem selectFiles_default_packages :
    (selectFiles (["a.ts", "b.d.ts", "node_modules/c.ts", "my_node_modules/d.ts", "e.ts\n",
          "f/node_modules/g.ts", "h.d.ts\n"].map blankFile)
        Selection.defaultInclusion Selection.defaultExclusion).outcome =
      .ok (["a.ts", "my_node_modules/d.ts", "e.ts\n"].map blankFile) ∧
    Path.normalize "my_node_modules/d.ts" = "my_node_modules/d.ts" ∧
    '\n' ∉ "my_node_modules/d.ts".toList ∧
    ∃ front last, Path.names "my_node_modules/d.ts" = front ++ [last] ∧
      ".ts".toList <:+ last.toList ∧ ¬ ".d.ts".toList <:+ last.toList ∧
        "node_modules" ∉ front := by
  have hplain : Path.normalize "my_node_modules/d.ts" = "my_node_modules/d.ts" := by
    decide +kernel
  have hline : '\n' ∉ "my_node_modules/d.ts".toList := by decide +kernel
  have hread : ReadByDefault "my_node_modules/d.ts" := by decide +kernel
  have hselected : ["a.ts", "b.d.ts", "node_modules/c.ts", "my_node_modules/d.ts", "e.ts\n",
      "f/node_modules/g.ts", "h.d.ts\n"].filter (fun path => ReadByDefault path) =
        ["a.ts", "my_node_modules/d.ts", "e.ts\n"] := by decide +kernel
  refine ⟨?_, hplain, hline, ((selectFiles_default []).2 _ hplain hline).1 hread⟩
  rw [(selectFiles_default _).1, List.filter_map, ← hselected]
  rfl

end ApiDecl.Reading
