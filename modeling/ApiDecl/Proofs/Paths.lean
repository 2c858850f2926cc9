import ApiDecl.Files.Path
import Mathlib.Data.List.Basic

/-!
# The parts of paths

What the text operations on paths do to the names in them. Joining names and taking the parts of the
result gives the names back, since no part holds a slash (`parts_join`). The parts of a path taken
in a directory are those of the directory followed by its own (`parts_append`). So the names of an
absolute path and of a parent are known without the texts in between.
-/

namespace ApiDecl.Text

theorem splitOn_eq (sep : Char) (cs : List Char) : splitOn sep cs = cs.splitOn sep := by
  induction cs with
  | nil => rfl
  | cons c cs ih =>
    obtain ⟨piece, pieces, hpieces⟩ := List.exists_cons_of_ne_nil (List.splitOn_ne_nil sep cs)
    by_cases hc : c = sep <;>
      simp [splitOn, hc, ih, hpieces, List.splitOn_cons_eq_if_modifyHead]

theorem joinWith_eq (sep : List Char) (pieces : List (List Char)) :
    joinWith sep pieces = sep.intercalate pieces := by
  induction pieces with
  | nil => rfl
  | cons piece pieces ih =>
    cases pieces with
    | nil => simp [joinWith]
    | cons next pieces => simp [joinWith, ih]

theorem not_mem_of_mem_splitOn {sep : Char} {cs piece : List Char} (h : piece ∈ splitOn sep cs) :
    sep ∉ piece := by
  induction cs generalizing piece with
  | nil =>
    rw [List.mem_singleton.1 h]
    exact List.not_mem_nil
  | cons c cs ih =>
    rw [splitOn] at h
    split at h
    · rcases List.mem_cons.1 h with rfl | h
      · exact List.not_mem_nil
      · exact ih h
    · next hc =>
      split at h
      · next hnil => exact absurd hnil (splitOn_eq sep cs ▸ List.splitOn_ne_nil sep cs)
      · next first pieces hpieces =>
        rw [hpieces] at ih
        rcases List.mem_cons.1 h with rfl | h
        · have hfirst := ih List.mem_cons_self
          simp [hfirst, Ne.symm hc]
        · exact ih (List.mem_cons_of_mem _ h)

end ApiDecl.Text

namespace ApiDecl.Path

theorem split_ne_nil (cs : List Char) : split cs ≠ [] := by
  rw [split, Text.splitOn_eq]
  exact List.splitOn_ne_nil _ _

theorem split_append_slash (xs ys : List Char) :
    split (xs ++ '/' :: ys) = split xs ++ split ys := by
  simp only [split, Text.splitOn_eq, List.splitOn_append_cons_self]

theorem split_slash (cs : List Char) : split ('/' :: cs) = [] :: split cs :=
  split_append_slash [] cs

theorem split_of_not_mem {cs : List Char} (h : '/' ∉ cs) : split cs = [cs] := by
  rw [split, Text.splitOn_eq, List.splitOn_eq_singleton h]

theorem split_join {ps : List (List Char)} (hne : ps ≠ []) (h : ∀ part ∈ ps, '/' ∉ part) :
    split (join ps) = ps := by
  rw [join, split, Text.joinWith_eq, Text.splitOn_eq, List.splitOn_intercalate '/' h hne]

theorem join_split (cs : List Char) : join (split cs) = cs := by
  rw [join, split, Text.joinWith_eq, Text.splitOn_eq, List.intercalate_splitOn]

theorem join_append {xs ys : List (List Char)} (hxs : xs ≠ []) (hys : ys ≠ []) :
    join (xs ++ ys) = join xs ++ '/' :: join ys := by
  simp only [join, Text.joinWith_eq]
  induction xs with
  | nil => exact absurd rfl hxs
  | cons x xs ih =>
    cases xs with
    | nil => simp [List.intercalate_cons_of_ne_nil hys]
    | cons x' xs =>
      have hrest := ih (List.cons_ne_nil _ _)
      rw [List.cons_append, List.cons_append, List.intercalate_cons_cons, ← List.cons_append,
        hrest, List.intercalate_cons_cons, List.append_assoc (x ++ ['/'])]

/-- A part of a path that names something. -/
def Names (part : List Char) : Prop := part ≠ [] ∧ part ≠ ['.'] ∧ '/' ∉ part

theorem mem_parts_iff {cs part : List Char} :
    part ∈ parts cs ↔ part ∈ split cs ∧ part ≠ [] ∧ part ≠ ['.'] := by
  simp [parts]

theorem names_of_mem_parts {cs part : List Char} (h : part ∈ parts cs) : Names part := by
  obtain ⟨hsplit, hne, hdot⟩ := mem_parts_iff.1 h
  exact ⟨hne, hdot, Text.not_mem_of_mem_splitOn hsplit⟩

theorem parts_nil : parts [] = [] := rfl

/-- A slash separates parts. -/
theorem parts_append_slash (xs ys : List Char) :
    parts (xs ++ '/' :: ys) = parts xs ++ parts ys := by
  rw [parts, split, Text.splitOn_eq, List.splitOn_append_cons_self, List.filter_append, parts,
    parts, split, split, Text.splitOn_eq, Text.splitOn_eq]

theorem parts_slash (cs : List Char) : parts ('/' :: cs) = parts cs :=
  parts_append_slash [] cs

theorem parts_join {ps : List (List Char)} (h : ∀ part ∈ ps, Names part) :
    parts (join ps) = ps := by
  by_cases hps : ps = []
  · subst hps
    rfl
  · have hslash : ∀ part ∈ ps, '/' ∉ part := fun part hpart => (h part hpart).2.2
    rw [parts, split, join, Text.joinWith_eq, Text.splitOn_eq,
      List.splitOn_intercalate '/' hslash hps, List.filter_eq_self]
    intro part hpart
    simp [(h part hpart).1, (h part hpart).2.1]

theorem parts_root_append (cs ds : List Char) : parts (root cs ++ ds) = parts ds := by
  unfold root
  split <;> simp [parts_slash]

/-- The parts of a path after those of the path that it is taken in. -/
theorem parts_append (base path : String) :
    parts (append base path).toList =
      (if path.toList.head? = some '/' then [] else parts base.toList) ++ parts path.toList := by
  unfold append
  split
  · rfl
  · split
    · next hend =>
      rw [Bool.or_eq_true, decide_eq_true_eq] at hend
      rcases hend with hempty | hslash
      · rw [String.isEmpty_iff] at hempty
        simp [hempty, parts_nil]
      · obtain ⟨front, hfront⟩ : ∃ front, base.toList = front ++ ['/'] :=
          ⟨_, (List.dropLast_append_getLast? '/' hslash).symm⟩
        rw [String.toList_append, hfront, List.append_assoc, List.singleton_append,
          parts_append_slash, parts_append_slash, parts_nil, List.append_nil]
    · rw [String.toList_append, String.toList_append, List.append_assoc]
      exact parts_append_slash _ _

theorem mem_foldl_pushPart {ps gone : List (List Char)} {part : List Char}
    (h : part ∈ ps.foldl pushPart gone) : part ∈ gone ∨ part ∈ ps := by
  induction ps generalizing gone with
  | nil => exact Or.inl h
  | cons p ps ih =>
    rcases ih h with hgone | hps
    · unfold pushPart at hgone
      split at hgone
      · exact Or.inl (List.mem_of_mem_drop hgone)
      · rcases List.mem_cons.1 hgone with rfl | hgone
        · exact Or.inr List.mem_cons_self
        · exact Or.inl hgone
    · exact Or.inr (List.mem_cons_of_mem _ hps)

theorem foldl_pushPart_of_not_mem {ps gone : List (List Char)} (h : ['.', '.'] ∉ ps) :
    ps.foldl pushPart gone = ps.reverse ++ gone := by
  induction ps generalizing gone with
  | nil => rfl
  | cons p ps ih =>
    rw [List.mem_cons, not_or] at h
    rw [List.foldl_cons, pushPart, if_neg (Ne.symm h.1), ih h.2]
    simp

theorem names_of_mem_absoluteParts {cs part : List Char} (h : part ∈ absoluteParts cs) :
    Names part := by
  rw [absoluteParts, List.mem_reverse] at h
  rcases mem_foldl_pushPart h with hnil | hparts
  · exact absurd hnil List.not_mem_nil
  · exact names_of_mem_parts hparts

theorem names_absolute (directory path : String) :
    names (absolute directory path) =
      (absoluteParts (append directory path).toList).map String.ofList := by
  rw [names, absolute, String.toList_ofList, parts_root_append,
    parts_join fun _ => names_of_mem_absoluteParts]

theorem names_parent (path : String) : names (parent path) = (names path).dropLast := by
  have hnames : ∀ part ∈ (parts path.toList).dropLast, Names part := by
    intro part hpart
    exact names_of_mem_parts (List.dropLast_subset _ hpart)
  rw [names, parent, String.toList_ofList, parts_root_append, parts_join hnames, names,
    List.map_dropLast]

end ApiDecl.Path
