import ApiDecl.Proofs.Paths
import Mathlib.Data.List.DropRight

/-!
# Blanks around texts and texts in pieces

Trimming takes the blanks away at both ends. What it leaves is `Tight`, and a text is what is left
with blanks around it (`exists_trim`). Trimming the two ends goes in either order, and it does not
matter what blanks are put around a text before.

A text with a separator between its pieces holds another text, free of the separator, only within
one piece (`exists_infix_of_intercalate`).
-/

namespace ApiDecl.Text

/-! ## Blanks at the ends -/

/-- All characters are blank. -/
def Blank (cs : List Char) : Prop := ∀ c ∈ cs, isBlank c

instance (cs : List Char) : Decidable (Blank cs) :=
  decidable_of_iff (cs.all isBlank) List.all_eq_true

/-- No blank stands at either end. -/
def Tight (cs : List Char) : Prop :=
  (∀ c ∈ cs.head?, ¬ isBlank c) ∧ ∀ c ∈ cs.getLast?, ¬ isBlank c

instance (cs : List Char) : Decidable (Tight cs) :=
  decidable_of_iff (cs.head?.all (!isBlank ·) ∧ cs.getLast?.all (!isBlank ·))
    (by simp [Tight, Option.all_eq_true])

theorem trimEnd_eq (cs : List Char) : trimEnd cs = cs.rdropWhile isBlank := rfl

theorem trimStart_blank_append {lead : List Char} (h : Blank lead) (cs : List Char) :
    trimStart (lead ++ cs) = trimStart cs :=
  List.dropWhile_append_of_pos h

theorem trimEnd_append (xs ys : List Char) :
    trimEnd (xs ++ ys) = if trimEnd ys = [] then trimEnd xs else xs ++ trimEnd ys := by
  rw [trimEnd, List.reverse_append, List.dropWhile_append]
  by_cases h : ys.reverse.dropWhile isBlank = []
  · simp [trimEnd, h]
  · simp [trimEnd, h]

theorem trimEnd_append_blank {trail : List Char} (h : Blank trail) (cs : List Char) :
    trimEnd (cs ++ trail) = trimEnd cs := by
  have hnil : trimEnd trail = [] := List.rdropWhile_eq_nil_iff.mpr h
  rw [trimEnd_append, if_pos hnil]

theorem trimStart_eq_self_iff {cs : List Char} :
    trimStart cs = cs ↔ ∀ c ∈ cs.head?, ¬ isBlank c := by
  cases cs with
  | nil => simp [trimStart]
  | cons c cs => simp [trimStart, List.dropWhile_eq_self_iff]

theorem trimEnd_eq_self_iff {cs : List Char} :
    trimEnd cs = cs ↔ ∀ c ∈ cs.getLast?, ¬ isBlank c := by
  rw [trimEnd_eq, List.rdropWhile_eq_self_iff]
  constructor
  · intro h c hc
    obtain ⟨hne, rfl⟩ := List.mem_getLast?_eq_getLast hc
    exact h hne
  · intro h hne
    exact h _ (List.getLast_mem_getLast? hne)

theorem tight_iff {cs : List Char} : Tight cs ↔ trimStart cs = cs ∧ trimEnd cs = cs := by
  rw [Tight, trimStart_eq_self_iff, trimEnd_eq_self_iff]

theorem trimEnd_append_of_eq {xs : List Char} (h : trimEnd xs = xs) (ys : List Char) :
    trimEnd (xs ++ ys) = xs ++ trimEnd ys := by
  rw [trimEnd_append]
  split
  · next hnil => rw [h, hnil, List.append_nil]
  · rfl

/-- The two ends can be trimmed in either order. -/
theorem trimStart_trimEnd (cs : List Char) : trimStart (trimEnd cs) = trim cs := by
  induction cs with
  | nil => rfl
  | cons c cs ih =>
    by_cases hc : isBlank c
    · have hblank : Blank [c] := by simpa [Blank] using hc
      rw [trim, ← List.singleton_append, trimStart_blank_append hblank, ← trim, ← ih,
        trimEnd_append]
      split
      · next hnil => rw [hnil, show trimEnd [c] = [] from List.rdropWhile_eq_nil_iff.mpr hblank]
      · rw [trimStart_blank_append hblank]
    · have hstart : ∀ rest, trimStart (c :: rest) = c :: rest := fun rest =>
        trimStart_eq_self_iff.mpr (by simpa using hc)
      have hend : trimEnd (c :: cs) = c :: trimEnd cs :=
        trimEnd_append_of_eq (trimEnd_eq_self_iff.mpr (by simpa using hc) : trimEnd [c] = [c]) cs
      rw [trim, hend, hstart, hstart, hend]

theorem trimStart_trimStart (cs : List Char) : trimStart (trimStart cs) = trimStart cs :=
  List.dropWhile_idempotent ..

theorem trimEnd_trim (cs : List Char) : trimEnd (trim cs) = trim cs :=
  List.rdropWhile_idempotent ..

theorem trimStart_trim (cs : List Char) : trimStart (trim cs) = trim cs := by
  rw [← trimStart_trimEnd, trimStart_trimStart]

theorem tight_trim (cs : List Char) : Tight (trim cs) :=
  tight_iff.mpr ⟨trimStart_trim cs, trimEnd_trim cs⟩

theorem trim_of_tight {cs : List Char} (h : Tight cs) : trim cs = cs := by
  obtain ⟨hstart, hend⟩ := tight_iff.mp h
  rw [trim, hstart, hend]

@[simp] theorem trim_trim (cs : List Char) : trim (trim cs) = trim cs :=
  trim_of_tight (tight_trim cs)

theorem trim_trimEnd (cs : List Char) : trim (trimEnd cs) = trim cs := by
  rw [trim, trimStart_trimEnd, trimEnd_trim]

theorem trim_blank_append {lead : List Char} (h : Blank lead) (cs : List Char) :
    trim (lead ++ cs) = trim cs := by
  rw [trim, trimStart_blank_append h, trim]

theorem trim_append_blank {trail : List Char} (h : Blank trail) (cs : List Char) :
    trim (cs ++ trail) = trim cs := by
  rw [← trimStart_trimEnd, trimEnd_append_blank h, trimStart_trimEnd]

theorem exists_trimStart (cs : List Char) : ∃ lead, Blank lead ∧ cs = lead ++ trimStart cs :=
  ⟨cs.takeWhile isBlank, fun _ hc => List.mem_takeWhile_imp hc,
    List.takeWhile_append_dropWhile.symm⟩

/-- Trimming splits a text into blanks, what is left, and blanks. -/
theorem exists_trim (cs : List Char) :
    ∃ lead trail, Blank lead ∧ Blank trail ∧ cs = lead ++ trim cs ++ trail := by
  obtain ⟨lead, hlead, hcs⟩ := exists_trimStart cs
  have htrail : Blank ((trimStart cs).rtakeWhile isBlank) := fun _ hc => List.mem_rtakeWhile_imp hc
  refine ⟨lead, _, hlead, htrail, ?_⟩
  rw [List.append_assoc, trim, trimEnd_eq, List.rdropWhile_append_rtakeWhile]
  exact hcs

theorem trim_eq_nil_iff {cs : List Char} : trim cs = [] ↔ Blank cs := by
  constructor
  · intro h
    obtain ⟨lead, trail, hlead, htrail, hcs⟩ := exists_trim cs
    rw [hcs, h, List.append_nil]
    exact List.forall_mem_append.mpr ⟨hlead, htrail⟩
  · intro h
    have hnil := trim_blank_append h []
    rwa [List.append_nil] at hnil

theorem isEmpty_trimmed (s : String) : (trimmed s).isEmpty = s.toList.all isBlank := by
  rw [Bool.eq_iff_iff, String.isEmpty_iff, trimmed, List.all_eq_true, ← Blank, ← trim_eq_nil_iff]
  constructor
  · intro h
    simpa using congrArg String.toList h
  · intro h
    simp [h]

/-! ## Pieces of a joined text -/

theorem infix_intercalate {sep : List Char} {piece : List Char} {pieces : List (List Char)}
    (h : piece ∈ pieces) : piece <:+: sep.intercalate pieces := by
  induction pieces with
  | nil => cases h
  | cons first pieces ih =>
    cases pieces with
    | nil =>
      obtain rfl := List.mem_singleton.mp h
      simp
    | cons next pieces =>
      rw [List.intercalate_cons_cons]
      rcases List.mem_cons.mp h with rfl | h
      · exact ((List.prefix_append piece sep).trans (List.prefix_append _ _)).isInfix
      · exact (ih h).trans (List.suffix_append _ _).isInfix

/-- A text without a separator in it lies on one side of every separator. -/
theorem infix_append_cons {part xs ys : List Char} {sep : Char} (hsep : sep ∉ part)
    (h : part <:+: xs ++ sep :: ys) : part <:+: xs ∨ part <:+: ys := by
  obtain ⟨before, after, h⟩ := h
  rcases List.append_eq_append_iff.mp h with ⟨mid, hxs, -⟩ | ⟨mid, hmid, hafter⟩
  · exact .inl ⟨before, mid, hxs.symm⟩
  · cases mid with
    | nil => exact .inl ⟨before, [], by simpa using hmid⟩
    | cons c mid =>
      obtain ⟨rfl, rfl⟩ := List.cons.inj hafter
      -- The separator is not in the part, so the part starts after it.
      rcases List.append_eq_append_iff.mp hmid with ⟨front, -, hpart⟩ | ⟨front, -, hpart⟩
      · exact absurd (hpart ▸ List.mem_append_right _ List.mem_cons_self) hsep
      · cases front with
        | nil =>
          rw [List.nil_append] at hpart
          exact absurd (hpart ▸ List.mem_cons_self) hsep
        | cons d front =>
          obtain ⟨-, rfl⟩ := List.cons.inj hpart
          exact .inr (List.infix_append front part after)

theorem exists_infix_of_intercalate {part : List Char} {sep : Char} {pieces : List (List Char)}
    (hpart : part ≠ []) (hsep : sep ∉ part) (h : part <:+: [sep].intercalate pieces) :
    ∃ piece ∈ pieces, part <:+: piece := by
  induction pieces with
  | nil => exact absurd (List.eq_nil_of_infix_nil h) hpart
  | cons first pieces ih =>
    cases pieces with
    | nil =>
      rw [List.intercalate_singleton] at h
      exact ⟨first, List.mem_cons_self, h⟩
    | cons next pieces =>
      rw [List.intercalate_cons_cons, List.append_assoc] at h
      rcases infix_append_cons hsep h with h | h
      · exact ⟨first, List.mem_cons_self, h⟩
      · obtain ⟨piece, hpiece, h⟩ := ih h
        exact ⟨piece, List.mem_cons_of_mem _ hpiece, h⟩

end ApiDecl.Text
