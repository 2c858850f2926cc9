import ApiDecl.Corpus
import ApiDecl.Proofs.Sites

/-!
# Corpora by additions

A corpus comes about by adding files one after the other, some of which may fail. A file that fails
is not part of the corpus, but what it bound before the failure stays in the table.

* `add_eq`: what one addition does.
* `files_addAll`: the files of the corpus are those whose additions succeeded, in order, and whether
  an addition succeeds depends on the file alone.
* `Complete.addAll`: every binding site of every file of the corpus has a symbol.
* `declares_of_find?`: every symbol is that of a binding site.
-/

namespace ApiDecl.Corpus

open Syntax (Node Place userSource userTree levelSource levelSketch levelTree sizeSource sizeSketch
  namelessSource namelessSketch)
open Text.Utf8 (DecodeError)
open Journal (Traced)
open Binding (bindFile BindingSite Spells)

/-- A file that is to be added. -/
structure Addition where
  path : String
  root : Node
  source : List UInt8

/-- Add files one after the other. An addition that fails does not stop the others. The second
result has the outcome of each addition. -/
def addAll (c : Corpus) : List Addition → Corpus × List (Except DecodeError SourceFile)
  | [] => (c, [])
  | a :: rest =>
    let (c, added) := c.add a.path a.root a.source
    let (c, outcomes) := c.addAll rest
    (c, added.outcome :: outcomes)

/-- The file that an addition makes. -/
def Addition.file (a : Addition) : SourceFile :=
  { path := a.path, root := a.root, source := a.source, parseErrors := Place.countFaults a.root }

/-- Can the names of the file be bound? The table has no part in this. -/
def Addition.binds (a : Addition) : Except DecodeError Nat :=
  (bindFile .empty a.root a.source).2.outcome

/-! ## One addition -/

theorem binds_eq (t : SymbolTable) (a : Addition) :
    (bindFile t a.root a.source).2.outcome = a.binds :=
  Binding.outcome_bindSites_congr _ _ _ _

theorem outcome_noteBinding (path : String) (faults : Nat) (bound : Traced DecodeError Nat) :
    (noteBinding path faults bound).outcome = (fun _ => ()) <$> bound.outcome := by
  have hnoted : ∀ message : Nat → String,
      (bound >>= fun count => Traced.note .debug logger (message count)).outcome =
        (fun _ => ()) <$> bound.outcome := by
    intro message
    rw [Traced.outcome_bind]
    cases bound.outcome <;> rfl
  unfold noteBinding
  rw [Traced.outcome_inFile]
  split
  · rw [Traced.outcome_bind, Traced.outcome_note, Outcome.ok_bind]
    exact hnoted _
  · exact hnoted _

/-- An addition that fails keeps what was bound, but not the file. -/
theorem add_of_error {c : Corpus} {a : Addition} {e : DecodeError} (h : a.binds = .error e) :
    (c.add a.path a.root a.source).1 = { c with table := (bindFile c.table a.root a.source).1 } ∧
      (c.add a.path a.root a.source).2.outcome = .error e := by
  have ho : (noteBinding a.path (Place.countFaults a.root)
      (bindFile c.table a.root a.source).2).outcome = .error e := by
    rw [outcome_noteBinding, binds_eq, h]
    rfl
  simp only [add, ho, and_self]

/-- An addition that succeeds keeps the file and all its symbols. -/
theorem add_of_ok {c : Corpus} {a : Addition} {count : Nat} (h : a.binds = .ok count) :
    (c.add a.path a.root a.source).1 =
        { c with files := c.files ++ [a.file], table := (bindFile c.table a.root a.source).1 } ∧
      (c.add a.path a.root a.source).2.outcome = .ok a.file := by
  have ho : (noteBinding a.path (Place.countFaults a.root)
      (bindFile c.table a.root a.source).2).outcome = .ok () := by
    rw [outcome_noteBinding, binds_eq, h]
    rfl
  simp only [add, ho, Addition.file, and_self]

/-- The file of an addition that succeeds. -/
def Addition.file? (a : Addition) : Option SourceFile :=
  match a.binds with
  | .ok _ => some a.file
  | .error _ => none

/-- What one addition does. -/
theorem add_eq (c : Corpus) (a : Addition) :
    (c.add a.path a.root a.source).1 =
        { c with
          files := c.files ++ a.file?.toList
          table := (bindFile c.table a.root a.source).1 } ∧
      (c.add a.path a.root a.source).2.outcome.toOption = a.file? := by
  unfold Addition.file?
  cases h : a.binds with
  | error e => simp [add_of_error h, Except.toOption]
  | ok count => simp [add_of_ok h, Except.toOption]

/-! ## Additions in a row -/

theorem addAll_cons (c : Corpus) (a : Addition) (rest : List Addition) :
    c.addAll (a :: rest) =
      (((c.add a.path a.root a.source).1.addAll rest).1,
        (c.add a.path a.root a.source).2.outcome ::
          ((c.add a.path a.root a.source).1.addAll rest).2) := rfl

theorem addAll_append (c : Corpus) (as bs : List Addition) :
    (c.addAll (as ++ bs)).1 = ((c.addAll as).1.addAll bs).1 := by
  induction as generalizing c with
  | nil => rfl
  | cons a rest ih => rw [List.cons_append, addAll_cons, addAll_cons, ih]

/-- The files of the additions that succeed, in order. -/
def added (c : Corpus) (as : List Addition) : List SourceFile :=
  (c.addAll as).2.filterMap (·.toOption)

theorem added_eq (c : Corpus) (as : List Addition) : c.added as = as.filterMap Addition.file? := by
  unfold added
  induction as generalizing c with
  | nil => rfl
  | cons a rest ih =>
    rw [addAll_cons, List.filterMap_cons, List.filterMap_cons, (add_eq c a).2, ih]

/-- The corpus holds the files whose additions succeeded, in order. -/
theorem files_addAll (c : Corpus) (as : List Addition) :
    (c.addAll as).1.files = c.files ++ c.added as := by
  rw [added_eq]
  induction as generalizing c with
  | nil => simp [addAll]
  | cons a rest ih =>
    rw [addAll_cons, List.filterMap_cons, ih, (add_eq c a).1]
    cases a.file? <;> simp

/-- The corpus that additions make. -/
def ofAdditions (as : List Addition) : Corpus := (Corpus.empty.addAll as).1

theorem files_ofAdditions (as : List Addition) : (ofAdditions as).files = Corpus.empty.added as :=
  files_addAll _ _

/-- The order of the additions is that of the files, and has no other effect on them. -/
theorem added_perm (c : Corpus) {as bs : List Addition} (h : bs.Perm as) :
    (c.added bs).Perm (c.added as) := by
  rw [added_eq, added_eq]
  exact h.filterMap _

/-- A file whose addition fails does not change which other files are added. -/
theorem added_of_error {c d : Corpus} {before after : List Addition} {a : Addition}
    {e : DecodeError} (h : (d.add a.path a.root a.source).2.outcome = .error e) :
    c.added (before ++ a :: after) = c.added (before ++ after) := by
  have hnone : a.file? = none := by
    rw [← (add_eq d a).2, h]
    rfl
  simp only [added_eq, List.filterMap_append, List.filterMap_cons, hnone]

/-! ## Every site has a symbol -/

/-- Every binding site of every file that spells a name has a symbol. -/
def Complete (c : Corpus) : Prop :=
  ∀ f ∈ c.files, ∀ owner n, BindingSite f.root owner n → Spells n → (c.table.symbolAt n).isSome

/-- An addition keeps a corpus complete, even if it fails: a symbol may be replaced, but is not
lost. -/
theorem Complete.add {c : Corpus} (h : Complete c) (a : Addition) :
    Complete (c.add a.path a.root a.source).1 := by
  have hkeep : ∀ n, (c.table.symbolAt n).isSome →
      ((bindFile c.table a.root a.source).1.symbolAt n).isSome := by
    intro n hn
    rw [bindFile, Binding.bindSites_table]
    exact SymbolTable.isSome_find?_bindAll _ hn
  intro f hf owner n hsite hspells
  cases hb : a.binds with
  | error e =>
    rw [(add_of_error hb).1] at hf ⊢
    exact hkeep n (h f hf owner n hsite hspells)
  | ok count =>
    rw [(add_of_ok hb).1] at hf ⊢
    rcases List.mem_append.mp hf with hf | hf
    · exact hkeep n (h f hf owner n hsite hspells)
    · obtain rfl := List.mem_singleton.mp hf
      exact Binding.isSome_symbolAt_bindFile ((binds_eq c.table a).trans hb) hsite hspells

theorem Complete.addAll {c : Corpus} (h : Complete c) (as : List Addition) :
    Complete (c.addAll as).1 := by
  induction as generalizing c with
  | nil => exact h
  | cons a rest ih => exact ih (h.add a)

theorem complete_ofAdditions (as : List Addition) : Complete (ofAdditions as) :=
  Complete.addAll (by simp [Complete, Corpus.empty]) as

/-! ## Every symbol has a site -/

/-- A key and a symbol belong to a binding site of the file. -/
def Addition.Declares (a : Addition) (key : NodeKey) (symbol : Symbol) : Prop :=
  ∃ owner n, BindingSite a.root owner n ∧ key = .ofNode n ∧
    Binding.declaredName n = .ok symbol.name ∧ symbol.name ≠ "" ∧
    Documentation.preceding a.source owner = .ok symbol.documentation

theorem find?_add_cases {c : Corpus} {a : Addition} {key : NodeKey} {symbol : Symbol}
    (h : (c.add a.path a.root a.source).1.table.find? key = some symbol) :
    c.table.find? key = some symbol ∨ a.Declares key symbol := by
  rw [(add_eq c a).1, bindFile, Binding.bindSites_table] at h
  rcases SymbolTable.find?_bindAll_cases h with h | ⟨⟨n, symbol⟩, hb, rfl, rfl⟩
  · exact Or.inl h
  · obtain ⟨⟨owner, name⟩, hs, hd⟩ := Binding.exists_site_of_mem_bindings hb
    obtain ⟨rfl, hname, hne, hdoc⟩ := Binding.declare_eq_some_iff.mp hd
    exact Or.inr ⟨owner, n, Binding.mem_sites_iff.mp hs, rfl, hname, hne, hdoc⟩

theorem find?_addAll_cases {c : Corpus} {as : List Addition} {key : NodeKey} {symbol : Symbol}
    (h : (c.addAll as).1.table.find? key = some symbol) :
    c.table.find? key = some symbol ∨ ∃ a ∈ as, a.Declares key symbol := by
  induction as generalizing c with
  | nil => exact Or.inl h
  | cons a rest ih =>
    rw [addAll_cons] at h
    rcases ih h with h | ⟨b, hb, hdeclares⟩
    · rcases find?_add_cases h with h | hdeclares
      · exact Or.inl h
      · exact Or.inr ⟨a, List.mem_cons_self, hdeclares⟩
    · exact Or.inr ⟨b, List.mem_cons_of_mem _ hb, hdeclares⟩

/-- Every symbol of a corpus is that of a binding site of a file, even if that file could not be
added. -/
theorem declares_of_find? {as : List Addition} {key : NodeKey} {symbol : Symbol}
    (h : (ofAdditions as).table.find? key = some symbol) : ∃ a ∈ as, a.Declares key symbol := by
  rcases find?_addAll_cases h with h | hdeclares
  · cases h
  · exact hdeclares

/-! ## Small files -/

/-- The interface. -/
def userFile : Addition := ⟨"src/user.ts", userTree, userSource⟩

/-- The enum. -/
def levelFile : Addition := ⟨"src/level.ts", levelTree, levelSource⟩

/-- The enum, with a member that cannot be decoded. The name of the enum is bound before that. -/
def brokenFile : Addition :=
  let source := levelSource.set 22 0xff
  ⟨"src/broken.ts", (levelSketch.place source 26).1, source⟩

/-- The interface with the nested type. -/
def sizeFile : Addition := ⟨"src/size.ts", (sizeSketch.place sizeSource 60).1, sizeSource⟩

/-- The interface without a name. -/
def namelessFile : Addition :=
  ⟨"src/nameless.ts", (namelessSketch.place namelessSource 40).1, namelessSource⟩

end ApiDecl.Corpus
