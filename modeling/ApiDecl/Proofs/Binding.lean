import ApiDecl.Proofs.Outcomes
import ApiDecl.Symbol.Binding
import Mathlib.Data.List.Nodup

/-!
# What binding does to a table

Binding goes through the sites of a tree one by one and may stop early. Which symbols it enters, and
whether it stops, depends on the sites and the source only, not on the table (`bindings`,
`outcome_bindSites_congr`). What the table then holds is said by the laws of `bindAll`.

* `SymbolTable.find?_bindAll_of_ne` (no assumption): other keys keep their symbols.
* `SymbolTable.find?_bindAll_congr` (no assumption): the symbol of a key does not depend on what
  the table holds under other keys.
* `SymbolTable.find?_bindAll_of_nodup`, `SymbolTable.size_bindAll`: with keys that are all new and
  different, every symbol stays and every one counts.
-/

namespace ApiDecl

open Syntax (Node)
open Journal (Traced)

/-! ## Tables -/

namespace SymbolTable

theorem find?_bind (t : SymbolTable) (n : Node) (symbol : Symbol) (key : NodeKey) :
    (t.bind n symbol).find? key = if key = .ofNode n then some symbol else t.find? key :=
  Keyed.lookup_set _ _ _ _

theorem size_bind {t : SymbolTable} {n : Node} (h : t.symbolAt n = none) (symbol : Symbol) :
    (t.bind n symbol).size = t.size + 1 := by
  simp [bind, size, Keyed.set_of_lookup_eq_none h]

/-- Bind nodes to symbols one after the other. -/
def bindAll (t : SymbolTable) (bs : List (Node × Symbol)) : SymbolTable :=
  bs.foldl (fun t b => t.bind b.1 b.2) t

@[simp] theorem bindAll_nil (t : SymbolTable) : t.bindAll [] = t := rfl

@[simp] theorem bindAll_cons (t : SymbolTable) (b : Node × Symbol) (bs : List (Node × Symbol)) :
    t.bindAll (b :: bs) = (t.bind b.1 b.2).bindAll bs := rfl

theorem find?_bindAll_of_ne {t : SymbolTable} {bs : List (Node × Symbol)} {key : NodeKey}
    (h : ∀ b ∈ bs, key ≠ .ofNode b.1) : (t.bindAll bs).find? key = t.find? key := by
  induction bs generalizing t with
  | nil => rfl
  | cons b bs ih =>
    rw [bindAll_cons, ih (fun b' hb' => h b' (List.mem_cons_of_mem _ hb')), find?_bind,
      if_neg (h b List.mem_cons_self)]

theorem find?_bindAll_congr {t u : SymbolTable} (bs : List (Node × Symbol)) {key : NodeKey}
    (h : t.find? key = u.find? key) : (t.bindAll bs).find? key = (u.bindAll bs).find? key := by
  induction bs generalizing t u with
  | nil => exact h
  | cons b bs ih =>
    refine ih ?_
    rw [find?_bind, find?_bind, h]

/-- A symbol is never lost, only replaced. -/
theorem isSome_find?_bindAll {t : SymbolTable} (bs : List (Node × Symbol)) {key : NodeKey}
    (h : (t.find? key).isSome) : ((t.bindAll bs).find? key).isSome := by
  induction bs generalizing t with
  | nil => exact h
  | cons b bs ih =>
    refine ih ?_
    rw [find?_bind]
    split
    · rfl
    · exact h

theorem isSome_find?_bindAll_of_mem {t : SymbolTable} {bs : List (Node × Symbol)}
    {b : Node × Symbol} (h : b ∈ bs) : ((t.bindAll bs).find? (.ofNode b.1)).isSome := by
  obtain ⟨before, after, rfl⟩ := List.append_of_mem h
  rw [bindAll, List.foldl_append, List.foldl_cons]
  exact isSome_find?_bindAll after (by simp [find?_bind])

/-- A symbol that is found was there before or is one of those bound. -/
theorem find?_bindAll_cases {t : SymbolTable} {bs : List (Node × Symbol)} {key : NodeKey}
    {symbol : Symbol} (h : (t.bindAll bs).find? key = some symbol) :
    t.find? key = some symbol ∨ ∃ b ∈ bs, key = .ofNode b.1 ∧ b.2 = symbol := by
  induction bs generalizing t with
  | nil => exact Or.inl h
  | cons b bs ih =>
    rcases ih h with hfound | ⟨b', hb', hsymbol⟩
    · rw [find?_bind] at hfound
      split at hfound
      · next hkey => exact Or.inr ⟨b, List.mem_cons_self, hkey, Option.some.inj hfound⟩
      · exact Or.inl hfound
    · exact Or.inr ⟨b', List.mem_cons_of_mem _ hb', hsymbol⟩

theorem find?_bindAll_of_nodup {t : SymbolTable} {bs : List (Node × Symbol)}
    (hbs : (bs.map fun b => NodeKey.ofNode b.1).Nodup) {b : Node × Symbol} (h : b ∈ bs) :
    (t.bindAll bs).find? (.ofNode b.1) = some b.2 := by
  induction bs generalizing t with
  | nil => simp at h
  | cons b' bs ih =>
    obtain ⟨hnot, hbs⟩ := List.nodup_cons.mp hbs
    rcases List.mem_cons.mp h with rfl | h
    · rw [bindAll_cons, find?_bindAll_of_ne, find?_bind, if_pos rfl]
      intro b' hb' he
      exact hnot (List.mem_map.mpr ⟨b', hb', he.symm⟩)
    · exact ih hbs h

/-- Symbols of new and different keys all count. -/
theorem size_bindAll {t : SymbolTable} {bs : List (Node × Symbol)}
    (hbs : (bs.map fun b => NodeKey.ofNode b.1).Nodup) (hnew : ∀ b ∈ bs, t.symbolAt b.1 = none) :
    (t.bindAll bs).size = t.size + bs.length := by
  induction bs generalizing t with
  | nil => rfl
  | cons b bs ih =>
    obtain ⟨hnot, hbs⟩ := List.nodup_cons.mp hbs
    have hnew' : ∀ b' ∈ bs, (t.bind b.1 b.2).symbolAt b'.1 = none := by
      intro b' hb'
      have hne : NodeKey.ofNode b'.1 ≠ .ofNode b.1 := fun he =>
        hnot (List.mem_map.mpr ⟨b', hb', he⟩)
      rw [symbolAt, find?_bind, if_neg hne]
      exact hnew b' (List.mem_cons_of_mem _ hb')
    rw [bindAll_cons, ih hbs hnew', size_bind (hnew b List.mem_cons_self), List.length_cons]
    omega

end SymbolTable

namespace Binding

/-! ## Symbols of sites -/

/-- The symbols of the sites with their nodes, up to the first site that fails. -/
def bindings (source : List UInt8) : List Site → List (Node × Symbol)
  | [] => []
  | s :: rest =>
    match (declare source s).outcome with
    | .error _ => []
    | .ok none => bindings source rest
    | .ok (some b) => b :: bindings source rest

/-- Whatever the outcome, the table has received the symbols of the sites up to the first that
fails. -/
theorem bindSites_table (source : List UInt8) (t : SymbolTable) (ss : List Site) :
    (bindSites source t ss).1 = t.bindAll (bindings source ss) := by
  induction ss generalizing t with
  | nil => rfl
  | cons s rest ih =>
    cases h : (declare source s).outcome with
    | error e => simp [bindSites, bindings, h]
    | ok b =>
      cases b with
      | none => simp [bindSites, bindings, h, ih]
      | some b => simp [bindSites, bindings, h, ih]

/-- Whether binding succeeds, and its count, do not depend on the table. -/
theorem outcome_bindSites_congr (source : List UInt8) (t u : SymbolTable) (ss : List Site) :
    (bindSites source t ss).2.outcome = (bindSites source u ss).2.outcome := by
  induction ss generalizing t u with
  | nil => rfl
  | cons s rest ih =>
    cases h : (declare source s).outcome with
    | error e => simp [bindSites, h]
    | ok b =>
      cases b with
      | none => simpa [bindSites, h] using ih t u
      | some b =>
        simp only [bindSites, h]
        rw [ih (t.bind b.1 b.2) (u.bind b.1 b.2)]

/-- A binding that succeeds has declared every site and counts the symbols. -/
theorem bindSites_ok {source : List UInt8} {t : SymbolTable} {ss : List Site} {count : Nat}
    (h : (bindSites source t ss).2.outcome = .ok count) :
    (∀ s ∈ ss, ∃ b, (declare source s).outcome = .ok b) ∧
      count = (bindings source ss).length := by
  induction ss generalizing t count with
  | nil =>
    obtain rfl : 0 = count := Except.ok.inj h
    simp [bindings]
  | cons s rest ih =>
    cases hs : (declare source s).outcome with
    | error e => simp [bindSites, hs] at h
    | ok b =>
      cases b with
      | none =>
        simp only [bindSites, hs] at h
        obtain ⟨hall, hcount⟩ := ih h
        refine ⟨?_, by simpa [bindings, hs] using hcount⟩
        simpa [hs] using hall
      | some b =>
        simp only [bindSites, hs] at h
        cases hr : (bindSites source (t.bind b.1 b.2) rest).2.outcome with
        | error e => simp [hr, Except.map] at h
        | ok n =>
          obtain ⟨hall, hcount⟩ := ih hr
          obtain rfl : n + 1 = count := by simpa [hr, Except.map] using h
          refine ⟨?_, by simp [bindings, hs, hcount]⟩
          simpa [hs] using hall

/-- When no site fails, binding succeeds. -/
theorem isOk_bindSites {source : List UInt8} (t : SymbolTable) {ss : List Site}
    (h : ∀ s ∈ ss, ∃ b, (declare source s).outcome = .ok b) :
    ∃ count, (bindSites source t ss).2.outcome = .ok count := by
  induction ss generalizing t with
  | nil => exact ⟨0, rfl⟩
  | cons s rest ih =>
    obtain ⟨b, hb⟩ := h s List.mem_cons_self
    have hrest := fun t => ih t fun s hs => h s (List.mem_cons_of_mem _ hs)
    cases b with
    | none =>
      obtain ⟨count, hcount⟩ := hrest t
      exact ⟨count, by simp [bindSites, hb, hcount]⟩
    | some b =>
      obtain ⟨count, hcount⟩ := hrest (t.bind b.1 b.2)
      exact ⟨count + 1, by simp [bindSites, hb, hcount, Except.map]⟩

/-- Every entered symbol is that of a site. -/
theorem exists_site_of_mem_bindings {source : List UInt8} {ss : List Site} {b : Node × Symbol}
    (h : b ∈ bindings source ss) : ∃ s ∈ ss, (declare source s).outcome = .ok (some b) := by
  induction ss with
  | nil => simp [bindings] at h
  | cons s rest ih =>
    cases hs : (declare source s).outcome with
    | error e => simp [bindings, hs] at h
    | ok b' =>
      cases b' with
      | none =>
        obtain ⟨s', hs', hb⟩ := ih (by simpa [bindings, hs] using h)
        exact ⟨s', List.mem_cons_of_mem _ hs', hb⟩
      | some b' =>
        rcases (by simpa [bindings, hs] using h : b = b' ∨ b ∈ bindings source rest) with rfl | h
        · exact ⟨s, List.mem_cons_self, hs⟩
        · obtain ⟨s', hs', hb⟩ := ih h
          exact ⟨s', List.mem_cons_of_mem _ hs', hb⟩

/-- When no site fails, the symbol of every site that has one is entered. -/
theorem mem_bindings {source : List UInt8} {ss : List Site} {s : Site} {b : Node × Symbol}
    (hall : ∀ s ∈ ss, ∃ b, (declare source s).outcome = .ok b) (hs : s ∈ ss)
    (hb : (declare source s).outcome = .ok (some b)) : b ∈ bindings source ss := by
  induction ss with
  | nil => simp at hs
  | cons s' rest ih =>
    obtain ⟨b', hb'⟩ := hall s' List.mem_cons_self
    have hrest := fun hs => ih (fun s h => hall s (List.mem_cons_of_mem _ h)) hs
    rcases List.mem_cons.mp hs with rfl | hs
    · simp [bindings, hb]
    · cases b' with
      | none => simpa [bindings, hb'] using hrest hs
      | some b' => simpa [bindings, hb'] using Or.inr (hrest hs)

/-- What a site declares: nothing without a name or with an empty one, and otherwise the spelled
name with the documentation of the owner. -/
theorem outcome_declare (source : List UInt8) (s : Site) :
    (declare source s).outcome =
      match s.name with
      | none => .ok none
      | some n => do
        let name ← declaredName n
        if name = "" then return none
        else
          let documentation ← Documentation.preceding source s.owner
          return some (n, ⟨name, documentation⟩) := by
  unfold declare
  cases s.name with
  | none => rfl
  | some n =>
    simp only [Traced.outcome_bind, Traced.outcome_ofExcept]
    congr 1
    funext name
    simp only [← String.isEmpty_iff]
    split
    · rfl
    · simp only [Traced.outcome_bind, Traced.outcome_ofExcept, Traced.outcome_pure,
        Outcome.pure_eq_ok]

theorem declare_eq_some_iff {source : List UInt8} {s : Site} {n : Node} {symbol : Symbol} :
    (declare source s).outcome = .ok (some (n, symbol)) ↔
      s.name = some n ∧ declaredName n = .ok symbol.name ∧ symbol.name ≠ "" ∧
        Documentation.preceding source s.owner = .ok symbol.documentation := by
  rw [outcome_declare]
  constructor
  · intro h
    split at h
    · simp at h
    · next m hm =>
      obtain ⟨name, hname, h⟩ := Outcome.bind_eq_ok_iff.mp h
      split at h
      · cases h
      · next hne =>
        obtain ⟨documentation, hdoc, h⟩ := Outcome.bind_eq_ok_iff.mp h
        cases h
        exact ⟨hm, hname, hne, hdoc⟩
  · rintro ⟨hn, hname, hne, hdoc⟩
    rw [hn]
    simp [hname, hne, hdoc, Outcome.pure_eq_ok]

/-- The node spells a name that is not empty. -/
def Spells (n : Node) : Prop := ∃ name, declaredName n = .ok name ∧ name ≠ ""

instance (n : Node) : Decidable (Spells n) :=
  match h : declaredName n with
  | .ok name => decidable_of_iff (name ≠ "") (by simp [Spells, h])
  | .error _ => isFalse (by simp [Spells, h])

/-- A site that does not fail declares a symbol for a name that is not empty. -/
theorem exists_symbol_of_spells {source : List UInt8} {s : Site} {n : Node}
    (hs : ∃ b, (declare source s).outcome = .ok b) (hn : s.name = some n) (hspells : Spells n) :
    ∃ symbol, (declare source s).outcome = .ok (some (n, symbol)) := by
  obtain ⟨b, hb⟩ := hs
  obtain ⟨name, hname, hne⟩ := hspells
  have h := hb
  rw [outcome_declare, hn] at h
  simp only [hname, Outcome.ok_bind, hne, if_false] at h
  obtain ⟨documentation, -, h⟩ := Outcome.bind_eq_ok_iff.mp h
  cases h
  exact ⟨_, hb⟩

end Binding

end ApiDecl
