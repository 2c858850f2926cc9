import ApiDecl.Proofs.Sites

/-!
# Binding a tree again

A table may have lost symbols of a tree, or have other ones in their place. Binding the tree restores
them, and binding it once more changes nothing.

* `SymbolTable.bindAll_bindAll` (no assumption, keys may repeat): symbols that are bound a second time
  leave the table as it is. The argument goes through the list from its end: a symbol whose key comes
  again later leaves no trace (`SymbolTable.bindAll_bind_of_mem`), and any other one is still there.
* `SymbolTable.find?_bindAll_comm`: two lists without a common key can be bound in either order.
* `symbolAt_bindFile`: every site of a tree gets its symbol, whatever the table held for it.
* `bindFile_again`: these together, for the binding of trees.
-/

namespace ApiDecl

open Syntax (Node Place)

/-! ## Tables -/

namespace SymbolTable

theorem bind_of_symbolAt {t : SymbolTable} {n : Node} {symbol : Symbol}
    (h : t.symbolAt n = some symbol) : t.bind n symbol = t := by
  rw [bind, Keyed.set_of_lookup_eq_some h]

/-- A symbol whose key comes again later may as well not be bound, if its key is there already. -/
theorem bindAll_bind_of_mem {t : SymbolTable} {n : Node} {symbol : Symbol}
    {bs : List (Node × Symbol)} (hfound : (t.symbolAt n).isSome)
    (h : ∃ b ∈ bs, NodeKey.ofNode b.1 = .ofNode n) :
    (t.bind n symbol).bindAll bs = t.bindAll bs := by
  induction bs generalizing t with
  | nil => simp at h
  | cons b bs ih =>
    rw [bindAll_cons, bindAll_cons]
    by_cases hb : NodeKey.ofNode b.1 = .ofNode n
    · have hlast : (t.bind n symbol).bind b.1 b.2 = t.bind b.1 b.2 := by
        simp [bind, hb, Keyed.set_set]
      rw [hlast]
    · have hrest : ∃ b ∈ bs, NodeKey.ofNode b.1 = .ofNode n := by simpa [hb] using h
      -- The key keeps its place in the table, so the two can change places.
      have hswap : (t.bind n symbol).bind b.1 b.2 = (t.bind b.1 b.2).bind n symbol := by
        simp only [bind]
        rw [Keyed.set_comm (Ne.symm hb) hfound]
      have hfound' : ((t.bind b.1 b.2).symbolAt n).isSome := isSome_find?_bindAll [b] hfound
      rw [hswap, ih hfound' hrest]

/-- Binding the same symbols once more changes nothing, not even the order of the entries. -/
theorem bindAll_bindAll (t : SymbolTable) (bs : List (Node × Symbol)) :
    (t.bindAll bs).bindAll bs = t.bindAll bs := by
  induction bs generalizing t with
  | nil => rfl
  | cons b bs ih =>
    have hrest := ih (t.bind b.1 b.2)
    rw [bindAll_cons, bindAll_cons]
    by_cases h : ∃ c ∈ bs, NodeKey.ofNode c.1 = .ofNode b.1
    · have hfound : (((t.bind b.1 b.2).bindAll bs).symbolAt b.1).isSome :=
        isSome_find?_bindAll bs (by simp [find?_bind])
      rw [bindAll_bind_of_mem hfound h, hrest]
    · have hfound : ((t.bind b.1 b.2).bindAll bs).symbolAt b.1 = some b.2 := by
        rw [symbolAt, find?_bindAll_of_ne fun c hc he => h ⟨c, hc, he.symm⟩, find?_bind, if_pos rfl]
      rw [bind_of_symbolAt hfound, hrest]

/-- Symbols of different keys can be bound in either order. -/
theorem find?_bindAll_comm (t : SymbolTable) {bs cs : List (Node × Symbol)}
    (h : ∀ b ∈ bs, ∀ c ∈ cs, NodeKey.ofNode b.1 ≠ .ofNode c.1) (key : NodeKey) :
    ((t.bindAll bs).bindAll cs).find? key = ((t.bindAll cs).bindAll bs).find? key := by
  by_cases hkey : ∃ b ∈ bs, key = .ofNode b.1
  · obtain ⟨b, hb, rfl⟩ := hkey
    rw [find?_bindAll_of_ne (h b hb)]
    exact find?_bindAll_congr bs (find?_bindAll_of_ne (h b hb)).symm
  · have hbs : ∀ b ∈ bs, key ≠ .ofNode b.1 := fun b hb he => hkey ⟨b, hb, he⟩
    rw [find?_bindAll_of_ne hbs]
    exact find?_bindAll_congr cs (find?_bindAll_of_ne hbs)

end SymbolTable

/-! ## Trees -/

namespace Binding

open Syntax (userSource userTree levelSource levelTree)

theorem bindFile_table (t : SymbolTable) (root : Node) (source : List UInt8) :
    (bindFile t root source).1 = t.bindAll (bindings source (sites root)) :=
  bindSites_table source t (sites root)

/-- A site with a name that is not empty gets its symbol, whatever the table held for it. -/
theorem symbolAt_bindFile {t : SymbolTable} {root : Node} {source : List UInt8} {count : Nat}
    (hids : root.DistinctIds) (hok : (bindFile t root source).2.outcome = .ok count)
    {owner : Place} {n : Node} {name : String} (hsite : BindingSite root owner n)
    (hname : declaredName n = .ok name) (hne : name ≠ "") :
    ∃ documentation, Documentation.preceding source owner = .ok documentation ∧
      (bindFile t root source).1.symbolAt n = some ⟨name, documentation⟩ := by
  have hall := (bindSites_ok hok).1
  have hs := mem_sites_iff.mpr hsite
  obtain ⟨symbol, hd⟩ := exists_symbol_of_spells (hall _ hs) rfl ⟨name, hname, hne⟩
  obtain ⟨-, hname', -, hdoc⟩ := declare_eq_some_iff.mp hd
  obtain rfl : name = symbol.name := by simpa [hname] using hname'
  refine ⟨symbol.documentation, hdoc, ?_⟩
  rw [bindFile_table, SymbolTable.symbolAt]
  exact SymbolTable.find?_bindAll_of_nodup (keys_bindings_nodup (keys_differ hids))
    (mem_bindings hall hs hd)

/-- Only the keys of sites with a name that is not empty can get another symbol. -/
theorem find?_bindFile_of_not_site (t : SymbolTable) (root : Node) (source : List UInt8)
    {key : NodeKey} (h : ∀ owner n, BindingSite root owner n → Spells n → key ≠ .ofNode n) :
    (bindFile t root source).1.find? key = t.find? key := by
  rw [bindFile_table]
  refine SymbolTable.find?_bindAll_of_ne fun b hb => ?_
  obtain ⟨⟨owner, name⟩, hs, hd⟩ := exists_site_of_mem_bindings hb
  obtain ⟨rfl, hname, hne, -⟩ := declare_eq_some_iff.mp hd
  exact h owner b.1 (mem_sites_iff.mp hs) ⟨_, hname, hne⟩

/-- **Binding again changes nothing.** Over any table, let the binding of a tree succeed. Binding the
tree a second time then gives the same table, in the same order, and the same count. Every site with
a name that is not empty carries the symbol that it declares, also when the table had lost it or had
another one in its place, and no other key has changed. Two trees without a common identity, bound in
either order, give every key the same symbol, also when one of them fails.

Only the symbols of the sites need different nodes of the tree to have different identities. -/
theorem bindFile_again {t : SymbolTable} {root : Node} {source : List UInt8} {count : Nat}
    (hok : (bindFile t root source).2.outcome = .ok count) :
    ((bindFile (bindFile t root source).1 root source).1 = (bindFile t root source).1 ∧
        (bindFile (bindFile t root source).1 root source).2.outcome = .ok count) ∧
      (root.DistinctIds → ∀ owner n name, BindingSite root owner n →
        declaredName n = .ok name → name ≠ "" →
        ∃ documentation, Documentation.preceding source owner = .ok documentation ∧
          (bindFile t root source).1.symbolAt n = some ⟨name, documentation⟩) ∧
      (∀ key, (∀ owner n, BindingSite root owner n → Spells n → key ≠ .ofNode n) →
        (bindFile t root source).1.find? key = t.find? key) ∧
      ∀ other otherSource, (∀ n ∈ root.nodes, ∀ m ∈ other.nodes, n.info.id ≠ m.info.id) →
        ∀ key, (bindFile (bindFile t root source).1 other otherSource).1.find? key =
          (bindFile (bindFile t other otherSource).1 root source).1.find? key := by
  refine ⟨⟨?_, ?_⟩, fun hids owner n name hsite hname hne =>
    symbolAt_bindFile hids hok hsite hname hne,
    fun key h => find?_bindFile_of_not_site t root source h, ?_⟩
  · rw [bindFile_table, bindFile_table, SymbolTable.bindAll_bindAll]
  · rw [← hok]
    exact outcome_bindSites_congr source _ t (sites root)
  · intro other otherSource hdisjoint key
    simp only [bindFile_table]
    refine SymbolTable.find?_bindAll_comm t (fun b hb c hc he => ?_) key
    exact hdisjoint b.1 (node_mem_of_mem_bindings hb) c.1 (node_mem_of_mem_bindings hc)
      (NodeKey.mk.inj he).1

/-- A table that has lost a member of the enum and has another name for the enum itself. -/
def staleTable : SymbolTable :=
  ((bindFile userTable levelTree levelSource).1.unbind "Low").bindAll
    ((levelTree.nodes.filter (·.kind = .other "identifier")).map (·, ⟨"Stale", none⟩))

/-- The enum gets its name back in place, the lost member comes last, and a second binding changes
nothing. Binding the interface before or after makes no difference. -/
theorem bindFile_again_stale :
    staleTable.entries.map (·.2.name) = ["User", "id", "Stale", "High"] ∧
      (bindFile staleTable levelTree levelSource).2.outcome = .ok 3 ∧
      (bindFile staleTable levelTree levelSource).1.entries.map (·.2.name) =
        ["User", "id", "Level", "High", "Low"] ∧
      (bindFile (bindFile staleTable levelTree levelSource).1 levelTree levelSource).1 =
        (bindFile staleTable levelTree levelSource).1 ∧
      ∀ key, (bindFile (bindFile staleTable levelTree levelSource).1 userTree userSource).1.find? key =
        (bindFile (bindFile staleTable userTree userSource).1 levelTree levelSource).1.find? key := by
  have hok : (bindFile staleTable levelTree levelSource).2.outcome = .ok 3 := by decide +kernel
  have hdisjoint : ∀ n ∈ levelTree.nodes, ∀ m ∈ userTree.nodes, n.info.id ≠ m.info.id := by
    decide +kernel
  obtain ⟨⟨htable, -⟩, -, -, hcomm⟩ := bindFile_again hok
  exact ⟨by decide +kernel, hok, by decide +kernel, htable, hcomm userTree userSource hdisjoint⟩

end Binding

end ApiDecl
