import ApiDecl.Proofs.Outcomes
import ApiDecl.Proofs.Places
import ApiDecl.Reading.TypeExpr

/-!
# What reading a type looks at

A type is read from a node, its recognized children and, under a map, the operands of its operands.
All of these are nodes of the tree below the node.

* `mem_recognized_iff`: the recognized nodes of a list are those that have a shape.
* `resolve_array`, `resolve_map`, `resolve_map_of_length_ne`: what a wrapper is read to, from what
  its recognized nodes are read to.
* `failsOnly_resolve`: the errors of reading a type are those of the texts below it and wrappers
  with the wrong number of usable nodes.
-/

namespace ApiDecl.Reading

open Syntax (Node Kind)
open Model (TypeExpr)
open Outcome (FailsOnly failsOnly_ok failsOnly_error)

/-! ## Recognized nodes -/

theorem recognized_append (ns ms : List Node) :
    recognized (ns ++ ms) = do
      let found ← recognized ns
      let others ← recognized ms
      return found ++ others := by
  induction ns with
  | nil =>
    cases h : recognized ms with
    | error e => simp [recognized, h]
    | ok others => simp [recognized, h, Outcome.pure_eq_ok]
  | cons n rest ih =>
    rw [List.cons_append, recognized, recognized, ih]
    cases classify n with
    | error e => rfl
    | ok kind =>
      cases recognized rest with
      | error e => rfl
      | ok found => cases kind <;> cases recognized ms <;> rfl

theorem recognized_cons_of_some {n : Node} {k : TypeKind} (h : classify n = .ok (some k))
    (rest : List Node) : recognized (n :: rest) = ((n, k) :: ·) <$> recognized rest := by
  rw [recognized, h]
  cases recognized rest <;> rfl

/-- The recognized nodes of a list are those that have a shape. -/
theorem mem_recognized_iff {ns : List Node} {found : List (Node × TypeKind)}
    (h : recognized ns = .ok found) {c : Node} {k : TypeKind} :
    (c, k) ∈ found ↔ c ∈ ns ∧ classify c = .ok (some k) := by
  induction ns generalizing found with
  | nil =>
    obtain rfl : [] = found := Except.ok.inj h
    simp
  | cons n rest ih =>
    rw [recognized] at h
    obtain ⟨kind, hkind, h⟩ := Outcome.bind_eq_ok_iff.mp h
    obtain ⟨others, hothers, h⟩ := Outcome.bind_eq_ok_iff.mp h
    have hhead : c = n → (classify c = .ok (some k) ↔ kind = some k) := by
      rintro rfl
      simp [hkind]
    cases kind with
    | none =>
      obtain rfl : others = found := Except.ok.inj h
      rw [ih hothers, List.mem_cons]
      constructor
      · rintro ⟨hc, hk⟩
        exact ⟨Or.inr hc, hk⟩
      · rintro ⟨rfl | hc, hk⟩
        · cases (hhead rfl).mp hk
        · exact ⟨hc, hk⟩
    | some shape =>
      obtain rfl : (n, shape) :: others = found := Except.ok.inj h
      rw [List.mem_cons, ih hothers, List.mem_cons, Prod.mk.injEq]
      constructor
      · rintro (⟨rfl, rfl⟩ | ⟨hc, hk⟩)
        · exact ⟨Or.inl rfl, hkind⟩
        · exact ⟨Or.inr hc, hk⟩
      · rintro ⟨rfl | hc, hk⟩
        · exact Or.inl ⟨rfl, (Option.some.inj ((hhead rfl).mp hk)).symm⟩
        · exact Or.inr ⟨hc, hk⟩

theorem classify_of_mem_recognized {ns : List Node} {found : List (Node × TypeKind)}
    (h : recognized ns = .ok found) {c : Node} {k : TypeKind} (hc : (c, k) ∈ found) :
    classify c = .ok (some k) :=
  ((mem_recognized_iff h).mp hc).2

/-! ## Wrappers -/

theorem classify_array {n : Node} (h : n.kind = .arrayType) : classify n = .ok (some .array) := by
  rw [classify, if_pos h]

theorem classify_reference {n : Node} (h : n.kind.isReference) :
    classify n = .ok (some .reference) := by
  have hne : n.kind ≠ .arrayType := by
    intro he
    simp [he, Kind.isReference] at h
  rw [classify, if_neg hne, if_pos h]

theorem classify_keyword {n : Node} (h : n.kind = .predefinedType) :
    classify n = TypeKind.ofKeyword <$> textOf n := by
  simp [classify, h, Kind.isReference]

theorem kind_of_classify {n : Node} {k : TypeKind} (h : classify n = .ok (some k)) :
    (k = .array → n.kind = .arrayType) ∧ (k = .reference → n.kind.isReference) := by
  unfold classify at h
  split at h
  · next harray =>
    obtain rfl : TypeKind.array = k := by simpa using h
    exact ⟨fun _ => harray, nofun⟩
  split at h
  · next href =>
    obtain rfl : TypeKind.reference = k := by simpa using h
    exact ⟨nofun, fun _ => href⟩
  split at h
  · -- The shapes of keywords are primitive.
    obtain ⟨word, -, hword⟩ := Outcome.map_eq_ok_iff.mp h
    unfold TypeKind.ofKeyword at hword
    split at hword <;> cases hword <;> exact ⟨nofun, nofun⟩
  · cases h

/-- A node with a shape is read by its shape; only a node without one is read to no type. -/
theorem resolve_of_classify {n : Node} {k : TypeKind} (h : classify n = .ok (some k)) :
    resolve n = some <$> resolveAs n k := by
  rw [resolve, h, Outcome.ok_bind]

theorem resolve_eq_none_iff {n : Node} : resolve n = .ok none ↔ classify n = .ok none := by
  cases h : classify n with
  | error e => simp [resolve, h]
  | ok kind =>
    cases kind with
    | none => simp [resolve, h, Outcome.pure_eq_ok]
    | some k =>
      rw [resolve_of_classify h, Outcome.map_eq_ok_iff]
      simp

/-- The array of the one node that is recognized. -/
def arrayOf (n : Node) : List (Node × TypeKind) → Except ReadError TypeExpr
  | [(element, k)] => TypeExpr.array <$> resolveAs element k
  | found => .error (.arity "array" 1 found.length (.ofNode n))

/-- The map of the two nodes that are recognized. -/
def mapOf (n : Node) : List (Node × TypeKind) → Except ReadError TypeExpr
  | [(key, kk), (value, vk)] => TypeExpr.map <$> resolveAs key kk <*> resolveAs value vk
  | found => .error (.arity "map" 2 found.length (.ofNode n))

theorem resolveAs_array (n : Node) :
    resolveAs n .array = recognized n.namedChildren >>= arrayOf n := by
  rw [resolveAs]
  split
  · next e he => rw [he, Outcome.error_bind]
  · next element k he => rw [he, Outcome.ok_bind, arrayOf]
  · next found hne he =>
    rw [he, Outcome.ok_bind, arrayOf]
    exact hne

theorem resolveAs_reference (n : Node) :
    resolveAs n .reference = referenceName n >>= fun name =>
      if name = mapName then recognized (mapOperands n) >>= mapOf n
      else TypeExpr.named <$> textOf n := by
  rw [resolveAs]
  split
  · next e he => rw [he, Outcome.error_bind]
  · next name he =>
    rw [he, Outcome.ok_bind]
    split
    · split
      · next e he => rw [he, Outcome.error_bind]
      · next key kk value vk he => rw [he, Outcome.ok_bind, mapOf]
      · next found hne he =>
        rw [he, Outcome.ok_bind, mapOf]
        exact hne
    · rfl

/-- An array is read to an array of what its one recognized child is read to. -/
theorem resolve_array {n c : Node} {k : TypeKind} (hn : n.kind = .arrayType)
    (h : recognized n.namedChildren = .ok [(c, k)]) :
    resolve n = Option.map TypeExpr.array <$> resolve c := by
  have hc := classify_of_mem_recognized h List.mem_cons_self
  rw [resolve_of_classify (classify_array hn), resolve_of_classify hc, resolveAs_array, h,
    Outcome.ok_bind, arrayOf]
  cases resolveAs c k <;> rfl

section Map

variable {n : Node} (hn : n.kind.isReference) (hname : referenceName n = .ok mapName)

include hn hname

theorem resolve_eq_mapOf {found : List (Node × TypeKind)}
    (h : recognized (mapOperands n) = .ok found) : resolve n = some <$> mapOf n found := by
  rw [resolve_of_classify (classify_reference hn), resolveAs_reference, hname, Outcome.ok_bind,
    if_pos rfl, h, Outcome.ok_bind]

/-- A map with two candidates is read to a map of what these are read to, the key first. -/
theorem resolve_map {a b : Node} {ka kb : TypeKind}
    (h : recognized (mapOperands n) = .ok [(a, ka), (b, kb)]) :
    resolve n = do
      let key ← resolve a
      let value ← resolve b
      return TypeExpr.map <$> key <*> value := by
  have ha := classify_of_mem_recognized h List.mem_cons_self
  have hb := classify_of_mem_recognized h (List.mem_cons_of_mem _ List.mem_cons_self)
  rw [resolve_eq_mapOf hn hname h, resolve_of_classify ha, resolve_of_classify hb, mapOf]
  cases resolveAs a ka with
  | error e => rfl
  | ok t => cases resolveAs b kb <;> rfl

/-- A map with any other number of candidates is an error at the map. -/
theorem resolve_map_of_length_ne {found : List (Node × TypeKind)}
    (h : recognized (mapOperands n) = .ok found) (hlength : found.length ≠ 2) :
    resolve n = .error (.arity "map" 2 found.length (.ofNode n)) := by
  rw [resolve_eq_mapOf hn hname h, mapOf]
  · rfl
  · rintro key kk value vk rfl
    exact hlength rfl

end Map

/-! ## Nodes below a type -/

theorem mem_nodes_of_mem_namedChildren {n c : Node} (h : c ∈ n.namedChildren) : c ∈ n.nodes :=
  Node.mem_nodes_of_mem_child (Node.self_mem_nodes c) (Node.mem_children_of_mem_namedChildren h)

theorem mem_nodes_of_mem_operands {n a : Node} (h : a ∈ operands n) : a ∈ n.nodes := by
  unfold operands at h
  split at h
  · obtain ⟨c, hc, ha⟩ := List.mem_flatMap.mp h
    exact Node.mem_nodes_trans (mem_nodes_of_mem_namedChildren ha)
      (mem_nodes_of_mem_namedChildren (List.mem_filter.mp hc).1)
  · split at h
    · simp at h
    · exact mem_nodes_of_mem_namedChildren h

theorem mem_nodes_of_mem_mapOperands {n a : Node} (h : a ∈ mapOperands n) : a ∈ n.nodes := by
  obtain ⟨b, hb, ha⟩ := List.mem_flatMap.mp h
  rcases List.mem_cons.mp ha with rfl | ha
  · exact mem_nodes_of_mem_operands hb
  · exact Node.mem_nodes_trans (mem_nodes_of_mem_operands ha) (mem_nodes_of_mem_operands hb)

/-! ## Errors -/

section Errors

variable {P : ReadError → Prop}

theorem failsOnly_classify {n : Node} (h : FailsOnly P (textOf n)) : FailsOnly P (classify n) := by
  unfold classify
  split
  · exact failsOnly_ok _
  · split
    · exact failsOnly_ok _
    · split
      · exact h.map _
      · exact failsOnly_ok _

theorem failsOnly_recognized {ns : List Node} (h : ∀ n ∈ ns, FailsOnly P (textOf n)) :
    FailsOnly P (recognized ns) := by
  induction ns with
  | nil => exact failsOnly_ok _
  | cons n rest ih =>
    refine (failsOnly_classify (h n List.mem_cons_self)).bind fun kind => ?_
    refine (ih fun m hm => h m (List.mem_cons_of_mem _ hm)).bind fun others => ?_
    cases kind <;> exact failsOnly_ok _

theorem failsOnly_referenceName {n : Node} (h : ∀ m ∈ n.nodes, FailsOnly P (textOf m)) :
    FailsOnly P (referenceName n) := by
  unfold referenceName
  split
  · exact h _ (Node.bearer_mem_nodes n)
  · exact h _ (Node.self_mem_nodes n)

/-- The cases of the induction are those of `resolveAs`: each wrapper with all ways in which its
candidates can come out. -/
theorem failsOnly_resolveAs (harity : ∀ wrapper expected actual site,
    P (.arity wrapper expected actual site)) (n : Node) (kind : TypeKind)
    (h : ∀ m ∈ n.nodes, FailsOnly P (textOf m)) : FailsOnly P (resolveAs n kind) := by
  have hchildren : ∀ n : Node, (∀ m ∈ n.nodes, FailsOnly P (textOf m)) →
      FailsOnly P (recognized n.namedChildren) := fun n h =>
    failsOnly_recognized fun c hc => h c (mem_nodes_of_mem_namedChildren hc)
  have hoperands : ∀ n : Node, (∀ m ∈ n.nodes, FailsOnly P (textOf m)) →
      FailsOnly P (recognized (mapOperands n)) := fun n h =>
    failsOnly_recognized fun c hc => h c (mem_nodes_of_mem_mapOperands hc)
  fun_induction resolveAs n kind with
  | case1 | case2 | case3 => exact failsOnly_ok _
  | case4 n e he => exact (hchildren n h).pass he
  | case5 n element k he ih =>
    have hc := mem_nodes_of_mem_namedChildren (mem_of_recognized he List.mem_cons_self)
    exact (ih fun m hm => h m (Node.mem_nodes_trans hm hc)).map _
  | case6 n found _ _ => exact failsOnly_error (harity _ _ _ _)
  | case7 n e he => exact (failsOnly_referenceName h).pass he
  | case8 n e he => exact (hoperands n h).pass he
  | case9 n key kk value vk he _ ihkey ihvalue =>
    have hkey := mem_nodes_of_mem_mapOperands (mem_of_recognized he List.mem_cons_self)
    have hvalue := mem_nodes_of_mem_mapOperands
      (mem_of_recognized he (List.mem_cons_of_mem _ List.mem_cons_self))
    rw [seq_eq_bind_map]
    refine FailsOnly.bind ?_ fun f => ?_
    · exact (ihkey fun m hm => h m (Node.mem_nodes_trans hm hkey)).map _
    · exact (ihvalue fun m hm => h m (Node.mem_nodes_trans hm hvalue)).map _
  | case10 n found _ _ _ => exact failsOnly_error (harity _ _ _ _)
  | case11 n name _ _ => exact (h n (Node.self_mem_nodes n)).map _

/-- Reading a type fails with the errors of the texts below it, and with wrappers that have the
wrong number of usable nodes. -/
theorem failsOnly_resolve (harity : ∀ wrapper expected actual site,
    P (.arity wrapper expected actual site)) {n : Node}
    (h : ∀ m ∈ n.nodes, FailsOnly P (textOf m)) : FailsOnly P (resolve n) := by
  refine (failsOnly_classify (h n (Node.self_mem_nodes n))).bind fun kind => ?_
  cases kind with
  | none => exact failsOnly_ok _
  | some kind => exact (failsOnly_resolveAs harity n kind h).map _

end Errors

end ApiDecl.Reading
