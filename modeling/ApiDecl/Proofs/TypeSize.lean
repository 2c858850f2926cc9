import ApiDecl.Proofs.MapArguments
import Mathlib.Algebra.Group.Nat.Defs

/-!
# How large a type can get

The candidates of a map are its arguments and their operands. When an argument and an operand of it
are both recognized, what is inside the operand is read twice, so a type can be larger than its
tree.

* `cases_of_resolve`: a type is a name, or is read from the nodes that a wrapper can use.
* `resolve_lists`, `size_lists`, `size_listsType`: where lists and maps take turns, every map
  doubles the type and adds eight nodes to the tree. With four of them the type is larger than the
  tree (`not_size_le_nodes`).
* `add_size_lt_of_not_overlaps`: candidates of a map that do not overlap share no node, so together
  they are smaller than the map. Overlapping ones are each smaller than the map.
* `resolve_size_le`: so a type is at most as large as its tree, times two for every map with
  overlapping candidates on a way down.
-/

namespace ApiDecl.Syntax.Node

theorem sizeList_filter_le (p : Node → Bool) (ns : List Node) :
    sizeList (ns.filter p) ≤ sizeList ns := by
  induction ns with
  | nil => exact Nat.le_refl _
  | cons n rest ih =>
    rw [List.filter_cons, sizeList_cons]
    split
    · rw [sizeList_cons]
      omega
    · omega

theorem sizeList_flatMap_le {f : Node → List Node} {ns : List Node}
    (h : ∀ n ∈ ns, sizeList (f n) ≤ n.size) : sizeList (ns.flatMap f) ≤ sizeList ns := by
  induction ns with
  | nil => exact Nat.le_refl _
  | cons n rest ih =>
    have hn := h n List.mem_cons_self
    have hrest := ih fun m hm => h m (List.mem_cons_of_mem _ hm)
    rw [List.flatMap_cons, sizeList_append, sizeList_cons]
    omega

theorem sizeList_namedChildren_lt (n : Node) : sizeList n.namedChildren < n.size := by
  have hle := sizeList_filter_le (·.info.named) n.children
  rw [size_eq]
  exact Nat.lt_succ_of_le hle

end ApiDecl.Syntax.Node

namespace ApiDecl.Model.TypeExpr

/-- The number of names, arrays and maps in a type. -/
def size : TypeExpr → Nat
  | named _ => 1
  | array t => t.size + 1
  | map k v => k.size + v.size + 1
  | unresolved _ _ => 0

end ApiDecl.Model.TypeExpr

namespace ApiDecl.Reading

open Syntax (Node Kind)
open Syntax.Node (sizeList sizeList_flatMap_le sizeList_filter_le sizeList_namedChildren_lt)
open Model (TypeExpr)
open Model.TypeExpr (Turn)

/-! ## What a type is read from -/

theorem exists_classify {n : Node} {t : TypeExpr} (h : resolve n = .ok (some t)) :
    ∃ k, classify n = .ok (some k) ∧ resolveAs n k = .ok t := by
  rw [resolve] at h
  obtain ⟨kind, hkind, h⟩ := Outcome.bind_eq_ok_iff.mp h
  cases kind with
  | none => cases h
  | some k =>
    obtain ⟨u, hu, htu⟩ := Outcome.map_eq_ok_iff.mp h
    obtain rfl := Option.some.inj htu
    exact ⟨k, hkind, hu⟩

/-- What is no wrapper is read to a name. -/
theorem exists_name_of_not_wraps {n : Node} {t : TypeExpr} (hw : ∀ w, ¬ Wraps n w)
    (h : resolve n = .ok (some t)) : ∃ name, t = .named name := by
  obtain ⟨k, hk, ht⟩ := exists_classify h
  obtain ⟨harray, href⟩ := kind_of_classify hk
  cases k with
  | string | boolean | any =>
    rw [resolveAs] at ht
    cases ht
    exact ⟨_, rfl⟩
  | array => exact absurd (harray rfl) (hw .array)
  | reference =>
    rw [resolveAs_reference] at ht
    obtain ⟨name, hname, ht⟩ := Outcome.bind_eq_ok_iff.mp ht
    split at ht
    · next hmap => exact absurd ⟨href rfl, hmap ▸ hname⟩ (hw .map)
    · obtain ⟨text, -, rfl⟩ := Outcome.map_eq_ok_iff.mp ht
      exact ⟨text, rfl⟩

/-- A type is a name, or it is read from the nodes that a wrapper can use. -/
theorem cases_of_resolve {n : Node} {t : TypeExpr} (h : resolve n = .ok (some t)) :
    (∃ name, t = .named name) ∨
      (∃ c u, Wraps n .array ∧ usable n .array = [c] ∧ resolve c = .ok (some u) ∧ t = .array u) ∨
      ∃ a b key value, Wraps n .map ∧ usable n .map = [a, b] ∧ resolve a = .ok (some key) ∧
        resolve b = .ok (some value) ∧ t = .map key value := by
  by_cases hw : ∀ w, ¬ Wraps n w
  · exact Or.inl (exists_name_of_not_wraps hw h)
  obtain ⟨w, hw⟩ := Classical.not_forall_not.mp hw
  cases w with
  | array =>
    obtain ⟨c, u, hc, hu, ht⟩ := exists_of_resolve_array hw h
    exact Or.inr (Or.inl ⟨c, u, hw, hc, hu, ht⟩)
  | map =>
    rw [resolve_eq_resolveMap hw] at h
    obtain ⟨u, hu, htu⟩ := Outcome.map_eq_ok_iff.mp h
    obtain rfl := Option.some.inj htu
    obtain ⟨a, b, key, value, hab, ha, hb, ht⟩ := exists_of_resolveMap hu
    exact Or.inr (Or.inr ⟨a, b, key, value, hw, hab, ha, hb, ht⟩)

/-! ## A type that is larger than its tree -/

/-- Punctuation that comes from no source. -/
def freeToken (text : String) : Node :=
  .mk { (freeNode (.other text) none (Text.Utf8.encode text) []).info with named := false } []

/-- The tree of `T[]`, for a tree of `T`. -/
def listOf (n : Node) : Node :=
  freeNode .arrayType none (n.info.text ++ Text.Utf8.encode "[]") [n, freeToken "[", freeToken "]"]

/-- The tree of `map<T[]>`. -/
def mapOfList (n : Node) : Node :=
  let arguments := freeNode .typeArguments none
    (Text.Utf8.encode "<" ++ (listOf n).info.text ++ Text.Utf8.encode ">")
    [freeToken "<", listOf n, freeToken ">"]
  freeNode .genericType none (Text.Utf8.encode mapName ++ arguments.info.text)
    [freeNode .typeIdentifier (some "name") (Text.Utf8.encode mapName) [], arguments]

/-- The tree of `Foo`, `map<Foo[]>`, `map<map<Foo[]>[]>` and so on. -/
def lists : Nat → Node
  | 0 => freeNode .typeIdentifier none (Text.Utf8.encode "Foo") []
  | k + 1 => mapOfList (lists k)

/-- What `lists` is read to. -/
def listsType : Nat → TypeExpr
  | 0 => .named "Foo"
  | k + 1 => .map (.array (listsType k)) (listsType k)

theorem size_lists (k : Nat) : (lists k).size = 8 * k + 1 := by
  induction k with
  | zero => rfl
  | succ k ih =>
    simp [lists, mapOfList, listOf, freeNode, freeToken, Node.size, ih]
    omega

theorem size_listsType (k : Nat) : (listsType k).size + 2 = 3 * 2 ^ k := by
  induction k with
  | zero => rfl
  | succ k ih =>
    rw [listsType, TypeExpr.size, TypeExpr.size, Nat.pow_succ]
    omega

theorem lists_named (k : Nat) : (lists k).info.named := by
  cases k <;> rfl

section MapOfList

variable {n : Node} (hn : n.info.named)

include hn

theorem namedChildren_listOf : (listOf n).namedChildren = [n] := by
  show [n, freeToken "[", freeToken "]"].filter (·.info.named) = [n]
  rw [List.filter_cons_of_pos (by simpa using hn)]
  rfl

theorem mapOperands_mapOfList : mapOperands (mapOfList n) = [listOf n, n] := by
  have houter : operands (mapOfList n) = [listOf n] := rfl
  have hinner : operands (listOf n) = [n] := namedChildren_listOf hn
  rw [mapOperands, houter, List.flatMap_singleton, hinner]

/-- A list in a map is the key, and its elements are the value. -/
theorem resolve_mapOfList {t : TypeExpr} (h : resolve n = .ok (some t)) :
    resolve (mapOfList n) = .ok (some (.map (.array t) t)) := by
  obtain ⟨k, hk, -⟩ := exists_classify h
  have hlist : classify (listOf n) = .ok (some .array) := rfl
  have helement : recognized (listOf n).namedChildren = .ok [(n, k)] := by
    rw [namedChildren_listOf hn, recognized_cons_of_some hk]
    rfl
  have hfound : recognized (mapOperands (mapOfList n)) = .ok [(listOf n, .array), (n, k)] := by
    rw [mapOperands_mapOfList hn, recognized_cons_of_some hlist, recognized_cons_of_some hk]
    rfl
  have hname : referenceName (mapOfList n) = .ok mapName := textOf_of_encode rfl
  rw [resolve_map rfl hname hfound, resolve_array rfl helement, h]
  rfl

end MapOfList

theorem resolve_lists (k : Nat) : resolve (lists k) = .ok (some (listsType k)) := by
  induction k with
  | zero => decide +kernel
  | succ k ih => exact resolve_mapOfList (lists_named k) ih

/-- It is not so that a type never has more names, arrays and maps than its tree has nodes. -/
theorem not_size_le_nodes :
    ¬ ∀ (n : Node) (t : TypeExpr), resolve n = .ok (some t) → t.size ≤ n.size := by
  intro h
  have hle := h (lists 4) (listsType 4) (resolve_lists 4)
  have htree : (lists 4).size = 33 := size_lists 4
  have htype : (listsType 4).size = 46 := by decide
  omega

/-! ## Candidates that overlap -/

/-- An argument is recognized and has a recognized operand, so the operand is a candidate of the map
and is part of another one. -/
def Overlaps (n : Node) : Prop :=
  ∃ a ∈ operands n, isRecognized a ∧ ∃ c ∈ operands a, isRecognized c

instance (n : Node) : Decidable (Overlaps n) :=
  inferInstanceAs (Decidable (∃ a ∈ operands n, isRecognized a ∧ ∃ c ∈ operands a, isRecognized c))

theorem sizeList_operands_lt (n : Node) : sizeList (operands n) < n.size := by
  have hnamed := sizeList_namedChildren_lt n
  unfold operands
  split
  · have harguments := sizeList_filter_le (·.kind = .typeArguments) n.namedChildren
    have hflat : sizeList ((n.namedChildren.filter (·.kind = .typeArguments)).flatMap
        (·.namedChildren)) ≤ sizeList (n.namedChildren.filter (·.kind = .typeArguments)) :=
      sizeList_flatMap_le fun m _ => Nat.le_of_lt (sizeList_namedChildren_lt m)
    omega
  · split
    · exact n.size_pos
    · exact hnamed

theorem sizeList_candidates_le {a : Node}
    (h : isRecognized a → ∀ c ∈ operands a, ¬ isRecognized c) :
    sizeList ((a :: operands a).filter isRecognized) ≤ a.size := by
  by_cases ha : isRecognized a
  · have hnone : (operands a).filter isRecognized = [] := List.filter_eq_nil_iff.mpr (h ha)
    rw [List.filter_cons_of_pos ha, hnone]
    simp
  · have hle := sizeList_filter_le isRecognized (operands a)
    have hlt := sizeList_operands_lt a
    rw [List.filter_cons_of_neg ha]
    omega

/-- Candidates that do not overlap are disjoint parts of the map. -/
theorem add_size_lt_of_not_overlaps {n a b : Node} (hab : usable n .map = [a, b])
    (h : ¬ Overlaps n) : a.size + b.size < n.size := by
  have hdisjoint : sizeList (usable n .map) ≤ sizeList (operands n) := by
    rw [usable_map_eq, candidatesOf, List.filter_flatMap]
    refine sizeList_flatMap_le fun m hm => sizeList_candidates_le ?_
    intro hrecognized c hc hrecognized'
    exact h ⟨m, hm, hrecognized, c, hc, hrecognized'⟩
  have hlt := sizeList_operands_lt n
  simp only [hab, Node.sizeList_cons, Node.sizeList_nil] at hdisjoint
  omega

/-- Between a map and a candidate there is the list of the arguments. -/
theorem add_two_le_of_candidate {n c : Node} (hn : Wraps n .map) (hc : c ∈ usable n .map) :
    c.size + 2 ≤ n.size := by
  obtain ⟨a, ha, hca⟩ := List.mem_flatMap.mp (List.mem_filter.mp hc).1
  have hle : c.size ≤ a.size := by
    rcases List.mem_cons.mp hca with rfl | hca
    · exact Nat.le_refl _
    · exact Nat.le_of_lt (size_lt_of_mem_operands hca)
  unfold operands at ha
  split at ha
  · obtain ⟨m, hm, ha⟩ := List.mem_flatMap.mp ha
    have hmn := Node.size_lt_of_mem_namedChildren (List.mem_filter.mp hm).1
    have ham := Node.size_lt_of_mem_namedChildren ha
    omega
  · rw [if_pos (by simp [hn.1])] at ha
    cases ha

/-! ## Overlaps inside each other -/

/-- Reading a node visits that many maps with overlapping candidates, each of them at or below a
candidate of the one before. -/
inductive NestedOverlaps : Node → Nat → Prop
  | none {n : Node} : NestedOverlaps n 0
  | step {n m c : Node} {address : List Turn} {d : Nat} : Visited n address m → Wraps m .map →
      Overlaps m → c ∈ usable m .map → NestedOverlaps c d → NestedOverlaps n (d + 1)

theorem Visited.trans {n m l : Node} {address address' : List Turn} (h : Visited n address m)
    (h' : Visited m address' l) : Visited n (address ++ address') l := by
  induction h with
  | here => exact h'
  | element hw hc _ ih => exact .element hw hc (ih h')
  | key hw hab _ ih => exact .key hw hab (ih h')
  | value hw hab _ ih => exact .value hw hab (ih h')

theorem Visited.eq_of_not_wraps {n m : Node} {address : List Turn} (h : Visited n address m)
    (hn : ∀ w, ¬ Wraps n w) : m = n := by
  cases h with
  | here => rfl
  | element hw => exact absurd hw (hn _)
  | key hw => exact absurd hw (hn _)
  | value hw => exact absurd hw (hn _)

theorem Visited.size_le {n m : Node} {address : List Turn} (h : Visited n address m) :
    m.size ≤ n.size := by
  induction h with
  | here => exact Nat.le_refl _
  | @element n c _ _ _ hc _ ih =>
    have hlt := size_lt_of_mem_usable (n := n) (c := c) (w := .array) (by simp [hc])
    omega
  | @key n a b _ _ _ hab _ ih =>
    have hlt := size_lt_of_mem_usable (n := n) (c := a) (w := .map) (by simp [hab])
    omega
  | @value n a b _ _ _ hab _ ih =>
    have hlt := size_lt_of_mem_usable (n := n) (c := b) (w := .map) (by simp [hab])
    omega

theorem NestedOverlaps.of_visited {n m : Node} {address : List Turn} {d : Nat}
    (hvisited : Visited n address m) (h : NestedOverlaps m d) : NestedOverlaps n d := by
  cases h with
  | none => exact .none
  | step hm hw hoverlaps hc h => exact .step (hvisited.trans hm) hw hoverlaps hc h

theorem NestedOverlaps.two_mul_lt {n : Node} {d : Nat} (h : NestedOverlaps n d) :
    2 * d < n.size := by
  induction h with
  | none => exact Node.size_pos _
  | step hm hw _ hc _ ih =>
    have hle := hm.size_le
    have hcandidate := add_two_le_of_candidate hw hc
    omega

theorem NestedOverlaps.eq_zero {n : Node} {d : Nat} (h : NestedOverlaps n d)
    (hnone : ∀ address m, Visited n address m → Wraps m .map → ¬ Overlaps m) : d = 0 := by
  cases h with
  | none => rfl
  | step hm hw hoverlaps _ _ => exact absurd hoverlaps (hnone _ _ hm hw)

/-! ## The size of a type -/

theorem size_map_le {key value : TypeExpr} {a b : Node} {d bound : Nat}
    (hkey : key.size ≤ 2 ^ d * a.size) (hvalue : value.size ≤ 2 ^ d * b.size)
    (h : a.size + b.size < bound) : (TypeExpr.map key value).size ≤ 2 ^ d * bound := by
  have hpos : 0 < 2 ^ d := Nat.two_pow_pos d
  calc key.size + value.size + 1
    _ ≤ 2 ^ d * a.size + 2 ^ d * b.size + 2 ^ d := by omega
    _ = 2 ^ d * (a.size + b.size + 1) := by rw [Nat.mul_add, Nat.mul_add, Nat.mul_one]
    _ ≤ 2 ^ d * bound := Nat.mul_le_mul_left _ h

/-- Of two candidates the one with more overlaps inside it bounds both. -/
theorem exists_common_depth {key value : TypeExpr} {a b : Node}
    (ha : ∃ d, NestedOverlaps a d ∧ key.size ≤ 2 ^ d * a.size)
    (hb : ∃ d, NestedOverlaps b d ∧ value.size ≤ 2 ^ d * b.size) :
    ∃ c ∈ [a, b], ∃ d, NestedOverlaps c d ∧ key.size ≤ 2 ^ d * a.size ∧
      value.size ≤ 2 ^ d * b.size := by
  obtain ⟨da, ha, hkey⟩ := ha
  obtain ⟨db, hb, hvalue⟩ := hb
  rcases Nat.le_total da db with hle | hle
  · have hpow : 2 ^ da ≤ 2 ^ db := Nat.pow_le_pow_right (by decide) hle
    exact ⟨b, by simp, db, hb, Nat.le_trans hkey (Nat.mul_le_mul_right _ hpow), hvalue⟩
  · have hpow : 2 ^ db ≤ 2 ^ da := Nat.pow_le_pow_right (by decide) hle
    exact ⟨a, by simp, da, ha, hkey, Nat.le_trans hvalue (Nat.mul_le_mul_right _ hpow)⟩

/-- The step at a map: overlapping candidates cost a factor of two, and others nothing. -/
theorem exists_bound_map {n a b c : Node} {key value : TypeExpr} {d : Nat} (hw : Wraps n .map)
    (hab : usable n .map = [a, b]) (hc : c ∈ [a, b]) (hd : NestedOverlaps c d)
    (hkey : key.size ≤ 2 ^ d * a.size) (hvalue : value.size ≤ 2 ^ d * b.size) :
    ∃ d, NestedOverlaps n d ∧ (TypeExpr.map key value).size ≤ 2 ^ d * n.size := by
  by_cases hoverlaps : Overlaps n
  · have ha : a.size < n.size := size_lt_of_mem_usable (w := .map) (by simp [hab])
    have hb : b.size < n.size := size_lt_of_mem_usable (w := .map) (by simp [hab])
    refine ⟨d + 1, .step .here hw hoverlaps (hab ▸ hc) hd, ?_⟩
    rw [Nat.pow_succ, Nat.mul_assoc]
    exact size_map_le hkey hvalue (by omega)
  · have hvisited : ∃ address, Visited n address c := by
      rcases List.mem_pair.mp hc with rfl | rfl
      · exact ⟨_, .key hw hab .here⟩
      · exact ⟨_, .value hw hab .here⟩
    obtain ⟨address, hvisited⟩ := hvisited
    have hlt := add_size_lt_of_not_overlaps hab hoverlaps
    exact ⟨d, hd.of_visited hvisited, size_map_le hkey hvalue hlt⟩

/-- The induction is on the size of the node, since a candidate may lie two levels below its map. -/
theorem exists_bound {n : Node} {t : TypeExpr} (h : resolve n = .ok (some t)) :
    ∃ d, NestedOverlaps n d ∧ t.size ≤ 2 ^ d * n.size := by
  generalize hsize : n.size = size
  induction size using Nat.strongRecOn generalizing n t with
  | ind size ih =>
    subst hsize
    rcases cases_of_resolve h with ⟨name, rfl⟩ | ⟨c, u, hw, hc, hu, rfl⟩ |
      ⟨a, b, key, value, hw, hab, ha, hb, rfl⟩
    · refine ⟨0, .none, ?_⟩
      rw [TypeExpr.size, Nat.pow_zero, Nat.one_mul]
      exact n.size_pos
    · have hlt : c.size < n.size := size_lt_of_mem_usable (w := .array) (by simp [hc])
      obtain ⟨d, hd, hle⟩ := ih c.size hlt hu rfl
      have hpos : 0 < 2 ^ d := Nat.two_pow_pos d
      refine ⟨d, hd.of_visited (.element hw hc .here), ?_⟩
      calc u.size + 1
        _ ≤ 2 ^ d * c.size + 2 ^ d := by omega
        _ = 2 ^ d * (c.size + 1) := by rw [Nat.mul_add, Nat.mul_one]
        _ ≤ 2 ^ d * n.size := Nat.mul_le_mul_left _ hlt
    · have hlta : a.size < n.size := size_lt_of_mem_usable (w := .map) (by simp [hab])
      have hltb : b.size < n.size := size_lt_of_mem_usable (w := .map) (by simp [hab])
      obtain ⟨c, hc, d, hd, hkey, hvalue⟩ :=
        exists_common_depth (ih a.size hlta ha rfl) (ih b.size hltb hb rfl)
      exact exists_bound_map hw hab hc hd hkey hvalue

/-- **A type is at most as large as its tree, up to a factor of two for every overlap.** When a node
is read to a type, some number of maps with overlapping candidates stand in each other, and the type
has at most as many names, arrays and maps as the tree has nodes, times two to this number. When no
map that is visited has overlapping candidates, the type is no larger than the tree. -/
theorem resolve_size_le {n : Node} {t : TypeExpr} (h : resolve n = .ok (some t)) :
    (∃ d, NestedOverlaps n d ∧ 2 * d < n.size ∧ t.size ≤ 2 ^ d * n.size) ∧
      ((∀ address m, Visited n address m → Wraps m .map → ¬ Overlaps m) → t.size ≤ n.size) := by
  obtain ⟨d, hd, hle⟩ := exists_bound h
  refine ⟨⟨d, hd, hd.two_mul_lt, hle⟩, ?_⟩
  intro hnone
  obtain rfl := hd.eq_zero hnone
  rwa [Nat.pow_zero, Nat.one_mul] at hle

/-- The bound for a type that is larger than its tree, and for one whose map does not overlap. -/
theorem resolve_size_le_lists :
    (resolve (lists 4) = .ok (some (listsType 4)) ∧ (lists 4).size = 33 ∧
      (listsType 4).size = 46 ∧ ∃ d, NestedOverlaps (lists 4) d ∧ 46 ≤ 2 ^ d * 33) ∧
    (∀ address m, Visited commentedTree address m → Wraps m .map → ¬ Overlaps m) ∧
      ∃ t, resolve commentedTree = .ok (some t) ∧ t.size ≤ commentedTree.size := by
  have hroot : Wraps commentedTree .map ∧ ¬ Overlaps commentedTree := by decide +kernel
  have hbelow : ∀ c ∈ usable commentedTree .map, ¬ Wraps c .array ∧ ¬ Wraps c .map := by
    decide +kernel
  have hread : resolve commentedTree = .ok (some (.map (.named "string") (.named "Foo"))) := by
    decide +kernel
  have hnone : ∀ address m, Visited commentedTree address m → Wraps m .map → ¬ Overlaps m := by
    intro address m hm hw
    have hleaf : ∀ c ∈ usable commentedTree .map, ∀ rest, ¬ Visited c rest m := by
      intro c hc rest hrest
      have hnot : ∀ w, ¬ Wraps c w := fun w => by
        cases w with
        | array => exact (hbelow c hc).1
        | map => exact (hbelow c hc).2
      exact hnot .map (hrest.eq_of_not_wraps hnot ▸ hw)
    cases hm with
    | here => exact hroot.2
    | element harray => cases hroot.1.unique harray
    | key _ hab hrest => exact absurd hrest (hleaf _ (by simp [hab]) _)
    | value _ hab hrest => exact absurd hrest (hleaf _ (by simp [hab]) _)
  obtain ⟨⟨d, hd, -, hle⟩, -⟩ := resolve_size_le (resolve_lists 4)
  have htree : (lists 4).size = 33 := size_lists 4
  have htype : (listsType 4).size = 46 := by decide
  rw [htree, htype] at hle
  exact ⟨⟨resolve_lists 4, htree, htype, d, hd, hle⟩, hnone, _, hread,
    (resolve_size_le hread).2 hnone⟩

end ApiDecl.Reading
