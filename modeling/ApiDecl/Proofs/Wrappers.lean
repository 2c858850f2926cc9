import ApiDecl.Proofs.WrittenTypes

/-!
# Where reading a type fails

Reading goes from a wrapper to what it wraps: from an array to its one recognized child, from a map
to its two candidates. It ends at a wrapper that has another number of them. Since a candidate of a
map can be part of the candidate before it, a node may be reached twice; what is compared here are
the addresses at which nodes are reached.

* `misfit_array`, `misfit_map`: the misfits at and below a wrapper that fits.
* `exists_type_or_misfit`: a type is read, or there is a first misfit and it is reported.
* `resolve_first_misfit`: a type is read exactly if every wrapper that is visited fits. Otherwise the
  error is that of the first one that does not, outer wrappers before inner ones and keys before
  values.
-/

namespace ApiDecl.Reading

open Syntax (Node Kind Sketch)
open Model (TypeExpr)
open Model.TypeExpr (Turn)
open Outcome (FailsOnly failsOnly_false_iff)

/-! ## Wrappers -/

inductive Wrapper
  | array
  | map
deriving DecidableEq, Repr

namespace Wrapper

/-- What messages call the wrapper. -/
def name : Wrapper → String
  | array => "array"
  | map => "map"

/-- How many nodes it wraps. -/
def arity : Wrapper → Nat
  | array => 1
  | map => 2

end Wrapper

def isRecognized (n : Node) : Bool :=
  match classify n with
  | .ok (some _) => true
  | _ => false

/-- The node is an array, or a reference called `map`. -/
def Wraps (n : Node) : Wrapper → Prop
  | .array => n.kind = .arrayType
  | .map => n.kind.isReference ∧ referenceName n = .ok mapName

instance (n : Node) (w : Wrapper) : Decidable (Wraps n w) :=
  match w with
  | .array => inferInstanceAs (Decidable (n.kind = .arrayType))
  | .map => inferInstanceAs (Decidable (n.kind.isReference ∧ referenceName n = .ok mapName))

/-- The nodes among which a wrapper looks. -/
def inside (n : Node) : Wrapper → List Node
  | .array => n.namedChildren
  | .map => mapOperands n

/-- The nodes that a wrapper can use: the recognized children of an array, the candidates of a
map. -/
def usable (n : Node) (w : Wrapper) : List Node := (inside n w).filter isRecognized

/-- All texts below the node can be decoded. -/
def TextsDecode (n : Node) : Prop := ∀ m ∈ n.nodes, ∃ text, textOf m = .ok text

theorem Wraps.unique {n : Node} {w w' : Wrapper} (h : Wraps n w) (h' : Wraps n w') : w = w' := by
  cases w <;> cases w'
  · rfl
  · simp [Wraps, show n.kind = .arrayType from h, Kind.isReference] at h'
  · simp [Wraps, show n.kind = .arrayType from h', Kind.isReference] at h
  · rfl

theorem fst_recognized {ns : List Node} {found : List (Node × TypeKind)}
    (h : recognized ns = .ok found) : found.map Prod.fst = ns.filter isRecognized := by
  induction ns generalizing found with
  | nil =>
    obtain rfl : [] = found := Except.ok.inj h
    rfl
  | cons n rest ih =>
    rw [recognized] at h
    obtain ⟨kind, hkind, h⟩ := Outcome.bind_eq_ok_iff.mp h
    obtain ⟨others, hothers, h⟩ := Outcome.bind_eq_ok_iff.mp h
    cases kind with
    | none =>
      obtain rfl : others = found := Except.ok.inj h
      have hn : isRecognized n = false := by simp [isRecognized, hkind]
      rw [ih hothers, List.filter_cons_of_neg (by simp [hn])]
    | some k =>
      obtain rfl : (n, k) :: others = found := Except.ok.inj h
      have hn : isRecognized n = true := by simp [isRecognized, hkind]
      rw [List.map_cons, ih hothers, List.filter_cons_of_pos hn]

theorem mem_nodes_of_mem_inside {n c : Node} {w : Wrapper} (h : c ∈ inside n w) : c ∈ n.nodes := by
  cases w with
  | array => exact mem_nodes_of_mem_namedChildren h
  | map => exact mem_nodes_of_mem_mapOperands h

theorem size_lt_of_mem_usable {n c : Node} {w : Wrapper} (h : c ∈ usable n w) :
    c.size < n.size := by
  have hc : c ∈ inside n w := (List.mem_filter.mp h).1
  cases w with
  | array => exact Node.size_lt_of_mem_namedChildren hc
  | map => exact size_lt_of_mem_mapOperands hc

theorem TextsDecode.of_mem_usable {n c : Node} {w : Wrapper} (hn : TextsDecode n)
    (h : c ∈ usable n w) : TextsDecode c := by
  intro m hm
  have hc : c ∈ n.nodes := mem_nodes_of_mem_inside (List.mem_filter.mp h).1
  exact hn m (Node.mem_nodes_trans hm hc)

/-- Where all texts can be decoded, the nodes inside a wrapper have shapes or none. -/
theorem TextsDecode.exists_recognized {n : Node} (hn : TextsDecode n) (w : Wrapper) :
    ∃ found, recognized (inside n w) = .ok found ∧ found.map Prod.fst = usable n w := by
  have hnever : ∀ m ∈ inside n w, FailsOnly (fun _ => False) (textOf m) := by
    intro m hm
    exact failsOnly_false_iff.mpr (hn m (mem_nodes_of_mem_inside hm))
  obtain ⟨found, hfound⟩ := failsOnly_false_iff.mp (failsOnly_recognized hnever)
  exact ⟨found, hfound, fst_recognized hfound⟩

/-! ## Reading a wrapper -/

theorem resolve_array_of_length_ne {n : Node} (hn : n.kind = .arrayType)
    {found : List (Node × TypeKind)} (h : recognized n.namedChildren = .ok found)
    (hlength : found.length ≠ 1) :
    resolve n = .error (.arity "array" 1 found.length (.ofNode n)) := by
  rw [resolve_of_classify (classify_array hn), resolveAs_array, h, Outcome.ok_bind, arrayOf]
  · rfl
  · rintro element k rfl
    exact hlength rfl

theorem resolve_misfit {n : Node} {w : Wrapper} (hn : TextsDecode n) (hw : Wraps n w)
    (hlength : (usable n w).length ≠ w.arity) :
    resolve n = .error (.arity w.name w.arity (usable n w).length (.ofNode n)) := by
  obtain ⟨found, hfound, hfst⟩ := hn.exists_recognized w
  have hcount : found.length = (usable n w).length := by rw [← hfst, List.length_map]
  rw [← hcount] at hlength ⊢
  cases w with
  | array => exact resolve_array_of_length_ne hw hfound hlength
  | map => exact resolve_map_of_length_ne hw.1 hw.2 hfound hlength

theorem resolve_element {n c : Node} (hn : TextsDecode n) (hw : Wraps n .array)
    (hc : usable n .array = [c]) : resolve n = Option.map TypeExpr.array <$> resolve c := by
  obtain ⟨found, hfound, hfst⟩ := hn.exists_recognized .array
  rw [hc] at hfst
  obtain ⟨⟨c', k⟩, rfl, rfl⟩ := List.map_eq_singleton_iff.mp hfst
  exact resolve_array hw hfound

theorem resolve_key_value {n a b : Node} (hn : TextsDecode n) (hw : Wraps n .map)
    (hab : usable n .map = [a, b]) :
    resolve n = do
      let key ← resolve a
      let value ← resolve b
      return TypeExpr.map <$> key <*> value := by
  obtain ⟨found, hfound, hfst⟩ := hn.exists_recognized .map
  rw [hab] at hfst
  obtain ⟨⟨a', ka⟩, others, rfl, rfl, hothers⟩ := List.map_eq_cons_iff.mp hfst
  obtain ⟨⟨b', kb⟩, rfl, rfl⟩ := List.map_eq_singleton_iff.mp hothers
  exact resolve_map hw.1 hw.2 hfound

/-- What is no wrapper is read without looking further. -/
theorem resolve_of_not_wraps {n : Node} (hn : TextsDecode n) (hw : ∀ w, ¬ Wraps n w) :
    ∃ t, resolve n = .ok t := by
  obtain ⟨text, htext⟩ := hn n (Node.self_mem_nodes n)
  have hnever : ∀ m ∈ n.nodes, FailsOnly (fun _ => False) (textOf m) := fun m hm =>
    failsOnly_false_iff.mpr (hn m hm)
  obtain ⟨kind, hkind⟩ :=
    failsOnly_false_iff.mp (failsOnly_classify (hnever n (Node.self_mem_nodes n)))
  cases kind with
  | none => exact ⟨none, resolve_eq_none_iff.mpr hkind⟩
  | some k =>
    rw [resolve_of_classify hkind]
    have harray : n.kind ≠ .arrayType := hw .array
    by_cases href : n.kind.isReference
    · -- A reference that is not called `map` is named by its text.
      obtain rfl : TypeKind.reference = k := by
        simpa [classify_reference href] using hkind
      obtain ⟨name, hname⟩ := failsOnly_false_iff.mp (failsOnly_referenceName hnever)
      have hmap : name ≠ mapName := by
        rintro rfl
        exact hw .map ⟨href, hname⟩
      refine ⟨some (.named text), ?_⟩
      rw [resolveAs, hname]
      dsimp only
      rw [if_neg hmap, htext]
      rfl
    · cases k with
      | string | boolean | any => exact ⟨_, by rw [resolveAs]; rfl⟩
      | array => exact absurd ((kind_of_classify hkind).1 rfl) harray
      | reference => exact absurd ((kind_of_classify hkind).2 rfl) href

/-! ## Visited nodes -/

/-- Reading a node visits another one at an address. -/
inductive Visited : Node → List Turn → Node → Prop
  | here {n : Node} : Visited n [] n
  | element {n c m : Node} {rest : List Turn} : Wraps n .array → usable n .array = [c] →
      Visited c rest m → Visited n (.element :: rest) m
  | key {n a b m : Node} {rest : List Turn} : Wraps n .map → usable n .map = [a, b] →
      Visited a rest m → Visited n (.key :: rest) m
  | value {n a b m : Node} {rest : List Turn} : Wraps n .map → usable n .map = [a, b] →
      Visited b rest m → Visited n (.value :: rest) m

theorem Visited.unique {n m m' : Node} {address : List Turn} (h : Visited n address m)
    (h' : Visited n address m') : m = m' := by
  induction h with
  | here =>
    cases h'
    rfl
  | element _ hc _ ih =>
    cases h' with
    | element _ hc' h' =>
      rw [hc] at hc'
      cases hc'
      exact ih h'
  | key _ hab _ ih =>
    cases h' with
    | key _ hab' h' =>
      rw [hab] at hab'
      cases hab'
      exact ih h'
  | value _ hab _ ih =>
    cases h' with
    | value _ hab' h' =>
      rw [hab] at hab'
      cases hab'
      exact ih h'

/-- The order of reading: outer wrappers before inner ones, keys before values. -/
inductive Precedes : List Turn → List Turn → Prop
  | outer {rest : List Turn} : Precedes [] rest
  | inner {turn : Turn} {rest rest' : List Turn} : Precedes rest rest' →
      Precedes (turn :: rest) (turn :: rest')
  | keyFirst {rest rest' : List Turn} : Precedes (.key :: rest) (.value :: rest')

theorem Precedes.antisymm {address address' : List Turn} (h : Precedes address address')
    (h' : Precedes address' address) : address = address' := by
  induction h with
  | outer =>
    cases h'
    rfl
  | inner _ ih =>
    cases h' with
    | inner h' => rw [ih h']
  | keyFirst => cases h'

/-! ## Misfits -/

/-- At the address a wrapper is visited that does not have the nodes that it needs. -/
def Misfit (n : Node) (address : List Turn) (m : Node) (w : Wrapper) : Prop :=
  Visited n address m ∧ Wraps m w ∧ (usable m w).length ≠ w.arity

/-- The misfit that reading meets first. -/
def FirstMisfit (n : Node) (address : List Turn) (m : Node) (w : Wrapper) : Prop :=
  Misfit n address m w ∧ ∀ other m' w', Misfit n other m' w' → Precedes address other

theorem FirstMisfit.unique {n m m' : Node} {address address' : List Turn} {w w' : Wrapper}
    (h : FirstMisfit n address m w) (h' : FirstMisfit n address' m' w') : m = m' ∧ w = w' := by
  have hle : Precedes address address' := h.2 _ _ _ h'.1
  have hge : Precedes address' address := h'.2 _ _ _ h.1
  obtain rfl := hle.antisymm hge
  obtain rfl := h.1.1.unique h'.1.1
  exact ⟨rfl, h.1.2.1.unique h'.1.2.1⟩

theorem not_misfit_of_not_wraps {n : Node} (hn : ∀ w, ¬ Wraps n w) (address : List Turn) (m : Node)
    (w : Wrapper) : ¬ Misfit n address m w := by
  rintro ⟨hvisited, hw, -⟩
  cases hvisited with
  | here => exact hn w hw
  | element hw' => exact hn _ hw'
  | key hw' => exact hn _ hw'
  | value hw' => exact hn _ hw'

section Fits

variable {n m : Node} {address : List Turn} {w : Wrapper}

theorem misfit_array {c : Node} (hn : Wraps n .array) (hc : usable n .array = [c]) :
    Misfit n address m w ↔ ∃ rest, address = .element :: rest ∧ Misfit c rest m w := by
  constructor
  · rintro ⟨hvisited, hw, hlength⟩
    cases hvisited with
    | here =>
      obtain rfl := hn.unique hw
      rw [hc] at hlength
      exact absurd rfl hlength
    | element _ hc' hrest =>
      rw [hc] at hc'
      cases hc'
      exact ⟨_, rfl, hrest, hw, hlength⟩
    | key hmap => cases hn.unique hmap
    | value hmap => cases hn.unique hmap
  · rintro ⟨rest, rfl, hvisited, hmisfit⟩
    exact ⟨.element hn hc hvisited, hmisfit⟩

theorem misfit_map {a b : Node} (hn : Wraps n .map) (hab : usable n .map = [a, b]) :
    Misfit n address m w ↔ (∃ rest, address = .key :: rest ∧ Misfit a rest m w) ∨
      ∃ rest, address = .value :: rest ∧ Misfit b rest m w := by
  constructor
  · rintro ⟨hvisited, hw, hlength⟩
    cases hvisited with
    | here =>
      obtain rfl := hn.unique hw
      rw [hab] at hlength
      exact absurd rfl hlength
    | element harray => cases hn.unique harray
    | key _ hab' hrest =>
      rw [hab] at hab'
      cases hab'
      exact Or.inl ⟨_, rfl, hrest, hw, hlength⟩
    | value _ hab' hrest =>
      rw [hab] at hab'
      cases hab'
      exact Or.inr ⟨_, rfl, hrest, hw, hlength⟩
  · rintro (⟨rest, rfl, hvisited, hmisfit⟩ | ⟨rest, rfl, hvisited, hmisfit⟩)
    · exact ⟨.key hn hab hvisited, hmisfit⟩
    · exact ⟨.value hn hab hvisited, hmisfit⟩

theorem firstMisfit_self (hn : Wraps n w) (hlength : (usable n w).length ≠ w.arity) :
    FirstMisfit n [] n w :=
  ⟨⟨.here, hn, hlength⟩, fun _ _ _ _ => .outer⟩

theorem FirstMisfit.element {c : Node} (hn : Wraps n .array) (hc : usable n .array = [c])
    (h : FirstMisfit c address m w) : FirstMisfit n (.element :: address) m w := by
  refine ⟨(misfit_array hn hc).mpr ⟨address, rfl, h.1⟩, ?_⟩
  intro other m' w' hother
  obtain ⟨rest, rfl, hrest⟩ := (misfit_array hn hc).mp hother
  exact .inner (h.2 rest m' w' hrest)

theorem FirstMisfit.key {a b : Node} (hn : Wraps n .map) (hab : usable n .map = [a, b])
    (h : FirstMisfit a address m w) : FirstMisfit n (.key :: address) m w := by
  refine ⟨(misfit_map hn hab).mpr (Or.inl ⟨address, rfl, h.1⟩), ?_⟩
  intro other m' w' hother
  rcases (misfit_map hn hab).mp hother with ⟨rest, rfl, hrest⟩ | ⟨rest, rfl, -⟩
  · exact .inner (h.2 rest m' w' hrest)
  · exact .keyFirst

theorem FirstMisfit.value {a b : Node} (hn : Wraps n .map) (hab : usable n .map = [a, b])
    (hkey : ∀ address m w, ¬ Misfit a address m w) (h : FirstMisfit b address m w) :
    FirstMisfit n (.value :: address) m w := by
  refine ⟨(misfit_map hn hab).mpr (Or.inr ⟨address, rfl, h.1⟩), ?_⟩
  intro other m' w' hother
  rcases (misfit_map hn hab).mp hother with ⟨rest, rfl, hrest⟩ | ⟨rest, rfl, hrest⟩
  · exact absurd hrest (hkey rest m' w')
  · exact .inner (h.2 rest m' w' hrest)

end Fits

/-! ## Reading -/

/-- What reading a node comes to: a type, or none, when nothing visited is a misfit, and else the
error of the first misfit. The induction is on the size of the node, for candidates of a map may
lie two levels below it. -/
theorem exists_type_or_misfit (n : Node) (hn : TextsDecode n) :
    ((∃ t, resolve n = .ok t) ∧ ∀ address m w, ¬ Misfit n address m w) ∨
      ∃ address m w, FirstMisfit n address m w ∧
        resolve n = .error (.arity w.name w.arity (usable m w).length (.ofNode m)) := by
  generalize hsize : n.size = size
  induction size using Nat.strongRecOn generalizing n with
  | ind size ih =>
    have hbelow : ∀ {w c}, c ∈ usable n w →
        ((∃ t, resolve c = .ok t) ∧ ∀ address m w, ¬ Misfit c address m w) ∨
          ∃ address m w, FirstMisfit c address m w ∧
            resolve c = .error (.arity w.name w.arity (usable m w).length (.ofNode m)) := by
      intro w c hc
      have hlt : c.size < size := hsize ▸ size_lt_of_mem_usable hc
      exact ih c.size hlt c (hn.of_mem_usable hc) rfl
    by_cases hw : ∃ w, Wraps n w
    · obtain ⟨w, hw⟩ := hw
      by_cases hlength : (usable n w).length = w.arity
      · cases w with
        | array =>
          obtain ⟨c, hc⟩ := List.length_eq_one_iff.mp hlength
          rw [resolve_element hn hw hc]
          rcases hbelow (w := .array) (c := c) (by simp [hc]) with
            ⟨⟨t, ht⟩, hfits⟩ | ⟨address, m, w, hfirst, herror⟩
          · refine Or.inl ⟨⟨t.map TypeExpr.array, by rw [ht]; rfl⟩, ?_⟩
            intro address m w hmisfit
            obtain ⟨rest, -, hrest⟩ := (misfit_array hw hc).mp hmisfit
            exact hfits rest m w hrest
          · exact Or.inr ⟨_, m, w, hfirst.element hw hc, by rw [herror]; rfl⟩
        | map =>
          obtain ⟨a, b, hab⟩ := List.length_eq_two.mp hlength
          rw [resolve_key_value hn hw hab]
          -- The key is read first, and the value only if nothing is wrong with the key.
          rcases hbelow (w := .map) (c := a) (by simp [hab]) with
            ⟨⟨key, hkey⟩, hfits⟩ | ⟨address, m, w, hfirst, herror⟩
          · rcases hbelow (w := .map) (c := b) (by simp [hab]) with
              ⟨⟨value, hvalue⟩, hfits'⟩ | ⟨address, m, w, hfirst, herror⟩
            · refine Or.inl ⟨⟨_, by rw [hkey, hvalue]; rfl⟩, ?_⟩
              intro address m w hmisfit
              rcases (misfit_map hw hab).mp hmisfit with ⟨rest, -, hrest⟩ | ⟨rest, -, hrest⟩
              · exact hfits rest m w hrest
              · exact hfits' rest m w hrest
            · exact Or.inr ⟨_, m, w, hfirst.value hw hab hfits, by rw [hkey, herror]; rfl⟩
          · exact Or.inr ⟨_, m, w, hfirst.key hw hab, by rw [herror]; rfl⟩
      · exact Or.inr ⟨[], n, w, firstMisfit_self hw hlength, resolve_misfit hn hw hlength⟩
    · have hnone : ∀ w, ¬ Wraps n w := fun w h => hw ⟨w, h⟩
      exact Or.inl ⟨resolve_of_not_wraps hn hnone, not_misfit_of_not_wraps hnone⟩

/-- **Reading fails exactly at the first wrapper of the wrong arity.** Where all texts can be
decoded, reading a node gives a type, or none, exactly if every visited array has one recognized
child and every visited map has two candidates. Otherwise there is a first misfit, and the error
names it, what it needs and what it has. -/
theorem resolve_first_misfit {n : Node} (hn : TextsDecode n) :
    ((∃ t, resolve n = .ok t) ↔ ∀ address m, Visited n address m →
        ∀ w, Wraps m w → (usable m w).length = w.arity) ∧
      ((¬ ∃ t, resolve n = .ok t) → ∃ address m w, FirstMisfit n address m w) ∧
      ∀ address m w, FirstMisfit n address m w →
        (usable m w).length ≠ w.arity ∧
          resolve n = .error (.arity w.name w.arity (usable m w).length (.ofNode m)) := by
  have hfits : (∀ address m w, ¬ Misfit n address m w) ↔ ∀ address m, Visited n address m →
      ∀ w, Wraps m w → (usable m w).length = w.arity := by
    constructor
    · intro h address m hm w hw
      by_contra hlength
      exact h address m w ⟨hm, hw, hlength⟩
    · rintro h address m w ⟨hm, hw, hlength⟩
      exact hlength (h address m hm w hw)
  rw [← hfits]
  rcases exists_type_or_misfit n hn with ⟨hok, hnone⟩ | ⟨address, m, w, hfirst, herror⟩
  · refine ⟨⟨fun _ => hnone, fun _ => hok⟩, fun hfails => absurd hok hfails, ?_⟩
    intro address m w hfirst
    exact absurd hfirst.1 (hnone address m w)
  · have hfails : ¬ ∃ t, resolve n = .ok t := by
      rintro ⟨t, ht⟩
      rw [herror] at ht
      cases ht
    refine ⟨⟨fun hok => absurd hok hfails, fun hnone => absurd hfirst.1 (hnone _ _ _)⟩,
      fun _ => ⟨address, m, w, hfirst⟩, ?_⟩
    intro address' m' w' hfirst'
    obtain ⟨rfl, rfl⟩ := hfirst.unique hfirst'
    exact ⟨hfirst.1.2.2, herror⟩

/-- The tree of `map<number[] | map>[]`. The candidates of its map are the operands of the union. -/
def unionTree : Node :=
  (Sketch.place (Text.Utf8.encode "map<number[] | map>[]") 0 <|
    .inner .arrayType 0 21
      [.inner .genericType 0 19
        [.nameLeaf .typeIdentifier 0 3,
          .inner .typeArguments 3 19
            [.token "<" 3 4,
              .inner (.other "union_type") 4 18
                [.inner .arrayType 4 12
                  [.leaf .predefinedType 4 10, .token "[" 10 11, .token "]" 11 12],
                  .token "|" 13 14, .leaf .typeIdentifier 15 18],
              .token ">" 18 19]],
        .token "[" 19 20, .token "]" 20 21]).1

/-- Both the key and the value of the map are misfits, and the error is that of the key. -/
theorem resolve_first_misfit_union :
    TextsDecode unionTree ∧
      (∃ m, FirstMisfit unionTree [.element, .key] m .array) ∧
      (∃ m, Misfit unionTree [.element, .value] m .map) ∧
      resolve unionTree = .error (.arity "array" 1 0
        ⟨some "array_type", "array_type", "number[]", some ⟨0, 4⟩⟩) := by
  have hdecode : TextsDecode unionTree := by
    intro m hm
    have hall : ∀ m ∈ unionTree.nodes, (textOf m).isOk := by decide +kernel
    exact Outcome.isOk_iff.mp (hall m hm)
  have hroot : Wraps unionTree .array := by decide +kernel
  obtain ⟨g, hg⟩ := List.length_eq_one_iff.mp
    (show (usable unionTree .array).length = 1 by decide +kernel)
  have hmap : ∀ g ∈ usable unionTree .array, Wraps g .map ∧ (usable g .map).length = 2 := by
    decide +kernel
  obtain ⟨hgmap, hlength⟩ := hmap g (by simp [hg])
  obtain ⟨a, b, hab⟩ := List.length_eq_two.mp hlength
  have hkey : ∀ g ∈ usable unionTree .array, ∀ a ∈ (usable g .map).head?,
      Wraps a .array ∧ usable a .array = [] ∧
        Site.ofNode a = ⟨some "array_type", "array_type", "number[]", some ⟨0, 4⟩⟩ := by
    decide +kernel
  have hvalue : ∀ g ∈ usable unionTree .array, ∀ b ∈ (usable g .map).getLast?,
      Wraps b .map ∧ usable b .map = [] := by
    decide +kernel
  obtain ⟨ha, hanone, hsite⟩ := hkey g (by simp [hg]) a (by simp [hab])
  obtain ⟨hb, hbnone⟩ := hvalue g (by simp [hg]) b (by simp [hab])
  have hfirst : FirstMisfit unionTree [.element, .key] a .array := by
    apply FirstMisfit.element hroot hg
    apply FirstMisfit.key hgmap hab
    exact firstMisfit_self ha (by simp [hanone, Wrapper.arity])
  have hother : Misfit unionTree [.element, .value] b .map :=
    ⟨.element hroot hg (.value hgmap hab .here), hb, by simp [hbnone, Wrapper.arity]⟩
  obtain ⟨-, herror⟩ := (resolve_first_misfit hdecode).2.2 _ a .array hfirst
  rw [hanone, hsite] at herror
  exact ⟨hdecode, ⟨a, hfirst⟩, ⟨b, hother⟩, herror⟩

end ApiDecl.Reading
