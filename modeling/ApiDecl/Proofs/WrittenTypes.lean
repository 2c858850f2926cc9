import ApiDecl.Proofs.TypeNodes
import ApiDecl.Proofs.Utf8

/-!
# Which written types are read back

`Writes n t` says that a node writes a type down as the grammar does. It leaves open where the node
stands, what punctuation it has and which text a wrapper covers, so a type is written by many nodes;
every type without unrecognized shapes and without a plain reference called `map` has one
(`writes_write`).

Reading a map counts the operands of its operands as candidates. So a map is read back only when its
key and its value have no operands, that is, when both are names. `resolve_written` says that the
types all of whose maps are of this sort are read back, and which error any other type gives: the
one of its outermost map that has something else as key or value.
-/

namespace ApiDecl.Model.TypeExpr

/-- Is the type a name? -/
def isName : TypeExpr → Bool
  | named _ => true
  | _ => false

/-- The number of operands of a type. -/
def operandCount : TypeExpr → Nat
  | named _ => 0
  | array _ => 1
  | map _ _ => 2
  | unresolved _ _ => 0

/-- From a wrapper to one of its parts. -/
inductive Turn
  | element
  | key
  | value
deriving DecidableEq, Repr

/-- The part of a type at an address. -/
def at? : TypeExpr → List Turn → Option TypeExpr
  | t, [] => some t
  | array t, .element :: rest => t.at? rest
  | map k _, .key :: rest => k.at? rest
  | map _ v, .value :: rest => v.at? rest
  | _, _ :: _ => none

/-- The part at the address is a map with something else than a name as key or value. -/
def NestedMapAt (t : TypeExpr) (address : List Turn) (k v : TypeExpr) : Prop :=
  t.at? address = some (.map k v) ∧ ¬ (k.isName ∧ v.isName)

/-- The address is that of the outermost such map: all others lie at or below it. -/
def OutermostNestedMap (t : TypeExpr) (address : List Turn) (k v : TypeExpr) : Prop :=
  t.NestedMapAt address k v ∧ ∀ other k' v', t.NestedMapAt other k' v' → address <+: other

/-- Every map in the type has names as key and value. -/
def FlatMaps (t : TypeExpr) : Prop := ∀ address k v, ¬ t.NestedMapAt address k v

/-- The types that can be written: no part is unrecognized or a plain reference called `map`. -/
def Writable : TypeExpr → Prop
  | named name => name ≠ Reading.mapName
  | array t => t.Writable
  | map k v => k.Writable ∧ v.Writable
  | unresolved _ _ => False

/-- The keyword that is written for a name. -/
def keyword? : String → Option String
  | "string" => some "string"
  | "boolean" => some "boolean"
  | "object" => some "any"
  | _ => none

theorem at?_named_cons (name : String) (turn : Turn) (rest : List Turn) :
    (named name).at? (turn :: rest) = none := by
  cases turn <;> rfl

theorem flatMaps_named (name : String) : (named name).FlatMaps := by
  rintro address k v ⟨hat, -⟩
  cases address with
  | nil => cases hat
  | cons turn rest =>
    rw [at?_named_cons] at hat
    cases hat

theorem nestedMapAt_array {t k v : TypeExpr} {address : List Turn} :
    (array t).NestedMapAt address k v ↔
      ∃ rest, address = .element :: rest ∧ t.NestedMapAt rest k v := by
  constructor
  · rintro ⟨hat, hnested⟩
    cases address with
    | nil => cases hat
    | cons turn rest =>
      cases turn with
      | element => exact ⟨rest, rfl, hat, hnested⟩
      | key => cases hat
      | value => cases hat
  · rintro ⟨rest, rfl, hat, hnested⟩
    exact ⟨hat, hnested⟩

theorem flatMaps_array {t : TypeExpr} : (array t).FlatMaps ↔ t.FlatMaps := by
  constructor
  · intro h address k v hat
    exact h _ k v (nestedMapAt_array.mpr ⟨address, rfl, hat⟩)
  · intro h address k v hat
    obtain ⟨rest, rfl, hat⟩ := nestedMapAt_array.mp hat
    exact h rest k v hat

theorem isName_iff {t : TypeExpr} : t.isName ↔ ∃ name, t = named name := by
  cases t <;> simp [isName]

/-- A map all of whose maps are flat is one of names, and these have no parts. -/
theorem flatMaps_map {k v : TypeExpr} : (map k v).FlatMaps ↔ k.isName ∧ v.isName := by
  constructor
  · intro h
    by_contra hnested
    exact h [] k v ⟨rfl, hnested⟩
  · rintro ⟨hk, hv⟩ address k' v' ⟨hat, hnested⟩
    obtain ⟨name, rfl⟩ := isName_iff.mp hk
    obtain ⟨name', rfl⟩ := isName_iff.mp hv
    cases address with
    | nil =>
      cases hat
      exact hnested ⟨hk, hv⟩
    | cons turn rest =>
      cases turn with
      | element => cases hat
      | key => exact flatMaps_named name rest k' v' ⟨hat, hnested⟩
      | value => exact flatMaps_named name' rest k' v' ⟨hat, hnested⟩

theorem OutermostNestedMap.unique {t k v k' v' : TypeExpr} {address address' : List Turn}
    (h : t.OutermostNestedMap address k v) (h' : t.OutermostNestedMap address' k' v') :
    address' = address ∧ k' = k ∧ v' = v := by
  obtain rfl : address' = address :=
    (h'.2 _ _ _ h.1).sublist.antisymm (h.2 _ _ _ h'.1).sublist
  have hparts := h'.1.1.symm.trans h.1.1
  simpa using hparts

end ApiDecl.Model.TypeExpr

namespace ApiDecl.Reading

open Syntax (Node Info Kind Sketch)
open Model (TypeExpr)
open Model.TypeExpr (Turn keyword? at? operandCount)

/-! ## Nodes that write types -/

/-- The node writes the type down as the grammar does. -/
inductive Writes : Node → TypeExpr → Prop
  /-- A primitive. -/
  | keyword {n : Node} {name word : String} : keyword? name = some word →
      n.kind = .predefinedType → n.info.text = Text.Utf8.encode word → Writes n (.named name)
  /-- A reference by its name. -/
  | name {n : Node} {name : String} : keyword? name = none → name ≠ mapName →
      n.kind = .typeIdentifier → n.children = [] → n.info.text = Text.Utf8.encode name →
      Writes n (.named name)
  /-- An array, with its element as the one named child. -/
  | array {n c : Node} {t : TypeExpr} : n.kind = .arrayType → n.namedChildren = [c] →
      Writes c t → Writes n (.array t)
  /-- A generic called `map`, with the key and the value as its arguments. -/
  | map {n name arguments a b : Node} {k v : TypeExpr} : n.kind = .genericType →
      n.namedChildren = [name, arguments] → n.nameChild = some name →
      name.kind = .typeIdentifier → name.info.text = Text.Utf8.encode mapName →
      arguments.kind = .typeArguments → arguments.namedChildren = [a, b] →
      Writes a k → Writes b v → Writes n (.map k v)

/-- The node at an address: the child of an array, or an argument of a generic. -/
def nodeAt? (n : Node) : List Turn → Option Node
  | [] => some n
  | .element :: rest => do nodeAt? (← n.namedChildren[0]?) rest
  | .key :: rest => do nodeAt? (← (← n.namedChildren[1]?).namedChildren[0]?) rest
  | .value :: rest => do nodeAt? (← (← n.namedChildren[1]?).namedChildren[1]?) rest

theorem textOf_of_encode {n : Node} {s : String} (h : n.info.text = Text.Utf8.encode s) :
    textOf n = .ok s := by
  rw [textOf, Node.text, h, Text.Utf8.decode_encode]
  rfl

theorem keyword?_eq_some {name word : String} (h : keyword? name = some word) :
    ∃ k, TypeKind.ofKeyword word = some k ∧ ∀ n, resolveAs n k = .ok (.named name) := by
  unfold keyword? at h
  split at h
  · cases h
    exact ⟨.string, rfl, fun n => by rw [resolveAs]⟩
  · cases h
    exact ⟨.boolean, rfl, fun n => by rw [resolveAs]⟩
  · cases h
    exact ⟨.any, rfl, fun n => by rw [resolveAs]⟩
  · cases h

namespace Writes

theorem exists_classify {n : Node} {t : TypeExpr} (h : Writes n t) :
    ∃ k, classify n = .ok (some k) := by
  cases h with
  | keyword hword hn htext =>
    obtain ⟨k, hk, -⟩ := keyword?_eq_some hword
    refine ⟨k, ?_⟩
    rw [classify_keyword hn, textOf_of_encode htext]
    exact congrArg Except.ok hk
  | name _ _ hn _ _ => exact ⟨_, classify_reference (by rw [hn]; rfl)⟩
  | array hn _ _ => exact ⟨_, classify_array hn⟩
  | map hn _ _ _ _ _ _ _ _ => exact ⟨_, classify_reference (by rw [hn]; rfl)⟩

theorem exists_element {n c : Node} {t : TypeExpr} (hc : n.namedChildren = [c])
    (ht : Writes c t) : ∃ k, recognized n.namedChildren = .ok [(c, k)] := by
  obtain ⟨k, hk⟩ := ht.exists_classify
  refine ⟨k, ?_⟩
  rw [hc, recognized_cons_of_some hk]
  rfl

theorem isName_of_operandCount {n : Node} {t : TypeExpr} (h : Writes n t)
    (hcount : t.operandCount = 0) : t.isName := by
  cases h with
  | keyword => rfl
  | name => rfl
  | array => cases hcount
  | map => cases hcount

theorem operands_map {n name arguments a b : Node} (hn : n.kind = .genericType)
    (hchildren : n.namedChildren = [name, arguments]) (hname : name.kind = .typeIdentifier)
    (harguments : arguments.kind = .typeArguments) (hab : arguments.namedChildren = [a, b]) :
    operands n = [a, b] := by
  simp [operands, hn, hchildren, hname, harguments, hab]

/-- The operands of a node that writes a type are all recognized, and there are as many as the type
has. -/
theorem exists_recognized_operands {n : Node} {t : TypeExpr} (h : Writes n t) :
    ∃ found, recognized (operands n) = .ok found ∧ found.length = t.operandCount := by
  cases h with
  | keyword _ hn _ =>
    have hnone : operands n = [] := by simp [operands, hn]
    exact ⟨[], by rw [hnone]; rfl, rfl⟩
  | name _ _ hn _ _ =>
    have hnone : operands n = [] := by simp [operands, hn, Kind.isReference]
    exact ⟨[], by rw [hnone]; rfl, rfl⟩
  | array hn hc ht =>
    obtain ⟨k, hfound⟩ := exists_element hc ht
    have hone : operands n = n.namedChildren := by simp [operands, hn, Kind.isReference]
    exact ⟨_, by rw [hone, hfound], rfl⟩
  | map hn hchildren _ hname _ harguments hab ha hb =>
    obtain ⟨ka, hka⟩ := ha.exists_classify
    obtain ⟨kb, hkb⟩ := hb.exists_classify
    rw [operands_map hn hchildren hname harguments hab, recognized_cons_of_some hka,
      recognized_cons_of_some hkb]
    exact ⟨[(_, ka), (_, kb)], rfl, rfl⟩

/-- The candidates of a map are the key with its operands and the value with its operands. -/
theorem exists_candidates {a b : Node} {k v : TypeExpr} (ha : Writes a k) (hb : Writes b v) :
    ∃ ka kb fa fb, recognized ([a, b].flatMap fun a => a :: operands a) =
        .ok ((a, ka) :: fa ++ (b, kb) :: fb) ∧
      fa.length = k.operandCount ∧ fb.length = v.operandCount := by
  obtain ⟨ka, hka⟩ := ha.exists_classify
  obtain ⟨kb, hkb⟩ := hb.exists_classify
  obtain ⟨fa, hfa, hla⟩ := ha.exists_recognized_operands
  obtain ⟨fb, hfb, hlb⟩ := hb.exists_recognized_operands
  refine ⟨ka, kb, fa, fb, ?_, hla, hlb⟩
  rw [List.flatMap_cons, List.flatMap_singleton, recognized_append, recognized_cons_of_some hka,
    recognized_cons_of_some hkb, hfa, hfb]
  rfl

theorem resolve_named {n : Node} {name : String} (h : Writes n (.named name)) :
    resolve n = .ok (some (.named name)) := by
  cases h with
  | keyword hword hn htext =>
    obtain ⟨k, hk, hresolve⟩ := keyword?_eq_some hword
    have hclassify : classify n = .ok (some k) := by
      rw [classify_keyword hn, textOf_of_encode htext]
      exact congrArg Except.ok hk
    rw [resolve_of_classify hclassify, hresolve]
    rfl
  | name _ hmap hn _ htext =>
    have href : referenceName n = .ok name := by
      rw [referenceName, if_neg (by simp [hn]), textOf_of_encode htext]
    rw [resolve_of_classify (classify_reference (by rw [hn]; rfl)), resolveAs, href]
    dsimp only
    rw [if_neg hmap, textOf_of_encode htext]
    rfl

theorem referenceName_map {n name : Node} (hn : n.kind = .genericType)
    (hname : n.nameChild = some name) (htext : name.info.text = Text.Utf8.encode mapName) :
    referenceName n = .ok mapName := by
  rw [referenceName, if_pos hn, Node.bearer, hname]
  exact textOf_of_encode htext

theorem resolve_flat {n : Node} {t : TypeExpr} (h : Writes n t) (hflat : t.FlatMaps) :
    resolve n = .ok (some t) := by
  induction h with
  | keyword hword hn htext => exact resolve_named (.keyword hword hn htext)
  | name hword hmap hn hchildren htext => exact resolve_named (.name hword hmap hn hchildren htext)
  | array hn hc ht ih =>
    obtain ⟨k, hfound⟩ := exists_element hc ht
    rw [resolve_array hn hfound, ih (Model.TypeExpr.flatMaps_array.mp hflat)]
    rfl
  | @map n name arguments a b k v hn hchildren hname hkind htext harguments hab ha hb iha ihb =>
    -- Names have no operands, so the key and the value are the only candidates.
    obtain ⟨hk, hv⟩ := Model.TypeExpr.flatMaps_map.mp hflat
    obtain ⟨kname, rfl⟩ := Model.TypeExpr.isName_iff.mp hk
    obtain ⟨vname, rfl⟩ := Model.TypeExpr.isName_iff.mp hv
    obtain ⟨ka, kb, fa, fb, hfound, hla, hlb⟩ := exists_candidates ha hb
    obtain rfl := List.eq_nil_of_length_eq_zero hla
    obtain rfl := List.eq_nil_of_length_eq_zero hlb
    rw [← operands_map hn hchildren hkind harguments hab] at hfound
    rw [resolve_map (by rw [hn]; rfl) (referenceName_map hn hname htext) hfound,
      iha (Model.TypeExpr.flatMaps_named kname), ihb (Model.TypeExpr.flatMaps_named vname)]
    rfl

/-- Any other type is an error at its outermost map that has something else than a name as key or
value. -/
theorem resolve_nested {n : Node} {t : TypeExpr} (h : Writes n t) (hnested : ¬ t.FlatMaps) :
    ∃ address k v m, t.OutermostNestedMap address k v ∧ nodeAt? n address = some m ∧
      resolve n = .error (.arity "map" 2 (2 + k.operandCount + v.operandCount) (.ofNode m)) := by
  induction h with
  | @keyword _ name _ _ _ _ => exact absurd (Model.TypeExpr.flatMaps_named name) hnested
  | @name _ name _ _ _ _ _ => exact absurd (Model.TypeExpr.flatMaps_named name) hnested
  | @array n c t hn hc ht ih =>
    rw [Model.TypeExpr.flatMaps_array] at hnested
    obtain ⟨address, k, v, m, ⟨hat, houter⟩, hm, herror⟩ := ih hnested
    obtain ⟨kind, hfound⟩ := exists_element hc ht
    refine ⟨.element :: address, k, v, m,
      ⟨Model.TypeExpr.nestedMapAt_array.mpr ⟨_, rfl, hat⟩, fun other k' v' hother => ?_⟩, ?_, ?_⟩
    · obtain ⟨rest, rfl, hrest⟩ := Model.TypeExpr.nestedMapAt_array.mp hother
      exact List.cons_prefix_cons.mpr ⟨rfl, houter rest k' v' hrest⟩
    · simpa [nodeAt?, hc] using hm
    · rw [resolve_array hn hfound, herror]
      rfl
  | @map n name arguments a b k v hn hchildren hname hkind htext harguments hab ha hb _ _ =>
    rw [Model.TypeExpr.flatMaps_map] at hnested
    obtain ⟨ka, kb, fa, fb, hfound, hla, hlb⟩ := exists_candidates ha hb
    rw [← operands_map hn hchildren hkind harguments hab] at hfound
    have hlength : ((a, ka) :: fa ++ (b, kb) :: fb).length =
        2 + k.operandCount + v.operandCount := by
      simp only [List.length_append, List.length_cons, hla, hlb]
      omega
    -- Two candidates are left only if neither the key nor the value has operands.
    have hne : ((a, ka) :: fa ++ (b, kb) :: fb).length ≠ 2 := by
      intro htwo
      refine hnested ⟨?_, ?_⟩
      · exact isName_of_operandCount ha (by omega)
      · exact isName_of_operandCount hb (by omega)
    refine ⟨[], k, v, n, ⟨⟨rfl, hnested⟩, fun other _ _ _ => List.nil_prefix⟩, rfl, ?_⟩
    rw [resolve_map_of_length_ne (by rw [hn]; rfl) (referenceName_map hn hname htext) hfound hne,
      hlength]
    push_cast
    rfl

theorem writes_nodeAt {n m : Node} {t u : TypeExpr} (h : Writes n t) {address : List Turn}
    (hat : t.at? address = some u) (hm : nodeAt? n address = some m) : Writes m u := by
  induction h generalizing address with
  | @keyword n name word hword hn htext =>
    cases address with
    | nil =>
      cases hat
      cases hm
      exact .keyword hword hn htext
    | cons turn rest => simp [Model.TypeExpr.at?_named_cons] at hat
  | @name n name hword hmap hn hchildren htext =>
    cases address with
    | nil =>
      cases hat
      cases hm
      exact .name hword hmap hn hchildren htext
    | cons turn rest => simp [Model.TypeExpr.at?_named_cons] at hat
  | @array n c t hn hc ht ih =>
    match address with
    | [] =>
      cases hat
      cases hm
      exact .array hn hc ht
    | .element :: rest => exact ih hat (by simpa [nodeAt?, hc] using hm)
  | @map n name arguments a b k v hn hchildren hname hkind htext harguments hab ha hb iha ihb =>
    match address with
    | [] =>
      cases hat
      cases hm
      exact .map hn hchildren hname hkind htext harguments hab ha hb
    | .key :: rest => exact iha hat (by simpa [nodeAt?, hchildren, hab] using hm)
    | .value :: rest => exact ihb hat (by simpa [nodeAt?, hchildren, hab] using hm)

end Writes

/-! ## Every type can be written -/

/-- A node that comes from no source. -/
def freeNode (kind : Kind) (field : Option String) (text : List UInt8) (children : List Node) :
    Node :=
  .mk { id := 0, kind, start := 0, stop := text.length, named := true, missing := false, field,
        text, startPoint := none, stopRow := 0 } children

/-- A node that writes the type. -/
def write : TypeExpr → Node
  | .named name =>
    match keyword? name with
    | some word => freeNode .predefinedType none (Text.Utf8.encode word) []
    | none => freeNode .typeIdentifier none (Text.Utf8.encode name) []
  | .array t => freeNode .arrayType none ((write t).info.text ++ Text.Utf8.encode "[]") [write t]
  | .map k v =>
    let between := (write k).info.text ++ Text.Utf8.encode ", " ++ (write v).info.text
    let arguments := Text.Utf8.encode "<" ++ between ++ Text.Utf8.encode ">"
    freeNode .genericType none (Text.Utf8.encode mapName ++ arguments)
      [freeNode .typeIdentifier (some "name") (Text.Utf8.encode mapName) [],
        freeNode .typeArguments none arguments [write k, write v]]
  | .unresolved _ text => freeNode .error none (Text.Utf8.encode text) []

theorem write_named (t : TypeExpr) : (write t).info.named := by
  cases t with
  | named name =>
    rw [write]
    split <;> rfl
  | array t => rfl
  | map k v => rfl
  | unresolved shape text => rfl

theorem writes_write {t : TypeExpr} (h : t.Writable) : Writes (write t) t := by
  induction t with
  | named name =>
    rw [write]
    split
    · next word hword => exact .keyword hword rfl rfl
    · next hword => exact .name hword h rfl rfl rfl
  | array t ih =>
    refine .array rfl ?_ (ih h)
    simp [write, freeNode, Node.namedChildren, Node.children, write_named]
  | map k v ihk ihv =>
    refine .map rfl rfl rfl rfl rfl rfl ?_ (ihk h.1) (ihv h.2)
    simp [freeNode, Node.namedChildren, Node.children, write_named]
  | unresolved shape text => exact h.elim

/-- **Which written types are read back.** A type that can be written is written by some node. For
every node that writes it: when all its maps have names as keys and values, reading the node gives
the type back. Otherwise there is an outermost map that has something else as key or value, and
reading fails at the node of this map, having seen two candidates and the operands of its key and
its value. -/
theorem resolve_written {t : TypeExpr} (ht : t.Writable) :
    (∃ n, Writes n t) ∧ ∀ n, Writes n t →
      (t.FlatMaps → resolve n = .ok (some t)) ∧
      (¬ t.FlatMaps → ∃ address k v, t.OutermostNestedMap address k v) ∧
      ∀ address k v, t.OutermostNestedMap address k v →
        ∃ m, nodeAt? n address = some m ∧ Writes m (.map k v) ∧
          resolve n =
            .error (.arity "map" 2 (2 + k.operandCount + v.operandCount) (.ofNode m)) := by
  refine ⟨⟨write t, writes_write ht⟩, fun n hn => ⟨hn.resolve_flat, fun hnested => ?_, ?_⟩⟩
  · obtain ⟨address, k, v, -, houter, -⟩ := hn.resolve_nested hnested
    exact ⟨address, k, v, houter⟩
  · intro address k v houter
    -- The outermost map is unique, so it is the one that the induction found.
    have hnested : ¬ t.FlatMaps := fun hflat => hflat address k v houter.1
    obtain ⟨address', k', v', m, houter', hm, herror⟩ := hn.resolve_nested hnested
    obtain ⟨rfl, rfl, rfl⟩ := houter.unique houter'
    exact ⟨m, hm, hn.writes_nodeAt houter'.1.1 hm, herror⟩

/-- A list of maps, whose values are lists. -/
def nestedType : TypeExpr := .array (.map (.named "string") (.array (.named "Foo")))

/-- The tree of `map<string, Foo[]>[]`. -/
def nestedTree : Node :=
  (Sketch.place (Text.Utf8.encode "map<string, Foo[]>[]") 0 <|
    .inner .arrayType 0 20
      [.inner .genericType 0 18
        [.nameLeaf .typeIdentifier 0 3,
          .inner .typeArguments 3 18
            [.token "<" 3 4, .leaf .predefinedType 4 10, .token "," 10 11,
              .inner .arrayType 12 17
                [.leaf .typeIdentifier 12 15, .token "[" 15 16, .token "]" 16 17],
              .token ">" 17 18]],
        .token "[" 18 19, .token "]" 19 20]).1

/-- A list of maps, whose values are names. -/
def flatType : TypeExpr := .array (.map (.named "string") (.named "Foo"))

/-- The tree of `map<string, Foo>[]`. -/
def flatTree : Node :=
  (Sketch.place (Text.Utf8.encode "map<string, Foo>[]") 0 <|
    .inner .arrayType 0 18
      [.inner .genericType 0 16
        [.nameLeaf .typeIdentifier 0 3,
          .inner .typeArguments 3 16
            [.token "<" 3 4, .leaf .predefinedType 4 10, .token "," 10 11,
              .leaf .typeIdentifier 12 15, .token ">" 15 16]],
        .token "[" 16 17, .token "]" 17 18]).1

/-- The map of names is read back. The map with a list as its value has three candidates, and the
error names it and not the list around it. -/
theorem resolve_written_lists :
    flatType.Writable ∧ Writes flatTree flatType ∧ flatType.FlatMaps ∧
      resolve flatTree = .ok (some flatType) ∧
      nestedType.Writable ∧ Writes nestedTree nestedType ∧
      nestedType.OutermostNestedMap [.element] (.named "string") (.array (.named "Foo")) ∧
      resolve nestedTree = .error (.arity "map" 2 3
        ⟨some "generic_type", "generic_type", "map<string, Foo[]>", some ⟨0, 0⟩⟩) := by
  have hnames : "string" ≠ mapName ∧ "Foo" ≠ mapName := by decide
  have hflat : flatType.FlatMaps :=
    Model.TypeExpr.flatMaps_array.mpr (Model.TypeExpr.flatMaps_map.mpr ⟨rfl, rfl⟩)
  have houter :
      nestedType.OutermostNestedMap [.element] (.named "string") (.array (.named "Foo")) := by
    refine ⟨⟨rfl, by decide⟩, fun other k v h => ?_⟩
    obtain ⟨rest, rfl, -⟩ := Model.TypeExpr.nestedMapAt_array.mp h
    exact List.cons_prefix_cons.mpr ⟨rfl, List.nil_prefix⟩
  have hwflat : Writes flatTree flatType :=
    .array rfl rfl
      (.map rfl rfl rfl rfl rfl rfl rfl (.keyword rfl rfl rfl) (.name rfl hnames.2 rfl rfl rfl))
  have hwnested : Writes nestedTree nestedType :=
    .array rfl rfl
      (.map rfl rfl rfl rfl rfl rfl rfl (.keyword rfl rfl rfl)
        (.array rfl rfl (.name rfl hnames.2 rfl rfl rfl)))
  have hwritable : flatType.Writable := hnames
  have hwritable' : nestedType.Writable := hnames
  obtain ⟨hread, -, -⟩ := (resolve_written hwritable).2 flatTree hwflat
  obtain ⟨-, -, herror⟩ := (resolve_written hwritable').2 nestedTree hwnested
  obtain ⟨m, hm, -, herror⟩ := herror _ _ _ houter
  have hsite : (nodeAt? nestedTree [.element]).map Site.ofNode =
      some ⟨some "generic_type", "generic_type", "map<string, Foo[]>", some ⟨0, 0⟩⟩ := by
    decide +kernel
  rw [hm] at hsite
  rw [Option.some.inj hsite] at herror
  exact ⟨hwritable, hwflat, hflat, hread hflat, hwritable', hwnested, houter, herror⟩

end ApiDecl.Reading
