import ApiDecl.Model.Export
import ApiDecl.Proofs.Additions
import ApiDecl.Proofs.Reader
import ApiDecl.Proofs.Wrappers

/-!
# Models that are read are well formed

Names come from the table, and no symbol with an empty name is ever entered, not even by an addition
that fails later on (`namesGiven_ofAdditions`). Types come from nodes: a wrapper is built around
recognized nodes only, so an unrecognized shape can stand for a whole type but never inside one
(`settled_of_resolve`). A node that a wrapper uses has a type when it is read on its own, too
(`exists_settled_of_usable`).

* `Model.WellFormed`: no name is empty, and what is recognized is so at every depth.
* `ModelJson`: what the JSON of such a model looks like, apart from how it is made.
* `readCorpus_wellFormed`: every model that is read is well formed, its JSON has this form, and a
  property is unresolved exactly if its annotation has nothing to recognize.
-/

namespace ApiDecl

open Syntax (Node)
open Corpus (Addition ofAdditions userFile levelFile sizeFile brokenFile)

/-! ## Well formed models -/

namespace Model

/-- No part of the type is unrecognized. -/
def TypeExpr.Settled : TypeExpr → Prop
  | named _ => True
  | array of => of.Settled
  | map key value => key.Settled ∧ value.Settled
  | unresolved _ _ => False

/-- The property has a name, and its type is unresolved or recognized in all its parts. -/
structure Property.WellFormed (p : Property) : Prop where
  named : p.name ≠ ""
  settled : p.isResolved → p.type.Settled

/-- The interface and its properties are well formed. -/
structure Interface.WellFormed (i : Interface) : Prop where
  named : i.name ≠ ""
  properties : ∀ p ∈ i.properties, p.WellFormed

/-- The enum and its members have names. -/
structure Enum.WellFormed (e : Enum) : Prop where
  named : e.name ≠ ""
  members : ∀ m ∈ e.members, m.name ≠ ""

/-- All interfaces and enums are well formed. -/
structure WellFormed (m : Model) : Prop where
  interfaces : ∀ i ∈ m.interfaces, i.WellFormed
  enums : ∀ e ∈ m.enums, e.WellFormed

/-! ## Their JSON -/

/-- The JSON of a type that is recognized in all its parts. -/
inductive TypeJson : Json → Prop
  | named (name : String) : TypeJson (.obj [("kind", .str "type"), ("name", .str name)])
  | array {element : Json} : TypeJson element →
      TypeJson (.obj [("kind", .str "array"), ("of", element)])
  | map {key value : Json} : TypeJson key → TypeJson value →
      TypeJson (.obj [("kind", .str "map"), ("key", key), ("value", value)])

/-- The JSON of a type that is not recognized. -/
def UnresolvedJson (j : Json) : Prop :=
  ∃ shape text,
    j = .obj [("kind", .str "unresolved"), ("node_type", .str shape), ("text", .str text)]

/-- The object has a name that is not empty. -/
def NamedJson (j : Json) : Prop := ∃ name, j.get? "name" = some (.str name) ∧ name ≠ ""

/-- The object has a list whose items are all of one sort. -/
def ListJson (key : String) (Item : Json → Prop) (j : Json) : Prop :=
  ∃ items, j.get? key = some (.arr items) ∧ ∀ item ∈ items, Item item

/-- The JSON of a property. -/
def PropertyJson (j : Json) : Prop :=
  NamedJson j ∧ ∃ type, j.get? "type" = some type ∧ (TypeJson type ∨ UnresolvedJson type)

/-- The JSON of an interface. -/
def InterfaceJson (j : Json) : Prop := NamedJson j ∧ ListJson "properties" PropertyJson j

/-- The JSON of an enum. -/
def EnumJson (j : Json) : Prop := NamedJson j ∧ ListJson "members" NamedJson j

/-- The JSON of a model. -/
def ModelJson (j : Json) : Prop :=
  ListJson "interfaces" InterfaceJson j ∧ ListJson "enums" EnumJson j

theorem typeJson_toJson {t : TypeExpr} (h : t.Settled) : TypeJson t.toJson := by
  induction t with
  | named name => exact .named name
  | array of ih => exact .array (ih h)
  | map key value ihkey ihvalue => exact .map (ihkey h.1) (ihvalue h.2)
  | unresolved shape text => exact h.elim

theorem propertyJson_toJson {p : Property} (h : p.WellFormed) : PropertyJson p.toJson := by
  refine ⟨⟨p.name, rfl, h.named⟩, p.type.toJson, rfl, ?_⟩
  cases ht : p.type with
  | unresolved shape text => exact Or.inr ⟨shape, text, rfl⟩
  | named name => exact Or.inl (.named name)
  | array of =>
    have hsettled := h.settled (by simp [Property.isResolved, ht, TypeExpr.isResolved])
    exact Or.inl (typeJson_toJson (ht ▸ hsettled))
  | map key value =>
    have hsettled := h.settled (by simp [Property.isResolved, ht, TypeExpr.isResolved])
    exact Or.inl (typeJson_toJson (ht ▸ hsettled))

theorem listJson_map {α : Type} {key : String} {Item : Json → Prop} {j : Json} {toJson : α → Json}
    {l : List α} (hj : j.get? key = some (.arr (l.map toJson))) (h : ∀ a ∈ l, Item (toJson a)) :
    ListJson key Item j := by
  refine ⟨_, hj, fun item hitem => ?_⟩
  obtain ⟨a, ha, rfl⟩ := List.mem_map.mp hitem
  exact h a ha

theorem modelJson_toJson {m : Model} (h : m.WellFormed) : ModelJson m.toJson := by
  refine ⟨listJson_map rfl fun i hi => ?_, listJson_map rfl fun e he => ?_⟩
  · have hi := h.interfaces i hi
    exact ⟨⟨i.name, rfl, hi.named⟩,
      listJson_map rfl fun p hp => propertyJson_toJson (hi.properties p hp)⟩
  · have he := h.enums e he
    refine ⟨⟨e.name, rfl, he.named⟩, listJson_map rfl fun m hm => ?_⟩
    exact ⟨m.name, rfl, he.members m hm⟩

end Model

/-! ## Names in the table -/

/-- Every symbol of the table has a name that is not empty. -/
def SymbolTable.NamesGiven (t : SymbolTable) : Prop :=
  ∀ key symbol, t.find? key = some symbol → symbol.name ≠ ""

/-- Additions enter no empty name, not even one that fails. -/
theorem namesGiven_ofAdditions (as : List Addition) : (ofAdditions as).table.NamesGiven := by
  intro key symbol hfound
  obtain ⟨a, -, _, _, -, -, -, hne, -⟩ := Corpus.declares_of_find? hfound
  exact hne

namespace Reading

open Model (TypeExpr Property Interface Enum EnumMember ModelJson)
open Journal (Traced)
open Pattern (CharacterNames)
open Outcome (forall₂_of_map_eq)

theorem bound_ne_empty {t : SymbolTable} (ht : t.NamesGiven) {n : Node} {name : String}
    (h : Naming.bound t n = .ok name) : name ≠ "" := by
  unfold Naming.bound at h
  split at h
  · next symbol hsymbol =>
    obtain rfl := Except.ok.inj h
    exact ht _ symbol hsymbol
  · cases h

/-! ## Types -/

/-- What a recognized node is read to is recognized in all its parts. -/
theorem settled_of_resolveAs (n : Node) (kind : TypeKind) :
    ∀ t, resolveAs n kind = .ok t → t.Settled := by
  fun_induction resolveAs n kind with
  | case1 | case2 | case3 =>
    rintro t ⟨⟩
    trivial
  | case4 | case6 | case7 | case8 | case10 => rintro t ⟨⟩
  | case5 n element k _ ih =>
    intro t h
    obtain ⟨of, hof, rfl⟩ := Outcome.map_eq_ok_iff.mp h
    exact ih of hof
  | case9 n key kk value vk _ _ ihkey ihvalue =>
    intro t h
    rw [seq_eq_bind_map] at h
    obtain ⟨f, hf, h⟩ := Outcome.bind_eq_ok_iff.mp h
    obtain ⟨k, hk, rfl⟩ := Outcome.map_eq_ok_iff.mp hf
    obtain ⟨v, hv, rfl⟩ := Outcome.map_eq_ok_iff.mp h
    exact ⟨ihkey k hk, ihvalue v hv⟩
  | case11 n name _ _ =>
    intro t h
    obtain ⟨text, -, rfl⟩ := Outcome.map_eq_ok_iff.mp h
    trivial

theorem settled_of_resolve {n : Node} {t : TypeExpr} (h : resolve n = .ok (some t)) :
    t.Settled := by
  rw [resolve] at h
  obtain ⟨kind, -, h⟩ := Outcome.bind_eq_ok_iff.mp h
  cases kind with
  | none => cases h
  | some kind =>
    obtain ⟨t', ht', he⟩ := Outcome.map_eq_ok_iff.mp h
    obtain rfl := Option.some.inj he
    exact settled_of_resolveAs n kind t' ht'

/-- What a wrapper uses is read to a type, never to none, when it is read as a node of its own: the
shape that it was recognized by is found once more, and so on inside it. -/
theorem exists_settled_of_usable {n c : Node} {w : Wrapper} (hc : c ∈ usable n w)
    {type : Option TypeExpr} (h : resolve c = .ok type) : ∃ t, type = some t ∧ t.Settled := by
  cases type with
  | none =>
    have hrecognized : isRecognized c := (List.mem_filter.mp hc).2
    rw [isRecognized, resolve_eq_none_iff.mp h] at hrecognized
    cases hrecognized
  | some t => exact ⟨t, rfl, settled_of_resolve h⟩

theorem isResolved_of_settled {t : TypeExpr} (h : t.Settled) : t.isResolved := by
  cases t with
  | unresolved shape text => exact h.elim
  | _ => rfl

/-- The annotation of a property has nothing to recognize: no named node but comments, or a first
one that has no shape. -/
def Untyped (n : Node) : Prop :=
  (∀ a, n.childInField "type" = some a → ∀ c ∈ a.namedChildren, c.kind = .comment) ∨
    ∃ a before c after, n.childInField "type" = some a ∧ a.namedChildren = before ++ c :: after ∧
      (∀ b ∈ before, b.kind = .comment) ∧ c.kind ≠ .comment ∧ classify c = .ok none

theorem annotatedType_eq_none_iff {n : Node} :
    annotatedType n = none ↔
      ∀ a, n.childInField "type" = some a → ∀ c ∈ a.namedChildren, c.kind = .comment := by
  unfold annotatedType
  cases n.childInField "type" with
  | none => simp
  | some a => simp

theorem annotatedType_eq_some_iff {n c : Node} :
    annotatedType n = some c ↔
      ∃ a before after, n.childInField "type" = some a ∧ a.namedChildren = before ++ c :: after ∧
        (∀ b ∈ before, b.kind = .comment) ∧ c.kind ≠ .comment := by
  unfold annotatedType
  constructor
  · intro h
    obtain ⟨a, ha, hc⟩ := Option.bind_eq_some_iff.mp h
    obtain ⟨hkind, before, after, hsplit, hbefore⟩ := List.find?_eq_some_iff_append.mp hc
    exact ⟨a, before, after, ha, hsplit, by simpa using hbefore, by simpa using hkind⟩
  · rintro ⟨a, before, after, ha, hsplit, hbefore, hkind⟩
    refine Option.bind_eq_some_iff.mpr ⟨a, ha, List.find?_eq_some_iff_append.mpr ?_⟩
    exact ⟨by simpa using hkind, before, after, hsplit, by simpa using hbefore⟩

theorem untyped_iff {n : Node} :
    Untyped n ↔ annotatedType n = none ∨
      ∃ c, annotatedType n = some c ∧ classify c = .ok none := by
  rw [Untyped, annotatedType_eq_none_iff]
  refine or_congr_right ⟨?_, ?_⟩
  · rintro ⟨a, before, c, after, ha, hsplit, hbefore, hkind, hnone⟩
    exact ⟨c, annotatedType_eq_some_iff.mpr ⟨a, before, after, ha, hsplit, hbefore, hkind⟩, hnone⟩
  · rintro ⟨c, hc, hnone⟩
    obtain ⟨a, before, after, ha, hsplit, hbefore, hkind⟩ := annotatedType_eq_some_iff.mp hc
    exact ⟨a, before, c, after, ha, hsplit, hbefore, hkind, hnone⟩

/-- The type of a property: unresolved when there is nothing to recognize, and otherwise what the
node is read to. -/
theorem propertyType_cases {name : String} {n : Node} {type : TypeExpr}
    (h : (propertyType name n).outcome = .ok type) :
    (Untyped n ∧ type.isResolved = false) ∨ (¬ Untyped n ∧ type.Settled) := by
  unfold propertyType at h
  rw [untyped_iff]
  cases ha : annotatedType n with
  | none =>
    rw [ha] at h
    obtain rfl := Except.ok.inj h
    exact Or.inl ⟨Or.inl rfl, rfl⟩
  | some typeNode =>
    simp only [ha, Traced.outcome_bind, Traced.outcome_ofExcept] at h
    obtain ⟨resolved, hresolved, h⟩ := Outcome.bind_eq_ok_iff.mp h
    cases resolved with
    | some t =>
      obtain rfl := Except.ok.inj h
      refine Or.inr ⟨?_, settled_of_resolve hresolved⟩
      rintro (h | ⟨other, hother, hnone⟩)
      · cases h
      · obtain rfl := Option.some.inj hother
        rw [resolve_eq_none_iff.mpr hnone] at hresolved
        cases hresolved
    | none =>
      refine Or.inl ⟨Or.inr ⟨typeNode, rfl, resolve_eq_none_iff.mp hresolved⟩, ?_⟩
      simp only [Traced.outcome_bind, Traced.outcome_ofExcept, Traced.outcome_note,
        Outcome.ok_bind, Traced.outcome_pure] at h
      obtain ⟨text, -, h⟩ := Outcome.bind_eq_ok_iff.mp h
      obtain rfl := Except.ok.inj h
      rfl

/-! ## Builders -/

section Builders

variable {t : SymbolTable} (ht : t.NamesGiven)

include ht

theorem wellFormed_buildProperty {n : Node} {p : Property}
    (h : (buildProperty t .bound n).outcome = .ok p) : p.WellFormed := by
  obtain ⟨hname, htype⟩ := buildProperty_eq_ok h
  refine ⟨bound_ne_empty ht hname, fun hresolved => ?_⟩
  rcases propertyType_cases htype with ⟨-, hunresolved⟩ | ⟨-, hsettled⟩
  · rw [Property.isResolved, hunresolved] at hresolved
    cases hresolved
  · exact hsettled

theorem wellFormed_buildInterface {n : Node} {i : Interface}
    (h : (buildInterface t .bound n).outcome = .ok i) : i.WellFormed := by
  obtain ⟨hname, hproperties⟩ := buildInterface_eq_ok h
  refine ⟨bound_ne_empty ht hname, fun p hp => ?_⟩
  obtain ⟨m, -, hm⟩ := Outcome.exists_of_mem_ok hproperties hp
  exact wellFormed_buildProperty ht hm

theorem wellFormed_buildEnum {n : Node} {e : Enum}
    (h : (buildEnum t .bound n).outcome = .ok e) : e.WellFormed := by
  obtain ⟨hname, hmembers⟩ := buildEnum_eq_ok h
  refine ⟨bound_ne_empty ht hname, fun member hmember => ?_⟩
  obtain ⟨m, -, hm⟩ := Outcome.exists_of_mem_ok hmembers hmember
  simp only [buildMember, Traced.outcome_bind, Traced.outcome_ofExcept] at hm
  obtain ⟨name, hname, hm⟩ := Outcome.bind_eq_ok_iff.mp hm
  obtain rfl := Except.ok.inj hm
  exact bound_ne_empty ht hname

end Builders

theorem isResolved_eq_false_iff {t : SymbolTable} {n : Node} {p : Property}
    (h : (buildProperty t .bound n).outcome = .ok p) : p.isResolved = false ↔ Untyped n := by
  rcases propertyType_cases (buildProperty_eq_ok h).2 with ⟨huntyped, hnot⟩ | ⟨huntyped, hsettled⟩
  · exact iff_of_true hnot huntyped
  · refine iff_of_false ?_ huntyped
    rw [Property.isResolved, isResolved_of_settled hsettled]
    simp

/-! ## Readings -/

/-- The interfaces and enums that a reading yields are built from the declarations, one by one. -/
theorem readCorpus_eq_ok [CharacterNames] {c : Corpus} {inclusion exclusion : Option String}
    {s : Selection} (hs : selectionOf inclusion exclusion = .ok s) {r : Result}
    (h : (readCorpus c inclusion exclusion).outcome = .ok r) :
    ((declared s c).filter (·.kind = .interfaceDeclaration)).map
        (fun n => (buildInterface c.table .bound n).outcome) = r.model.interfaces.map .ok ∧
      ((declared s c).filter (·.kind = .enumDeclaration)).map
        (fun n => (buildEnum c.table .bound n).outcome) = r.model.enums.map .ok := by
  rw [outcome_readCorpus hs] at h
  cases hm : (declared s c).mapM fun n => (buildEntity c.table .bound n).outcome with
  | error e =>
    rw [hm] at h
    cases h
  | ok entities =>
    rw [hm] at h
    obtain rfl := Except.ok.inj h
    exact map_builders_eq (fun n hn => isEntity_of_mem_declared hn) (Outcome.mapM_eq_ok_iff.mp hm)

/-- **Models that are read are well formed.** Over a corpus of any additions, failed ones included,
a reading that succeeds yields a model in which no name is empty and no unrecognized shape stands
inside a type. Each interface has one property for each of its property signatures, in order, and
this is unresolved exactly if the annotation has nothing to recognize. The JSON of the model has the
form of such models. -/
theorem readCorpus_wellFormed [CharacterNames] {as : List Addition}
    {inclusion exclusion : Option String} {r : Result}
    (h : (readCorpus (ofAdditions as) inclusion exclusion).outcome = .ok r) :
    r.model.WellFormed ∧
      (∃ s, selectionOf inclusion exclusion = .ok s ∧
        List.Forall₂
          (fun d i => List.Forall₂
            (fun n p => (buildProperty (ofAdditions as).table .bound n).outcome = .ok p ∧
              (p.isResolved = false ↔ Untyped n))
            (membersOf (· = .propertySignature) d) i.properties)
          ((declared s (ofAdditions as)).filter (·.kind = .interfaceDeclaration))
          r.model.interfaces) ∧
      ModelJson r.model.toJson := by
  have ht := namesGiven_ofAdditions as
  obtain ⟨s, hs⟩ := exists_selection h
  obtain ⟨hinterfaces, henums⟩ := readCorpus_eq_ok hs h
  have hwell : r.model.WellFormed := by
    constructor
    · intro i hi
      obtain ⟨d, -, hd⟩ := Outcome.exists_of_mem_ok hinterfaces hi
      exact wellFormed_buildInterface ht hd
    · intro e he
      obtain ⟨d, -, hd⟩ := Outcome.exists_of_mem_ok henums he
      exact wellFormed_buildEnum ht hd
  refine ⟨hwell, ⟨s, hs, ?_⟩, Model.modelJson_toJson hwell⟩
  refine (forall₂_of_map_eq hinterfaces).imp fun d i hi => ?_
  refine (forall₂_of_map_eq (buildInterface_eq_ok hi).2).imp fun n p hp => ?_
  exact ⟨hp, isResolved_eq_false_iff hp⟩

/-- The files of a corpus in which the addition of one fails halfway. -/
def mixedFiles : List Addition := [sizeFile, brokenFile, userFile, levelFile]

/-- The broken file leaves a symbol behind. Of the two properties that are read, the one of a nested
type is resolved and the other, a number, is not. -/
theorem readCorpus_wellFormed_mixed :
    ∃ r, (readCorpus (ofAdditions mixedFiles) none none).outcome = .ok r ∧
      r.model.interfaces.map (·.properties.map (·.isResolved)) = [[true], [false]] ∧
      r.model.enums.map (·.members.map (·.name)) = [["Low", "High"]] ∧
      r.model.WellFormed ∧ ModelJson r.model.toJson := by
  obtain ⟨r, hr, hshape⟩ := Outcome.map_eq_ok_iff.mp (show
    (readCorpus (ofAdditions mixedFiles) none none).outcome.map
      (fun r => (r.model.interfaces.map (·.properties.map (·.isResolved)),
        r.model.enums.map (·.members.map (·.name)))) = .ok ([[true], [false]], [["Low", "High"]]) by
    decide +kernel)
  obtain ⟨hinterfaces, henums⟩ := Prod.mk.inj hshape
  obtain ⟨hwell, -, hjson⟩ := readCorpus_wellFormed hr
  exact ⟨r, hr, hinterfaces, henums, hwell, hjson⟩

end Reading

end ApiDecl
