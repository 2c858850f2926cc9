import ApiDecl.Proofs.TypeNodes
import ApiDecl.Reading.Build
import ApiDecl.Symbol.Binding

/-!
# Comments in types

A comment may stand between any two nodes of a type. `Commented` relates a tree to the same tree
with comments put in, at any depth. What is read from the two is the same.

* `Interspersed`: two lists of nodes that agree up to comments in the second one. Choosing nodes,
  looking for one and going to the operands of each keep this.
* `recognized_interspersed`: the recognized nodes of two such lists correspond, one to one.
* `resolveAs_commented`, `resolve_commented`: both trees are read to the same type or fail with the
  same error, up to the place where it was found.
* `buildProperty_commented`: the properties have the same type and are both optional or not.
-/

namespace ApiDecl

open Syntax (Node Kind Info Sketch)
open Model (TypeExpr)
open Journal (Traced)

namespace Syntax

/-! ## Trees with comments put in -/

/-- A comment without children that stands in no field. -/
structure Node.IsComment (c : Node) : Prop where
  kind : c.kind = .comment
  named : c.info.named
  field : c.info.field = none
  children : c.children = []

/-- The nodes of one list, related to those of another one, with comments in between. -/
inductive Interspersed (R : Node → Node → Prop) : List Node → List Node → Prop
  | nil : Interspersed R [] []
  | cons {n m : Node} {ns ms : List Node} : R n m → Interspersed R ns ms →
      Interspersed R (n :: ns) (m :: ms)
  | comment {c : Node} {ns ms : List Node} : c.IsComment → Interspersed R ns ms →
      Interspersed R ns (c :: ms)

/-- Two nodes are of one kind, stand in one field and have one text, wherever they are. -/
structure Info.Alike (i j : Info) : Prop where
  kind : i.kind = j.kind
  named : i.named = j.named
  field : i.field = j.field
  text : i.text = j.text

/-- The second tree is the first one with comments put in. -/
inductive Commented : Node → Node → Prop
  | mk {i j : Info} {ns ms : List Node} : i.Alike j → Interspersed Commented ns ms →
      Commented (.mk i ns) (.mk j ms)

namespace Interspersed

variable {R : Node → Node → Prop} {ns ms ns' ms' : List Node}

theorem append (h : Interspersed R ns ms) (h' : Interspersed R ns' ms') :
    Interspersed R (ns ++ ns') (ms ++ ms') := by
  induction h with
  | nil => exact h'
  | cons hr _ ih => exact .cons hr ih
  | comment hc _ ih => exact .comment hc ih

/-- Related nodes are chosen together, and a comment may be chosen or not. -/
theorem filter {p : Node → Bool} (hp : ∀ n m, R n m → p n = p m) (h : Interspersed R ns ms) :
    Interspersed R (ns.filter p) (ms.filter p) := by
  induction h with
  | nil => exact .nil
  | @cons n m _ _ hr _ ih =>
    by_cases hn : p n
    · have hm : p m := hp n m hr ▸ hn
      rw [List.filter_cons_of_pos hn, List.filter_cons_of_pos hm]
      exact .cons hr ih
    · have hm : ¬ p m := hp n m hr ▸ hn
      rw [List.filter_cons_of_neg hn, List.filter_cons_of_neg hm]
      exact ih
  | @comment c _ _ hc _ ih =>
    by_cases hp : p c
    · rw [List.filter_cons_of_pos hp]
      exact .comment hc ih
    · rw [List.filter_cons_of_neg hp]
      exact ih

theorem flatMap {f : Node → List Node} (hf : ∀ n m, R n m → Interspersed R (f n) (f m))
    (hcomment : ∀ c : Node, c.IsComment → Interspersed R [] (f c)) (h : Interspersed R ns ms) :
    Interspersed R (ns.flatMap f) (ms.flatMap f) := by
  induction h with
  | nil => exact .nil
  | @cons n m ns ms hr _ ih =>
    rw [List.flatMap_cons, List.flatMap_cons]
    exact (hf n m hr).append ih
  | @comment c ns ms hc _ ih =>
    rw [List.flatMap_cons]
    exact (hcomment c hc).append ih

/-- The first nodes with a property that no comment has are related. -/
theorem find? {p : Node → Bool} (hp : ∀ n m, R n m → p n = p m)
    (hcomment : ∀ c : Node, c.IsComment → ¬ p c) (h : Interspersed R ns ms) :
    Option.Rel R (ns.find? p) (ms.find? p) := by
  induction h with
  | nil => exact .none
  | @cons n m _ _ hr _ ih =>
    by_cases hn : p n
    · have hm : p m := hp n m hr ▸ hn
      rw [List.find?_cons_of_pos hn, List.find?_cons_of_pos hm]
      exact .some hr
    · have hm : ¬ p m := hp n m hr ▸ hn
      rw [List.find?_cons_of_neg hn, List.find?_cons_of_neg hm]
      exact ih
  | @comment c _ _ hc _ ih =>
    rw [List.find?_cons_of_neg (hcomment c hc)]
    exact ih

theorem any_eq {p : Node → Bool} (hp : ∀ n m, R n m → p n = p m)
    (hcomment : ∀ c : Node, c.IsComment → ¬ p c) (h : Interspersed R ns ms) :
    ns.any p = ms.any p := by
  induction h with
  | nil => rfl
  | @cons n m _ _ hr _ ih => rw [List.any_cons, List.any_cons, hp n m hr, ih]
  | @comment c _ _ hc _ ih =>
    have hno : p c = false := by simpa using hcomment c hc
    rw [List.any_cons, hno, Bool.false_or, ih]

end Interspersed

namespace Commented

variable {n m : Node}

theorem alike (h : Commented n m) : n.info.Alike m.info := by
  cases h with
  | mk hinfo _ => exact hinfo

theorem children (h : Commented n m) : Interspersed Commented n.children m.children := by
  cases h with
  | mk _ hchildren => exact hchildren

theorem kind_eq (h : Commented n m) : n.kind = m.kind := h.alike.kind

theorem namedChildren (h : Commented n m) :
    Interspersed Commented n.namedChildren m.namedChildren :=
  h.children.filter fun _ _ h => h.alike.named

theorem childInField (h : Commented n m) (field : String) :
    Option.Rel Commented (n.childInField field) (m.childInField field) :=
  h.children.find? (fun _ _ h => by rw [h.alike.field]) fun _ hc => by simp [hc.field]

theorem bearer (h : Commented n m) : Commented n.bearer m.bearer := by
  have hchild : Option.Rel Commented n.nameChild m.nameChild := h.childInField "name"
  unfold Node.bearer
  generalize n.nameChild = c at hchild
  generalize m.nameChild = d at hchild
  cases hchild with
  | none => exact h
  | some hc => exact hc

end Commented

end Syntax

namespace Reading

open Syntax

/-! ## Recognized nodes -/

section Commented

variable {n m : Node}

theorem textOf_commented (h : Commented n m) : textOf n = textOf m := by
  rw [textOf, textOf, Node.text, Node.text, h.alike.text]

theorem classify_commented (h : Commented n m) : classify n = classify m := by
  rw [classify, classify, textOf_commented h, h.kind_eq]

theorem referenceName_commented (h : Commented n m) : referenceName n = referenceName m := by
  rw [referenceName, referenceName, h.kind_eq]
  split
  · exact textOf_commented h.bearer
  · exact textOf_commented h

theorem operands_commented (h : Commented n m) :
    Interspersed Commented (operands n) (operands m) := by
  rw [operands, operands, h.kind_eq]
  split
  · refine (h.namedChildren.filter fun _ _ h => by rw [h.kind_eq]).flatMap
      (fun _ _ h => h.namedChildren) fun c hc => ?_
    simpa [Node.namedChildren, hc.children] using .nil
  · split
    · exact .nil
    · exact h.namedChildren

/-- A comment among the arguments is one more candidate, and has no operands. -/
theorem mapOperands_commented (h : Commented n m) :
    Interspersed Commented (mapOperands n) (mapOperands m) := by
  refine (operands_commented h).flatMap (fun _ _ h => .cons h (operands_commented h)) fun c hc => ?_
  have hnone : operands c = [] := by simp [operands, hc.kind, Kind.isReference, Node.namedChildren,
    hc.children]
  rw [hnone]
  exact .comment hc .nil

end Commented

theorem recognized_interspersed {ns ms : List Node} (h : Interspersed Commented ns ms) :
    (∃ e, recognized ns = .error e ∧ recognized ms = .error e) ∨
      ∃ found found', recognized ns = .ok found ∧ recognized ms = .ok found' ∧
        List.Forall₂ (fun a b => Commented a.1 b.1 ∧ a.2 = b.2) found found' := by
  induction h with
  | nil => exact Or.inr ⟨[], [], rfl, rfl, .nil⟩
  | @cons n m ns ms hnm _ ih =>
    rw [recognized, recognized, classify_commented hnm]
    cases classify m with
    | error e => exact Or.inl ⟨e, rfl, rfl⟩
    | ok kind =>
      rcases ih with ⟨e, hns, hms⟩ | ⟨found, found', hns, hms, hfound⟩
      · rw [hns, hms]
        exact Or.inl ⟨e, rfl, rfl⟩
      · rw [hns, hms]
        cases kind with
        | none => exact Or.inr ⟨found, found', rfl, rfl, hfound⟩
        | some k => exact Or.inr ⟨(n, k) :: found, (m, k) :: found', rfl, rfl, .cons ⟨hnm, rfl⟩ hfound⟩
  | @comment c ns ms hc _ ih =>
    have hnone : classify c = .ok none := by simp [classify, hc.kind, Kind.isReference]
    have hskip : recognized (c :: ms) = recognized ms := by
      rw [recognized, hnone]
      cases recognized ms <;> rfl
    rw [hskip]
    exact ih

/-! ## Errors without their places -/

/-- The site without its place. -/
def Site.unplaced (s : Site) : Site := { s with point := none }

/-- The error without the place where it was found. -/
def ReadError.unplaced : ReadError → ReadError
  | unbound site => unbound site.unplaced
  | arity wrapper expected actual site => arity wrapper expected actual site.unplaced
  | undecodable error => undecodable error

/-- The outcome without the place where an error was found. -/
def unplaced {α : Type} (x : Except ReadError α) : Except ReadError α := x.mapError ReadError.unplaced

theorem unplaced_bind {α β : Type} (x : Except ReadError α) (f : α → Except ReadError β) :
    unplaced (x >>= f) = unplaced x >>= fun a => unplaced (f a) := by
  cases x <;> rfl

theorem unplaced_map {α β : Type} (f : α → β) (x : Except ReadError α) :
    unplaced (f <$> x) = f <$> unplaced x := by
  cases x <;> rfl

theorem unplaced_eq_iff {α : Type} {x y : Except ReadError α} :
    unplaced x = unplaced y ↔ (∃ a, x = .ok a ∧ y = .ok a) ∨
      ∃ e e', x = .error e ∧ y = .error e' ∧ e.unplaced = e'.unplaced := by
  cases x <;> cases y <;> simp [unplaced, eq_comm]

theorem site_commented {n m : Node} (h : Commented n m) :
    (Site.ofNode n).unplaced = (Site.ofNode m).unplaced := by
  simp [Site.ofNode, Site.unplaced, Node.kindName, h.kind_eq, h.alike.text]

/-! ## Types -/

/-- Lists of recognized nodes that correspond, such that those of the first list are read as their
counterparts. -/
def ReadAlike (found found' : List (Node × TypeKind)) : Prop :=
  List.Forall₂ (fun a b => unplaced (resolveAs a.1 a.2) = unplaced (resolveAs b.1 b.2)) found found'

theorem arrayOf_commented {n m : Node} (h : Commented n m) {found found' : List (Node × TypeKind)}
    (hfound : ReadAlike found found') : unplaced (arrayOf n found) = unplaced (arrayOf m found') := by
  cases hfound with
  | nil => simp [arrayOf, unplaced, ReadError.unplaced, site_commented h]
  | cons hhead htail =>
    cases htail with
    | nil => rw [arrayOf, arrayOf, unplaced_map, unplaced_map, hhead]
    | cons _ htail =>
      simp [arrayOf, unplaced, ReadError.unplaced, site_commented h, htail.length_eq]

theorem mapOf_commented {n m : Node} (h : Commented n m) {found found' : List (Node × TypeKind)}
    (hfound : ReadAlike found found') : unplaced (mapOf n found) = unplaced (mapOf m found') := by
  cases hfound with
  | nil => simp [mapOf, unplaced, ReadError.unplaced, site_commented h]
  | cons hkey htail =>
    cases htail with
    | nil => simp [mapOf, unplaced, ReadError.unplaced, site_commented h]
    | cons hvalue htail =>
      cases htail with
      | nil =>
        rw [mapOf, mapOf, seq_eq_bind_map, seq_eq_bind_map, unplaced_bind, unplaced_bind,
          unplaced_map, unplaced_map, hkey]
        simp only [unplaced_map, hvalue]
      | cons _ htail =>
        simp [mapOf, unplaced, ReadError.unplaced, site_commented h, htail.length_eq]

/-- What is made of the recognized nodes of two lists is the same, if it is so for nodes that are
read alike. -/
theorem unplaced_recognized_bind {ns ms : List Node} (h : Interspersed Commented ns ms)
    (hns : ∀ c ∈ ns, ∀ c' k, Commented c c' → unplaced (resolveAs c k) = unplaced (resolveAs c' k))
    {make make' : List (Node × TypeKind) → Except ReadError TypeExpr}
    (hmake : ∀ found found', ReadAlike found found' →
      unplaced (make found) = unplaced (make' found')) :
    unplaced (recognized ns >>= make) = unplaced (recognized ms >>= make') := by
  rcases recognized_interspersed h with ⟨e, hn, hm⟩ | ⟨found, found', hn, hm, hrel⟩
  · rw [hn, hm]
    rfl
  · rw [hn, hm, Outcome.ok_bind, Outcome.ok_bind]
    apply hmake
    refine ((List.forall₂_and_left found found').mpr ⟨fun _ h => h, hrel⟩).imp ?_
    rintro ⟨c, k⟩ ⟨c', _⟩ ⟨hc, hcc, rfl⟩
    exact hns c (mem_of_recognized hn hc) c' k hcc

/-- A tree is read as it is with comments put in. -/
theorem resolveAs_commented {n m : Node} (h : Commented n m) (kind : TypeKind) :
    unplaced (resolveAs n kind) = unplaced (resolveAs m kind) := by
  -- The candidates of a map need not be its children, so the induction is on the size.
  induction hsize : n.size using Nat.strongRecOn generalizing n m kind with
  | ind size ih =>
    subst hsize
    have hbelow : ∀ c : Node, c.size < n.size → ∀ c' k, Commented c c' →
        unplaced (resolveAs c k) = unplaced (resolveAs c' k) :=
      fun c hc c' k hcc => ih c.size hc hcc k rfl
    cases kind with
    | string | boolean | any => rw [resolveAs, resolveAs]
    | array =>
      rw [resolveAs_array, resolveAs_array]
      exact unplaced_recognized_bind h.namedChildren
        (fun c hc => hbelow c (Node.size_lt_of_mem_namedChildren hc)) fun _ _ => arrayOf_commented h
    | reference =>
      rw [resolveAs_reference, resolveAs_reference, referenceName_commented h, textOf_commented h,
        unplaced_bind, unplaced_bind]
      congr 1
      funext name
      split
      · exact unplaced_recognized_bind (mapOperands_commented h)
          (fun c hc => hbelow c (size_lt_of_mem_mapOperands hc)) fun _ _ => mapOf_commented h
      · rfl

theorem resolve_commented {n m : Node} (h : Commented n m) :
    unplaced (resolve n) = unplaced (resolve m) := by
  rw [resolve, resolve, classify_commented h, unplaced_bind, unplaced_bind]
  congr 1
  funext kind
  cases kind with
  | none => rfl
  | some kind => rw [unplaced_map, unplaced_map, resolveAs_commented h]

/-! ## Properties -/

theorem annotatedType_commented {n m : Node} (h : Commented n m) :
    Option.Rel Commented (annotatedType n) (annotatedType m) := by
  have hannotation := h.childInField "type"
  unfold annotatedType
  generalize n.childInField "type" = a at hannotation
  generalize m.childInField "type" = b at hannotation
  cases hannotation with
  | none => exact .none
  | some hab =>
    exact hab.namedChildren.find? (fun _ _ h => by rw [h.kind_eq]) fun c hc => by simp [hc.kind]

theorem propertyType_commented {n m : Node} (h : Commented n m) (name name' : String) :
    unplaced (propertyType name n).outcome = unplaced (propertyType name' m).outcome := by
  have htype := annotatedType_commented h
  unfold propertyType
  generalize annotatedType n = a at htype
  generalize annotatedType m = b at htype
  cases htype with
  | none => rfl
  | @some a b hab =>
    simp only [Traced.outcome_bind, Traced.outcome_ofExcept, unplaced_bind, resolve_commented hab]
    congr 1
    funext type
    cases type with
    | some type => rfl
    | none =>
      simp only [Traced.outcome_bind, Traced.outcome_ofExcept, textOf_commented hab, unplaced_bind,
        Node.kindName, hab.kind_eq]
      rfl

/-- A property has the type, and the optional mark, that it has with comments put in. Where its type
cannot be read, the error is the same up to its place. -/
theorem buildProperty_commented {n m : Node} (h : Commented n m) :
    (∀ name name', unplaced (propertyType name n).outcome =
      unplaced (propertyType name' m).outcome) ∧
    ∀ (t u : SymbolTable) (naming naming' : Naming) (name name' : String),
      naming t n = .ok name → naming' u m = .ok name' →
        (fun p => (p.type, p.optional)) <$> unplaced (buildProperty t naming n).outcome =
          (fun p => (p.type, p.optional)) <$> unplaced (buildProperty u naming' m).outcome := by
  refine ⟨propertyType_commented h, ?_⟩
  intro t u naming naming' name name' hn hm
  have hoptional : n.children.any (·.kind = .optionalMark) = m.children.any (·.kind = .optionalMark) :=
    h.children.any_eq (fun _ _ h => by rw [h.kind_eq]) fun c hc => by simp [hc.kind]
  have htype := propertyType_commented h name name'
  rw [buildProperty, buildProperty]
  simp only [Traced.outcome_bind, Traced.outcome_ofExcept, hn, hm, Outcome.ok_bind, unplaced_bind,
    htype, hoptional]
  cases unplaced (propertyType name' m).outcome <;> rfl

/-! ## A property with comments everywhere -/

mutual

/-- The tree with a comment before and after every node below its root. -/
def strew (c : Node) : Node → Node
  | .mk info children => .mk info (strewList c children)

/-- `strew` for a list of nodes, which get comments around themselves too. -/
def strewList (c : Node) : List Node → List Node
  | [] => []
  | n :: rest => c :: strew c n :: c :: strewList c rest

end

theorem commented_strew {c : Node} (hc : c.IsComment) (n : Node) : Commented n (strew c n) := by
  induction n using Node.childInduction with
  | h n ih =>
    obtain ⟨info, children⟩ := n
    rw [strew]
    refine .mk ⟨rfl, rfl, rfl, rfl⟩ ?_
    induction children with
    | nil => exact .nil
    | cons n rest ihrest =>
      rw [strewList]
      have hn := ih n List.mem_cons_self
      exact .comment hc (.cons hn (.comment hc (ihrest fun k hk => ih k (List.mem_cons_of_mem _ hk))))

/-- The source of an optional property whose type is an array of maps. -/
def tagsSource : List UInt8 := Text.Utf8.encode "tags?: map<string, Foo>[]"

/-- A property in `tagsSource` whose map has the given arguments. -/
def tagsTree (arguments : List Sketch) : Node :=
  (Sketch.place tagsSource 1 <|
    .inner .propertySignature 0 25
      [.nameLeaf .propertyIdentifier 0 4, .mk .optionalMark 4 5 false false none [],
        .mk (.other "type_annotation") 5 25 true false (some "type")
          [.token ":" 5 6, .inner .arrayType 7 25
            [.inner .genericType 7 23
              [.nameLeaf .typeIdentifier 7 10, .inner .typeArguments 10 23 arguments]]]]).1

/-- The tree of `tagsSource`. -/
def tagsOfMaps : Node := tagsTree [.leaf .predefinedType 11 17, .leaf .typeIdentifier 19 22]

/-- A tree with one argument only. -/
def tagsOfKeys : Node := tagsTree [.leaf .predefinedType 11 17]

def tagsTable (n : Node) : SymbolTable := (Binding.bindFile .empty n tagsSource).1

def remark : Node := (Sketch.place (Text.Utf8.encode "/* c */") 0 (.leaf .comment 0 7)).1

theorem isComment_remark : remark.IsComment := ⟨rfl, rfl, rfl, rfl⟩

/-- With comments everywhere, an array of maps is still one, and a map with one argument is still
an error. -/
theorem buildProperty_commented_tags :
    (∃ p q, (buildProperty (tagsTable tagsOfMaps) .bound tagsOfMaps).outcome = .ok p ∧
      (buildProperty (tagsTable (strew remark tagsOfMaps)) .bound
        (strew remark tagsOfMaps)).outcome = .ok q ∧
      (p.type, p.optional) = (.array (.map (.named "string") (.named "Foo")), true) ∧
      (q.type, q.optional) = (p.type, p.optional)) ∧
    ∃ site e, (propertyType "tags" tagsOfKeys).outcome = .error (.arity "map" 2 1 site) ∧
      (propertyType "tags" (strew remark tagsOfKeys)).outcome = .error e ∧
      e.unplaced = .arity "map" 2 1 site.unplaced := by
  constructor
  · obtain ⟨p, hp, htype⟩ : ∃ p, (buildProperty (tagsTable tagsOfMaps) .bound
        tagsOfMaps).outcome = .ok p ∧
        (p.type, p.optional) = (.array (.map (.named "string") (.named "Foo")), true) :=
      Outcome.map_eq_ok_iff.mp (by decide +kernel)
    have hsame := (buildProperty_commented (commented_strew isComment_remark tagsOfMaps)).2
      (tagsTable tagsOfMaps) (tagsTable (strew remark tagsOfMaps)) .bound .bound "tags" "tags"
      (by decide +kernel) (by decide +kernel)
    rw [hp] at hsame
    obtain ⟨q, hq, hpq⟩ := Outcome.map_eq_ok_iff.mp hsame.symm
    exact ⟨p, q, hp, Outcome.mapError_eq_ok_iff.mp hq, htype, hpq⟩
  · have hsame := (buildProperty_commented (commented_strew isComment_remark tagsOfKeys)).1
      "tags" "tags"
    have hfails : (propertyType "tags" tagsOfKeys).outcome = .error (.arity "map" 2 1
        ⟨some "generic_type", "generic_type", "map<string, Foo>", some ⟨0, 7⟩⟩) := by
      decide +kernel
    rcases unplaced_eq_iff.mp hsame with ⟨a, ha, -⟩ | ⟨e, e', he, he', hee⟩
    · rw [hfails] at ha
      cases ha
    · rw [hfails] at he
      obtain rfl := Except.error.inj he
      exact ⟨_, e', hfails, he', hee.symm⟩

end Reading

end ApiDecl
