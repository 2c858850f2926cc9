import ApiDecl.Proofs.Members
import ApiDecl.Proofs.Sites

/-!
# Names put through a function

A builder asks its naming for the name of the declaration and of every member, and reads the types in
between. What it asks for, and whether a type can be read, does not depend on the names that it gets
(`outcome_propertyType_congr`: a name goes into notes only). So a naming whose names are put through
a function gives the same entity with other names.

* `outcome_buildProperty_map`, `outcome_buildMember_map`: for one member, over any naming.
* `outcome_buildInterface_map`, `outcome_buildEnum_map`: for a whole declaration, over any naming.
* `build_renamed`: the same for the names that are bound, with the errors said apart.
-/

namespace ApiDecl.Reading

open Syntax (Node Kind)
open Model (Property Interface EnumMember Enum)
open Journal (Traced)

/-! ## Entities with other names -/

/-- The property with the name that a function makes of its node and its name. -/
def renameProperty (f : Node → String → String) (n : Node) (p : Property) : Property :=
  { p with name := f n p.name }

/-- The member of an enum with the name that a function makes of its node and its name. -/
def renameMember (f : Node → String → String) (n : Node) (m : EnumMember) : EnumMember :=
  { m with name := f n m.name }

/-- The interface of a declaration with new names, its own and those of its properties. -/
def renameInterface (f : Node → String → String) (d : Node) (i : Interface) : Interface :=
  { i with
    name := f d i.name
    properties := List.zipWith (renameProperty f) (membersOf (· = .propertySignature) d)
      i.properties }

/-- The enum of a declaration with new names, its own and those of its members. -/
def renameEnum (f : Node → String → String) (d : Node) (e : Enum) : Enum :=
  { e with
    name := f d e.name
    members := List.zipWith (renameMember f) (membersOf Kind.isEnumMember d) e.members }

/-! ## Builders -/

theorem outcome_propertyType_congr (name name' : String) (n : Node) :
    (propertyType name n).outcome = (propertyType name' n).outcome := by
  unfold propertyType
  cases annotatedType n with
  | none => rfl
  | some typeNode =>
    simp only [Traced.outcome_bind, Traced.outcome_ofExcept]
    congr 1
    funext type
    cases type with
    | some type => rfl
    | none =>
      simp only [Traced.outcome_bind, Traced.outcome_ofExcept, Traced.outcome_note,
        Outcome.ok_bind, Traced.outcome_pure]

section Naming

variable (t : SymbolTable) (f : Node → String → String) (naming : Naming) (n : Node)

theorem outcome_buildProperty_map :
    (buildProperty t (naming.map f) n).outcome =
      renameProperty f n <$> (buildProperty t naming n).outcome := by
  simp only [buildProperty, Naming.map, Traced.outcome_bind, Traced.outcome_ofExcept]
  cases naming t n with
  | error e => rfl
  | ok name =>
    show ((propertyType (f n name) n).outcome >>= _) = _
    rw [outcome_propertyType_congr (f n name) name, Outcome.ok_bind]
    cases (propertyType name n).outcome <;> rfl

theorem outcome_buildMember_map :
    (buildMember t (naming.map f) n).outcome =
      renameMember f n <$> (buildMember t naming n).outcome := by
  simp only [buildMember, Naming.map, Traced.outcome_bind, Traced.outcome_ofExcept]
  cases naming t n <;> rfl

/-- The declaration is named before its members, so a name that is missing is the same error on both
sides. -/
theorem outcome_buildInterface_map :
    (buildInterface t (naming.map f) n).outcome =
      renameInterface f n <$> (buildInterface t naming n).outcome := by
  simp only [buildInterface, Traced.outcome_bind, Traced.outcome_ofExcept, Traced.outcome_mapM,
    outcome_buildProperty_map, Outcome.mapM_zipWith]
  rw [Naming.map]
  cases naming t n with
  | error e => rfl
  | ok name =>
    cases (membersOf (· = .propertySignature) n).mapM fun m => (buildProperty t naming m).outcome
      <;> rfl

theorem outcome_buildEnum_map :
    (buildEnum t (naming.map f) n).outcome = renameEnum f n <$> (buildEnum t naming n).outcome := by
  simp only [buildEnum, Traced.outcome_bind, Traced.outcome_ofExcept, Traced.outcome_mapM,
    outcome_buildMember_map, Outcome.mapM_zipWith]
  rw [Naming.map]
  cases naming t n with
  | error e => rfl
  | ok name =>
    cases (membersOf Kind.isEnumMember n).mapM fun m => (buildMember t naming m).outcome <;> rfl

end Naming

/-- **A naming decides names only.** Let the bound names be put through a function of the node and
the name. Then a declaration, read as an interface or as an enum, cannot be built exactly when it
cannot be built with the bound names, and the error is the same. Otherwise the entity is the same up
to names: its own name and that of each member are what the function makes of the node and the bound
name. There is one member for every member node, so none is left out. -/
theorem build_renamed (t : SymbolTable) (f : Node → String → String) (d : Node) :
    ((∀ e, (buildInterface t (Naming.bound.map f) d).outcome = .error e ↔
          (buildInterface t .bound d).outcome = .error e) ∧
        ∀ i, (buildInterface t .bound d).outcome = .ok i →
          (buildInterface t (Naming.bound.map f) d).outcome = .ok (renameInterface f d i) ∧
            i.properties.length = (membersOf (· = .propertySignature) d).length) ∧
      (∀ e, (buildEnum t (Naming.bound.map f) d).outcome = .error e ↔
          (buildEnum t .bound d).outcome = .error e) ∧
        ∀ e, (buildEnum t .bound d).outcome = .ok e →
          (buildEnum t (Naming.bound.map f) d).outcome = .ok (renameEnum f d e) ∧
            e.members.length = (membersOf Kind.isEnumMember d).length := by
  rw [outcome_buildInterface_map, outcome_buildEnum_map]
  refine ⟨⟨fun e => Outcome.map_eq_error_iff, fun i hi => ⟨by rw [hi]; rfl, ?_⟩⟩,
    fun e => Outcome.map_eq_error_iff, fun e he => ⟨by rw [he]; rfl, ?_⟩⟩
  · have hbuilt := congrArg List.length (buildInterface_eq_ok hi).2
    simpa using hbuilt.symm
  · have hbuilt := congrArg List.length (buildEnum_eq_ok he).2
    simpa using hbuilt.symm

/-- Names that tell the kind of their node. -/
example :
    (declarations Syntax.userTree).map (fun d =>
        (fun i : Interface => (i.name, i.properties.map (·.name))) <$>
          (buildInterface Binding.userTable
            (Naming.bound.map fun n name => n.kindName ++ ":" ++ name) d).outcome) =
      [.ok ("interface_declaration:User", ["property_signature:id"])] := by
  decide +kernel

end ApiDecl.Reading
