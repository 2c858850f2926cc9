import ApiDecl.Model.Entity
import ApiDecl.Reading.Error

/-!
# Reading type expressions

A type node is recognized when it is an array, a reference or one of three primitive keywords.

* An array has one element: its one recognized named child.
* A reference called `map` has a key and a value. Its candidates are its recognized arguments,
  each followed by its own recognized operands, and there must be two of them.
* Any other reference is named by its whole text.

`resolve` gives no type for a node that is not recognized, and an error at the first wrapper that
has the wrong number of usable nodes. `resolveMap` reads any node as a map.
-/

namespace ApiDecl.Reading

open Syntax (Node Kind)
open Model (TypeExpr)

/-- The recognized shapes of type nodes. -/
inductive TypeKind
  | string
  | boolean
  | any
  | array
  | reference
deriving DecidableEq, Repr

/-- The name of a recognized shape. -/
def TypeKind.name : TypeKind → String
  | string => "string"
  | boolean => "boolean"
  | any => "any"
  | array => "array"
  | reference => "reference"

/-- The primitive that a keyword stands for. -/
def TypeKind.ofKeyword : String → Option TypeKind
  | "string" => some .string
  | "boolean" => some .boolean
  | "any" => some .any
  | _ => none

/-- The shape of a node, if it is recognized. -/
def classify (n : Node) : Except ReadError (Option TypeKind) :=
  if n.kind = .arrayType then .ok (some .array)
  else if n.kind.isReference then .ok (some .reference)
  else if n.kind = .predefinedType then TypeKind.ofKeyword <$> textOf n
  else .ok none

/-- The recognized nodes of a list with their shapes, in order. -/
def recognized : List Node → Except ReadError (List (Node × TypeKind))
  | [] => .ok []
  | n :: rest => do
    let kind ← classify n
    let others ← recognized rest
    match kind with
    | some k => return (n, k) :: others
    | none => return others

/-- The name a reference goes by, without its arguments. -/
def referenceName (n : Node) : Except ReadError String :=
  textOf (if n.kind = .genericType then n.bearer else n)

/-- The type nodes directly inside a type node. The operands of a generic are its arguments; other
references and keywords have none. -/
def operands (n : Node) : List Node :=
  if n.kind = .genericType then
    (n.namedChildren.filter (·.kind = .typeArguments)).flatMap (·.namedChildren)
  else if n.kind.isReference || n.kind = .predefinedType then []
  else n.namedChildren

/-- The nodes that may be the key and the value of a map: every argument, followed by its own
operands. -/
def mapOperands (n : Node) : List Node := (operands n).flatMap fun a => a :: operands a

theorem mem_of_recognized {ns : List Node} {found : List (Node × TypeKind)}
    (h : recognized ns = .ok found) {c : Node} {k : TypeKind} (hc : (c, k) ∈ found) : c ∈ ns := by
  induction ns generalizing found with
  | nil =>
    obtain rfl : [] = found := by simpa [recognized] using h
    simp at hc
  | cons n rest ih =>
    simp only [recognized, bind, Except.bind] at h
    split at h
    · cases h
    · split at h
      · cases h
      · next others ho =>
        split at h
        · obtain rfl := Except.ok.inj h
          rcases List.mem_cons.mp hc with hc | hc
          · simp [(Prod.mk.inj hc).1]
          · exact List.mem_cons_of_mem _ (ih ho hc)
        · obtain rfl := Except.ok.inj h
          exact List.mem_cons_of_mem _ (ih ho hc)

/-- An operand is smaller than its node. -/
theorem size_lt_of_mem_operands {n a : Node} (h : a ∈ operands n) : a.size < n.size := by
  unfold operands at h
  split at h
  · obtain ⟨c, hc, ha⟩ := List.mem_flatMap.mp h
    have hcn := Node.size_lt_of_mem_namedChildren (List.mem_filter.mp hc).1
    have hac := Node.size_lt_of_mem_namedChildren ha
    omega
  · split at h
    · simp at h
    · exact Node.size_lt_of_mem_namedChildren h

/-- A possible key or value is smaller than its map. -/
theorem size_lt_of_mem_mapOperands {n a : Node} (h : a ∈ mapOperands n) : a.size < n.size := by
  obtain ⟨b, hb, ha⟩ := List.mem_flatMap.mp h
  have hbn := size_lt_of_mem_operands hb
  rcases List.mem_cons.mp ha with rfl | ha
  · exact hbn
  · have := size_lt_of_mem_operands ha
    omega

/-- The reference that stands for a map. -/
def mapName : String := "map"

/-- The type of a node with a recognized shape. -/
def resolveAs (n : Node) (kind : TypeKind) : Except ReadError TypeExpr :=
  match kind with
  | .string => .ok (.named "string")
  | .boolean => .ok (.named "boolean")
  | .any => .ok (.named "object")
  | .array =>
    match _ : recognized n.namedChildren with
    | .error e => .error e
    | .ok [(element, k)] => TypeExpr.array <$> resolveAs element k
    | .ok found => .error (.arity "array" 1 found.length (.ofNode n))
  | .reference =>
    match referenceName n with
    | .error e => .error e
    | .ok name =>
      if name = mapName then
        match _ : recognized (mapOperands n) with
        | .error e => .error e
        | .ok [(key, kk), (value, vk)] =>
          TypeExpr.map <$> resolveAs key kk <*> resolveAs value vk
        | .ok found => .error (.arity "map" 2 found.length (.ofNode n))
      else TypeExpr.named <$> textOf n
termination_by n.size
decreasing_by
  · exact Node.size_lt_of_mem_namedChildren (mem_of_recognized (by assumption) List.mem_cons_self)
  · exact size_lt_of_mem_mapOperands (mem_of_recognized (by assumption) List.mem_cons_self)
  · exact size_lt_of_mem_mapOperands
      (mem_of_recognized (by assumption) (List.mem_cons_of_mem _ List.mem_cons_self))

/-- The type of a node that is read as a map, whatever its kind and its name. -/
def resolveMap (n : Node) : Except ReadError TypeExpr :=
  match recognized (mapOperands n) with
  | .error e => .error e
  | .ok [(key, kk), (value, vk)] => TypeExpr.map <$> resolveAs key kk <*> resolveAs value vk
  | .ok found => .error (.arity "map" 2 found.length (.ofNode n))

/-- The type of a node, or none when its shape is not recognized. -/
def resolve (n : Node) : Except ReadError (Option TypeExpr) := do
  match ← classify n with
  | none => return none
  | some kind => some <$> resolveAs n kind

end ApiDecl.Reading
