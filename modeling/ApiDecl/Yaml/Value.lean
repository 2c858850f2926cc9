import ApiDecl.Json.Value
import ApiDecl.Yaml.Node
import ApiDecl.Yaml.Scalar

/-!
# Values of YAML documents

A document is a mapping whose keys are scalars, or any other value. Of a collection inside it only
the shape is kept; what such a collection holds is still checked, level by level, so that the
fault nearest to the top is the one that counts. A JSON value is a document as well.
-/

namespace ApiDecl.Yaml

/-- A scalar value. -/
inductive Scalar
  | null
  | bool (b : Bool)
  | int (n : Int)
  | float (x : Binary64)
  | str (s : String)
  | bytes (bytes : List UInt8)
  /-- A date, or a date with a time of day. -/
  | time (t : TimeText)
deriving DecidableEq, Repr

/-- A value seen from outside. -/
inductive Value
  | scalar (s : Scalar)
  | list
  | set
  | map
deriving DecidableEq, Repr

/-- A document: a mapping, or another value. -/
inductive Document
  | mapping (members : List (Scalar × Value))
  | other (value : Value)
deriving DecidableEq, Repr

/-! ## Types -/

/-- The module and the name of the type of a scalar. -/
def Scalar.qualifiedType : Scalar → List String
  | .null => ["NoneType"]
  | .bool _ => ["bool"]
  | .int _ => ["int"]
  | .float _ => ["float"]
  | .str _ => ["str"]
  | .bytes _ => ["bytes"]
  | .time t => ["datetime", if t.clock.isSome then "datetime" else "date"]

/-- The whole name of the type of a scalar. -/
def Scalar.fullType (s : Scalar) : String := ".".intercalate s.qualifiedType

/-- What messages call the type of a value. -/
def Value.typeName : Value → String
  | .scalar s => s.qualifiedType.getLastD ""
  | .list => "list"
  | .set => "set"
  | .map => "dict"

/-! ## The order of scalars -/

/-- Why two scalars have no order. -/
inductive Unordered
  | types (left right : String)
  /-- One is a date and the other one has a time of day, too. -/
  | dateAndTime
  /-- Only one tells its distance from universal time. -/
  | offsets
deriving DecidableEq, Repr

/-- The reason in words. -/
def Unordered.message : Unordered → String
  | types left right =>
    "'<' not supported between instances of '" ++ left ++ "' and '" ++ right ++ "'"
  | dateAndTime => "can't compare datetime.datetime to datetime.date"
  | offsets => "can't compare offset-naive and offset-aware datetimes"

/-- The value of a finite number as a mantissa and a power of two. -/
def Scalar.number? : Scalar → Option (Int × Int)
  | .bool b => some (if b then 1 else 0, 0)
  | .int n => some (n, 0)
  | .float (.finite negative m e) => some (if negative then -m else m, e)
  | _ => none

/-- The order of two numbers. -/
def compareNumbers (a b : Int × Int) : Ordering :=
  let least := min a.2 b.2
  let scaled (x : Int × Int) : Int := x.1 * (1 <<< (x.2 - least).toNat : Nat)
  compare (scaled a) (scaled b)

/-- The order of two points in time. -/
def TimeText.order (s t : TimeText) : Except Unordered Ordering :=
  if s.clock.isSome ≠ t.clock.isSome then .error .dateAndTime
  else if s.offset.isSome ≠ t.offset.isSome then .error .offsets
  else .ok (compare s.instant t.instant)

/-- Is the scalar a number? Truth values are, too. -/
def Scalar.isNumber : Scalar → Bool
  | .bool _ | .int _ | .float _ => true
  | _ => false

/-- Is a number less than another? Nothing is less than what is no number, nor greater. -/
def Scalar.isLess (a b : Scalar) : Bool :=
  match a, b with
  | .float .nan, _ | _, .float .nan => false
  | .float (.infinite low), .float (.infinite low') => low && !low'
  | .float (.infinite low), _ => low
  | _, .float (.infinite low) => !low
  | _, _ =>
    match a.number?, b.number? with
    | some x, some y => compareNumbers x y == .lt
    | _, _ => false

/-- Does a scalar come before another? -/
def Scalar.before (a b : Scalar) : Except Unordered Bool :=
  match a, b with
  | .str s, .str t => .ok (decide (s < t))
  | .bytes s, .bytes t => .ok (s.lex t)
  | .time s, .time t => (· == .lt) <$> s.order t
  | _, _ =>
    if a.isNumber && b.isNumber then .ok (a.isLess b)
    else .error (.types a.fullType b.fullType)

/-! ## Equal keys -/

/-- Are two scalars the same key? Numbers of different types are, when they are equal, and so are
points in time that are told with different distances from universal time. -/
def Scalar.isSameKey (a b : Scalar) : Bool :=
  match a, b with
  | .time s, .time t => (s.order t matches .ok .eq)
  | _, _ =>
    match a.number?, b.number? with
    | some x, some y => compareNumbers x y == .eq
    | _, _ => a == b

/-- Members with a key bound to a value: an equal key keeps its place. -/
def insertMember (key : Scalar) (value : Value) : List (Scalar × Value) → List (Scalar × Value)
  | [] => [(key, value)]
  | (k, v) :: rest =>
    if k.isSameKey key then (k, value) :: rest else (k, v) :: insertMember key value rest

/-! ## Tags -/

/-- The name of a standard tag. -/
def ScalarKind.tag : ScalarKind → String
  | .null => "null"
  | .bool => "bool"
  | .int => "int"
  | .float => "float"
  | .timestamp => "timestamp"
  | .merge => "merge"
  | .value => "value"
  | .str => "str"

/-- The name of the standard tag of a node, whether written or found from its content; nothing for
other tags. -/
def Node.standardTag? (n : Node) : Option String :=
  match n with
  | .scalar (.named tag) _ _ | .sequence (.named tag) _ | .mapping (.named tag) _ =>
    if standardTag.toList.isPrefixOf tag.toList then
      some (String.ofList (tag.toList.drop standardTag.length))
    else none
  | .scalar .none text .plain => some (kindOf text).tag
  | .scalar .none _ .quoted => some "str"
  | .scalar .plain text _ => some (kindOf text).tag
  | .sequence _ _ => some "seq"
  | .mapping _ _ => some "map"
  | .knot true => some "map"
  | .knot false => some "seq"

/-- The members of a mapping. -/
def Node.members : Node → List (Node × Node)
  | .mapping _ members => members
  | _ => []

mutual

/-- The text of a scalar node; a mapping stands for its default value. -/
def Node.scalarText : Node → Except Error String
  | .scalar _ text _ => .ok text
  | .mapping _ members => defaultText members
  | .sequence _ _ => .error .malformed
  | .knot _ => .error .malformed

/-- The text of the default value among members. -/
def defaultText : List (Node × Node) → Except Error String
  | [] => .error .malformed
  | member :: rest =>
    if member.1.standardTag? == some "value" then memberText member else defaultText rest

/-- The text of the value of a member. -/
def memberText : Node × Node → Except Error String
  | (_, value) => value.scalarText

end

/-! ## Merging -/

mutual

/-- The members that a mapping takes over from others, and its own. -/
def splitMembers : List (Node × Node) → Except Error (List (Node × Node) × List (Node × Node))
  | [] => .ok ([], [])
  | member :: rest =>
    if member.1.standardTag? == some "merge" then do
      let taken ← mergedMember member
      let (merged, own) ← splitMembers rest
      return (taken ++ merged, own)
    else do
      let (merged, own) ← splitMembers rest
      return (merged, member :: own)

/-- The members that the value of a member gives. -/
def mergedMember : Node × Node → Except Error (List (Node × Node))
  | (_, value) => mergedNode value

/-- The members that a mapping, or each mapping of a sequence, gives. Of a sequence the later
mappings come first. -/
def mergedNode : Node → Except Error (List (Node × Node))
  | .mapping _ members => do
    let (merged, own) ← splitMembers members
    return merged ++ own
  | .sequence _ items => mergedItems items
  | .knot _ => .ok []
  | .scalar _ _ _ => .error .malformed

/-- The members that the mappings of a sequence give. -/
def mergedItems : List Node → Except Error (List (Node × Node))
  | [] => .ok []
  | item :: rest => do
    let isMapping := match item with
      | .mapping _ _ | .knot true => true
      | _ => false
    if !isMapping then throw .malformed
    let taken ← mergedNode item
    return (← mergedItems rest) ++ taken

end

/-- The members of a mapping, those taken over from others first. -/
def Node.allMembers (n : Node) : Except Error (List (Node × Node)) := do
  let (merged, own) ← splitMembers n.members
  return merged ++ own

/-! ## Construction -/

/-- The value of a node, seen from outside. -/
def Node.value (n : Node) : Except Error Value :=
  match n.standardTag? with
  | some "null" => do
    let _ ← n.scalarText
    return .scalar .null
  | some "bool" => do return .scalar (.bool (← readBool (← n.scalarText)))
  | some "int" => do return .scalar (.int (← readInt (← n.scalarText)))
  | some "float" => do return .scalar (.float (← readFloat (← n.scalarText)))
  | some "timestamp" => do return .scalar (.time (← readTime (← n.scalarText)))
  | some "binary" => do return .scalar (.bytes (← readBytes (← n.scalarText)))
  | some "str" => do return .scalar (.str (← n.scalarText))
  | some "seq" | some "omap" | some "pairs" => .ok .list
  | some "set" => .ok .set
  | some "map" => .ok .map
  | _ => .error .malformed

/-- The value of a key, which is a scalar. The key of the default value is an ordinary text. -/
def Node.key (n : Node) : Except Error Scalar := do
  let value ← if n.standardTag? == some "value" then do pure (.scalar (.str (← n.scalarText)))
    else n.value
  match value with
  | .scalar s => return s
  | _ => throw .malformed

/-- Keys with the values of their nodes, in order. -/
def readMembers : List (Node × Node) → Except Error (List (Scalar × Value))
  | [] => .ok []
  | (key, value) :: rest => do
    let k ← key.key
    let v ← value.value
    return (k, v) :: (← readMembers rest)

/-- The only member of each of a list of mappings. -/
def readSingles : List Node → Except Error (List (Node × Node))
  | [] => .ok []
  | .mapping _ [(key, value)] :: rest => do
    let _ ← key.value
    let _ ← value.value
    return (key, value) :: (← readSingles rest)
  | _ => .error .malformed

/-- The nodes directly inside a collection, once it is known that each of them has a value. -/
def Node.inside (n : Node) : Except Error (List Node) := do
  match n.standardTag? with
  | some "seq" =>
    match n with
    | .sequence _ items =>
      let _ ← items.mapM Node.value
      return items
    | .knot _ => return []
    | _ => throw .malformed
  | some "omap" | some "pairs" =>
    match n with
    | .sequence _ items => return (← readSingles items).flatMap fun (k, v) => [k, v]
    | _ => throw .malformed
  | some "set" | some "map" =>
    match n with
    | .mapping _ _ =>
      let members ← n.allMembers
      let _ ← readMembers members
      return members.map (·.2)
    | .knot _ => return []
    | _ => throw .malformed
  | _ => return []

mutual

/-- How deep a node goes. -/
def Node.depth : Node → Nat
  | .scalar _ _ _ => 0
  | .knot _ => 0
  | .sequence _ items => depthOfItems items + 1
  | .mapping _ members => depthOfMembers members + 1

/-- How deep a list of nodes goes. -/
def depthOfItems : List Node → Nat
  | [] => 0
  | item :: rest => max item.depth (depthOfItems rest)

/-- How deep the members of a mapping go. -/
def depthOfMembers : List (Node × Node) → Nat
  | [] => 0
  | member :: rest => max (depthOfMember member) (depthOfMembers rest)

/-- How deep a member goes. -/
def depthOfMember : Node × Node → Nat
  | (key, value) => max key.depth value.depth

end

/-- Check what a list of nodes holds, level by level. -/
def checkLevels : (levels : Nat) → List Node → Except Error Unit
  | 0, _ => .ok ()
  | levels + 1, nodes => do
    let inside ← nodes.mapM Node.inside
    checkLevels levels inside.flatten

/-- The document that a node is the content of. -/
def Node.document (n : Node) : Except Error Document := do
  let value ← n.value
  checkLevels (n.depth + 1) [n]
  if value = .map then
    let members ← readMembers (← n.allMembers)
    return .mapping (members.foldl (fun done (k, v) => insertMember k v done) [])
  else return .other value

/-- The document of a text; nothing written is the same as null. -/
def Document.ofText (text : List Char) : Except Error Document := do
  match ← Node.ofText text with
  | none => return .other (.scalar .null)
  | some n => n.document

/-! ## JSON -/

/-- A JSON value seen from outside. -/
def Value.ofJson : Json → Value
  | .null => .scalar .null
  | .bool b => .scalar (.bool b)
  | .int n => .scalar (.int n)
  | .float x => .scalar (.float x)
  | .str s => .scalar (.str s)
  | .arr _ => .list
  | .obj _ => .map

/-- A JSON value as a document. -/
def Document.ofJson : Json → Document
  | .obj members => .mapping (members.map fun (k, v) => (.str k, Value.ofJson v))
  | j => .other (Value.ofJson j)

end ApiDecl.Yaml
