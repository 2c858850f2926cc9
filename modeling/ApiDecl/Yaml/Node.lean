import ApiDecl.Yaml.Scan

/-!
# YAML nodes

The tokens of a stream make up at most one document, whose content is a tree of nodes. An alias is
replaced by the node it stands for; an alias of a collection inside that collection itself is kept
as a knot.
-/

namespace ApiDecl.Yaml

/-- The address that standard tags start with. -/
def standardTag : String := "tag:yaml.org,2002:"

/-- The tag of a node, before its content is looked at. -/
inductive Tag
  /-- No tag: the content decides. -/
  | none
  /-- The mark alone: the content decides as if it were plain. -/
  | plain
  | named (tag : String)
deriving DecidableEq, Repr

/-- A node of a document. -/
inductive Node
  | scalar (tag : Tag) (text : String) (style : Style)
  | sequence (tag : Tag) (items : List Node)
  | mapping (tag : Tag) (members : List (Node × Node))
  /-- A collection seen from inside itself. -/
  | knot (isMapping : Bool)
deriving Repr, Inhabited

/-- A scalar that is not written. -/
def Node.empty : Node := .scalar .none "" .plain

/-- How far composing has come. -/
structure Progress where
  tokens : List Token
  /-- The handles of tags. -/
  handles : List (String × String)
  /-- The nodes that aliases stand for. -/
  anchors : List (String × Node)

/-- A step of composing. -/
abbrev Composer := StateT Progress (Except Error)

namespace Composer

/-- The tokens break a rule. -/
def bad {α : Type} : Composer α := throw .malformed

/-- The next token. -/
def peek : Composer Token := return (← get).tokens.headD .streamEnd

/-- Take the next token. -/
def skip : Composer Unit := modify fun s => { s with tokens := s.tokens.drop 1 }

/-- Take the next token if it is this one. -/
def accept (t : Token) : Composer Bool := do
  if (← peek) == t then
    skip
    return true
  else return false

/-- The tag that a written one stands for. -/
def resolveTag (t : TagText) : Composer Tag := do
  match t.handle with
  | none => return if t.suffix = "!" then .plain else .named t.suffix
  | some handle =>
    match (← get).handles.lookup handle with
    | none => bad
    | some pfx => return if pfx ++ t.suffix = "!" then .plain else .named (pfx ++ t.suffix)

/-- An anchor and a tag, in either order, each at most once. -/
def properties : Composer (Option String × Option TagText) := do
  match ← peek with
  | .anchor name =>
    skip
    match ← peek with
    | .tag t =>
      skip
      return (some name, some t)
    | _ => return (some name, none)
  | .tag t =>
    skip
    match ← peek with
    | .anchor name =>
      skip
      return (some name, some t)
    | _ => return (none, some t)
  | _ => return (none, none)

/-- Bind an anchor. -/
def bind (anchor : Option String) (node : Node) : Composer Unit := do
  match anchor with
  | none => return
  | some name => modify fun s => { s with anchors := (name, node) :: s.anchors }

/-- Which nodes may come next. -/
inductive Context
  | flow
  | block
  /-- A block, or a sequence at the indentation of the mapping around it. -/
  | blockOrEntries
deriving DecidableEq

mutual

/-- A node. -/
def node : (fuel : Nat) → Context → Composer Node
  | 0, _ => bad
  | fuel + 1, context => do
    match ← peek with
    | .alias name =>
      skip
      match (← get).anchors.lookup name with
      | some found => return found
      | none => bad
    | _ =>
      let (anchor, written) ← properties
      let tag ← match written with
        | none => pure Tag.none
        | some t => resolveTag t
      match anchor with
      | none => pure ()
      | some name => if ((← get).anchors.lookup name).isSome then bad
      let inBlock := context != .flow
      let next ← peek
      let found : Node ←
        match next with
        | .scalar text style =>
          skip
          pure (.scalar tag text style)
        | .flowSequenceStart =>
          skip
          bind anchor (.knot false)
          pure (.sequence tag (← flowItems fuel true))
        | .flowMappingStart =>
          skip
          bind anchor (.knot true)
          pure (.mapping tag (← flowMembers fuel true))
        | .blockEntry =>
          if context == .blockOrEntries then
            bind anchor (.knot false)
            pure (.sequence tag (← entries fuel))
          else if anchor.isSome || written.isSome then pure (.scalar tag "" .plain)
          else bad
        | .blockSequenceStart =>
          if inBlock then
            skip
            bind anchor (.knot false)
            pure (.sequence tag (← blockItems fuel))
          else bad
        | .blockMappingStart =>
          if inBlock then
            skip
            bind anchor (.knot true)
            pure (.mapping tag (← blockMembers fuel))
          else bad
        | _ => if anchor.isSome || written.isSome then pure (.scalar tag "" .plain) else bad
      bind anchor found
      return found

/-- The entries of a block sequence, up to its end. -/
def blockItems : (fuel : Nat) → Composer (List Node)
  | 0 => bad
  | fuel + 1 => do
    if ← accept .blockEntry then
      let item ← match ← peek with
        | .blockEntry | .blockEnd => pure Node.empty
        | _ => node fuel .block
      return item :: (← blockItems fuel)
    else if ← accept .blockEnd then return []
    else bad

/-- Entries at the indentation of the mapping around them. -/
def entries : (fuel : Nat) → Composer (List Node)
  | 0 => bad
  | fuel + 1 => do
    if ← accept .blockEntry then
      let item ← match ← peek with
        | .blockEntry | .key | .value | .blockEnd => pure Node.empty
        | _ => node fuel .block
      return item :: (← entries fuel)
    else return []

/-- The members of a block mapping, up to its end. -/
def blockMembers : (fuel : Nat) → Composer (List (Node × Node))
  | 0 => bad
  | fuel + 1 => do
    if ← accept .key then
      let key ← match ← peek with
        | .key | .value | .blockEnd => pure Node.empty
        | _ => node fuel .blockOrEntries
      let value ← blockValue fuel
      return (key, value) :: (← blockMembers fuel)
    else if ← accept .blockEnd then return []
    else bad

/-- The value of a member of a block mapping. -/
def blockValue : (fuel : Nat) → Composer Node
  | 0 => bad
  | fuel + 1 => do
    if ← accept .value then
      match ← peek with
      | .key | .value | .blockEnd => return Node.empty
      | _ => node fuel .blockOrEntries
    else return Node.empty

/-- The items of a flow sequence, up to its end. A member of a mapping may stand as an item. -/
def flowItems : (fuel : Nat) → (first : Bool) → Composer (List Node)
  | 0, _ => bad
  | fuel + 1, first => do
    if ← accept .flowSequenceEnd then return []
    if !first then
      if !(← accept .flowEntry) then bad
      if ← accept .flowSequenceEnd then return []
    if ← accept .key then
      let key ← match ← peek with
        | .value | .flowEntry | .flowSequenceEnd => pure Node.empty
        | _ => node fuel .flow
      let value ← if ← accept .value then
          match ← peek with
          | .flowEntry | .flowSequenceEnd => pure Node.empty
          | _ => node fuel .flow
        else pure Node.empty
      return .mapping .none [(key, value)] :: (← flowItems fuel false)
    else
      let item ← node fuel .flow
      return item :: (← flowItems fuel false)

/-- The members of a flow mapping, up to its end. -/
def flowMembers : (fuel : Nat) → (first : Bool) → Composer (List (Node × Node))
  | 0, _ => bad
  | fuel + 1, first => do
    if ← accept .flowMappingEnd then return []
    if !first then
      if !(← accept .flowEntry) then bad
      if ← accept .flowMappingEnd then return []
    if ← accept .key then
      let key ← match ← peek with
        | .value | .flowEntry | .flowMappingEnd => pure Node.empty
        | _ => node fuel .flow
      let value ← if ← accept .value then
          match ← peek with
          | .flowEntry | .flowMappingEnd => pure Node.empty
          | _ => node fuel .flow
        else pure Node.empty
      return (key, value) :: (← flowMembers fuel false)
    else
      let key ← node fuel .flow
      return (key, Node.empty) :: (← flowMembers fuel false)

end

/-- Take the directives before a document. -/
def directives : (fuel : Nat) → (versioned : Bool) → Composer Unit
  | 0, _ => return
  | fuel + 1, versioned => do
    match ← peek with
    | .directive d =>
      skip
      match d with
      | .yaml major =>
        if versioned || major ≠ 1 then bad
        directives fuel true
      | .tag handle pfx =>
        if ((← get).handles.lookup handle).isSome then bad
        modify fun s => { s with handles := s.handles ++ [(handle, pfx)] }
        directives fuel versioned
      | .other => directives fuel versioned
    | _ => return

/-- Take the marks that end a document. -/
def documentEnds : (fuel : Nat) → Composer Unit
  | 0 => return
  | fuel + 1 => do
    if ← accept .documentEnd then documentEnds fuel

/-- The handles that every document knows. -/
def addStandardHandles : Composer Unit :=
  modify fun s => { s with
    handles := s.handles ++
      [("!", "!"), ("!!", standardTag)].filter fun (h, _) => (s.handles.lookup h).isNone }

/-- The content of the only document, if there is a document. -/
def stream (fuel : Nat) : Composer (Option Node) := do
  let isImplicit := match ← peek with
    | .directive _ | .documentStart | .streamEnd => false
    | _ => true
  let content : Option Node ←
    if isImplicit then do
      addStandardHandles
      some <$> node fuel .block
    else do
      documentEnds fuel
      if (← peek) == .streamEnd then pure none
      else
        directives fuel false
        addStandardHandles
        if !(← accept .documentStart) then bad
        match ← peek with
        | .directive _ | .documentStart | .documentEnd | .streamEnd => pure (some Node.empty)
        | _ => some <$> node fuel .block
  documentEnds fuel
  if (← peek) == .streamEnd then return content else bad

end Composer

/-- The content of the only document of a text. -/
def Node.ofText (text : List Char) : Except Error (Option Node) := do
  let ts ← tokens text
  let (content, _) ← (Composer.stream (2 * ts.length + 4)).run
    { tokens := ts, handles := [], anchors := [] }
  return content

end ApiDecl.Yaml
