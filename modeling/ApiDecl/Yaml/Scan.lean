import ApiDecl.Yaml.Token

/-!
# Cutting YAML text into tokens

Indentation opens and closes blocks. A token may turn out to be a key only when a colon follows it
on the same line; its place is remembered until then, for each level of flow brackets.
-/

namespace ApiDecl.Yaml

/-- A token that may yet be a key. -/
structure PossibleKey where
  /-- The number of tokens before it. -/
  number : Nat
  /-- Must it be a key, because it stands at the indentation of the block? -/
  required : Bool
  index : Nat
  line : Nat
  column : Nat

/-- How far scanning has come. -/
structure Scan where
  rest : List Char
  index : Nat
  line : Nat
  column : Nat
  /-- How many flow brackets are open. -/
  flowLevel : Int
  tokens : List Token
  /-- The indentation of the block; -1 outside of all blocks. -/
  indent : Int
  /-- The indentations of the blocks around it, the innermost first. -/
  indents : List Int
  /-- May a key without a question mark start here? -/
  allowKey : Bool
  /-- The possible keys, by level of flow brackets. -/
  possibleKeys : List (Int × PossibleKey)

/-- A step of scanning. -/
abbrev Scanner := StateT Scan (Except Error)

namespace Scanner

/-- The text breaks a rule. -/
def bad {α : Type} : Scanner α := throw .malformed

/-- The character a number of places ahead. -/
def peekAt (n : Nat) : Scanner Char := return (← get).rest.getD n endMark

/-- The next character. -/
def peek : Scanner Char := peekAt 0

/-- Is the scan inside flow brackets? -/
def inFlow : Scanner Bool := return (← get).flowLevel != 0

/-- Take one character. -/
def forward : Scanner Unit :=
  modify fun s => match s.rest with
    | [] => s
    | c :: rest =>
      let newLine := isBreak c && !(c == '\r' && rest.head? == some '\n')
      { s with
        rest
        index := s.index + 1
        line := if newLine then s.line + 1 else s.line
        column := if newLine then 0 else if c.toNat == 0xfeff then s.column else s.column + 1 }

/-- Take a number of characters. -/
def forwardBy : Nat → Scanner Unit
  | 0 => return
  | n + 1 => do
    forward
    forwardBy n

/-- Take the characters that pass a test. -/
def takeWhile (p : Char → Bool) : Scanner (List Char) := do
  let taken := (← get).rest.takeWhile p
  forwardBy taken.length
  return taken

/-- Take a line break, as the character it stands for. -/
def lineBreak : Scanner (List Char) := do
  let c ← peek
  if c == '\r' && (← peekAt 1) == '\n' then
    forwardBy 2
    return ['\n']
  else if c == '\r' || c == '\n' || c.toNat == 0x85 then
    forward
    return ['\n']
  else if isBreak c then
    forward
    return [c]
  else return []

/-- Does a document separator start here? -/
def atSeparator : Scanner Bool := do
  let three := (← get).rest.take 3
  return (three == ['-', '-', '-'] || three == ['.', '.', '.']) && isGap (← peekAt 3)

/-- Add a token. -/
def emit (t : Token) : Scanner Unit := modify fun s => { s with tokens := s.tokens ++ [t] }

/-- Say whether a key may start now. -/
def setAllowKey (allow : Bool) : Scanner Unit := modify fun s => { s with allowKey := allow }

/-! ## Keys and indentation -/

/-- The possible key at the current level. -/
def possibleKey? : Scanner (Option PossibleKey) := do
  let s ← get
  return s.possibleKeys.lookup s.flowLevel

/-- Forget the possible key at the current level, which must not be a required one. -/
def dropPossibleKey : Scanner Unit := do
  match ← possibleKey? with
  | none => return
  | some k =>
    if k.required then bad
    modify fun s =>
      { s with possibleKeys := s.possibleKeys.filter (·.1 != s.flowLevel) }

/-- Remember that a key may start here. -/
def saveKey : Scanner Unit := do
  let s ← get
  if s.allowKey then
    dropPossibleKey
    let k : PossibleKey :=
      { number := s.tokens.length, required := s.flowLevel == 0 && s.indent == s.column
        index := s.index, line := s.line, column := s.column }
    modify fun s => { s with possibleKeys := (s.flowLevel, k) :: s.possibleKeys }

/-- Forget the possible keys that the scan has left behind. -/
def dropStaleKeys : Scanner Unit := do
  let s ← get
  let stale (k : PossibleKey) : Bool := k.line != s.line || 1024 < s.index - k.index
  if s.possibleKeys.any fun (_, k) => stale k && k.required then bad
  modify fun s => { s with possibleKeys := s.possibleKeys.filter fun (_, k) => !stale k }

/-- Close the blocks that are indented more than a column. -/
def unwind (column : Int) : (fuel : Nat) → Scanner Unit
  | 0 => return
  | fuel + 1 => do
    let s ← get
    if s.flowLevel == 0 && column < s.indent then
      set { s with
        indent := s.indents.headD (-1)
        indents := s.indents.drop 1
        tokens := s.tokens ++ [Token.blockEnd] }
      unwind column fuel

/-- Close the blocks that are indented more than a column. -/
def unwindTo (column : Int) : Scanner Unit := do unwind column ((← get).indents.length + 1)

/-- Open a block at a column if it is indented more than the current one. -/
def addIndent (column : Int) : Scanner Bool := do
  let s ← get
  if s.indent < column then
    set { s with indents := s.indent :: s.indents, indent := column }
    return true
  else return false

/-! ## Blanks and comments -/

/-- Go to the next token. -/
def toNextToken : (fuel : Nat) → Scanner Unit
  | 0 => return
  | fuel + 1 => do
    let _ ← takeWhile (· == ' ')
    if (← peek) == '#' then let _ ← takeWhile (!isBreakOrEnd ·)
    if (← lineBreak).isEmpty then return
    if !(← inFlow) then setAllowKey true
    toNextToken fuel

/-- The rest of a line that may only hold a comment. -/
def ignoredLine : Scanner Unit := do
  let _ ← takeWhile (· == ' ')
  if (← peek) == '#' then let _ ← takeWhile (!isBreakOrEnd ·)
  if !isBreakOrEnd (← peek) then bad
  let _ ← lineBreak

/-! ## Names, tags and directives -/

/-- A name of at least one character. -/
def name : Scanner String := do
  let cs ← takeWhile isNameChar
  if cs.isEmpty then bad
  return String.ofList cs

/-- An anchor or the name of an alias, after its mark. -/
def anchorName : Scanner String := do
  forward
  let n ← name
  let c ← peek
  if !(isGap c || "?:,]\x7d%@\x60".toList.contains c) then bad
  return n

/-- The value of hexadecimal digits. -/
def hexNumber (ds : List Char) : Nat :=
  ds.foldl (fun n d =>
    n * 16 + (if d.isDigit then d.toNat - 0x30 else (d.toNat % 32) + 9)) 0

/-- Hexadecimal digits. -/
def isHexDigit (c : Char) : Bool := c.isDigit || ('a' ≤ c && c ≤ 'f') || ('A' ≤ c && c ≤ 'F')

/-- A number of hexadecimal digits. -/
def hexDigits (count : Nat) : Scanner Nat := do
  let ds := (← get).rest.take count
  if ds.length < count || !ds.all isHexDigit then bad
  forwardBy count
  return hexNumber ds

/-- Bytes written as escapes of an address. -/
def uriBytes : (fuel : Nat) → Scanner (List UInt8)
  | 0 => return []
  | fuel + 1 => do
    if (← peek) == '%' then
      forward
      let b ← hexDigits 2
      return b.toUInt8 :: (← uriBytes fuel)
    else return []

/-- The characters of an address. -/
def uriChars : (fuel : Nat) → Scanner (List Char)
  | 0 => return []
  | fuel + 1 => do
    let c ← peek
    if c == '%' then
      match Text.Utf8.decodeChars (← uriBytes fuel) with
      | .error _ => bad
      | .ok cs => return cs ++ (← uriChars fuel)
    else if isUriChar c then
      forward
      return c :: (← uriChars fuel)
    else return []

/-- An address of at least one character. -/
def uri : Scanner String := do
  let cs ← uriChars ((← get).rest.length + 1)
  if cs.isEmpty then bad
  return String.ofList cs

/-- A handle of tags: a mark, or a name between two marks. -/
def tagHandle : Scanner String := do
  if (← peek) != '!' then bad
  forward
  if (← peek) == ' ' then return "!"
  let cs ← takeWhile isNameChar
  if (← peek) != '!' then bad
  forward
  return String.ofList ('!' :: cs ++ ['!'])

/-- Does a second mark come before the next blank? -/
def hasHandle : List Char → Bool
  | [] => false
  | c :: rest => if c == ' ' || isBreakOrEnd c then false else c == '!' || hasHandle rest

/-- A tag. -/
def tag : Scanner TagText := do
  let c ← peekAt 1
  let found : TagText ←
    if c == '<' then do
      forwardBy 2
      let suffix ← uri
      if (← peek) != '>' then bad
      forward
      pure ⟨none, suffix⟩
    else if isGap c then do
      forward
      pure ⟨none, "!"⟩
    else do
      let handle ← if hasHandle ((← get).rest.drop 1) then tagHandle
        else do
          forward
          pure "!"
      let suffix ← uri
      pure ⟨some handle, suffix⟩
  let c ← peek
  if !(c == ' ' || isBreakOrEnd c) then bad
  return found

/-- A decimal number. -/
def decimal : Scanner Nat := do
  let ds ← takeWhile Char.isDigit
  if ds.isEmpty then bad
  return ds.foldl (fun n d => n * 10 + (d.toNat - 0x30)) 0

/-- Refuse anything but a blank or the end of the line. -/
def wordEnd : Scanner Unit := do
  let c ← peek
  if !(c == ' ' || isBreakOrEnd c) then bad

/-- A directive. -/
def directive : Scanner Directive := do
  forward
  let n ← name
  wordEnd
  let found : Directive ←
    if n = "YAML" then do
      let _ ← takeWhile (· == ' ')
      let major ← decimal
      if (← peek) != '.' then bad
      forward
      let _ ← decimal
      wordEnd
      pure (.yaml major)
    else if n = "TAG" then do
      let _ ← takeWhile (· == ' ')
      let handle ← tagHandle
      if (← peek) != ' ' then bad
      let _ ← takeWhile (· == ' ')
      let pfx ← uri
      wordEnd
      pure (.tag handle pfx)
    else do
      let _ ← takeWhile (!isBreakOrEnd ·)
      pure .other
  ignoredLine
  return found

/-! ## Block scalars -/

/-- What to do with the line breaks at the end of a block scalar. -/
inductive Chomping
  | strip
  | clip
  | keep
deriving DecidableEq

/-- The chomping mark, if there is one. -/
def chomping? : Scanner (Option Chomping) := do
  let c ← peek
  if c == '+' then
    forward
    return some .keep
  else if c == '-' then
    forward
    return some .strip
  else return none

/-- The indentation mark, if there is one. -/
def indentation? : Scanner (Option Nat) := do
  let c ← peek
  if c.isDigit then
    if c == '0' then bad
    forward
    return some (c.toNat - 0x30)
  else return none

/-- The marks after the start of a block scalar, in either order. -/
def blockMarks : Scanner (Chomping × Option Nat) := do
  let found ← match ← chomping? with
    | some chomping => pure (chomping, ← indentation?)
    | none => do
      let indentation ← indentation?
      let chomping ← if indentation.isSome then chomping? else pure none
      pure (chomping.getD .clip, indentation)
  wordEnd
  return found

/-- Take blanks up to a column. -/
def blanksTo (column : Nat) : (fuel : Nat) → Scanner Unit
  | 0 => return
  | fuel + 1 => do
    if (← get).column < column && (← peek) == ' ' then
      forward
      blanksTo column fuel

/-- The empty lines before a line of a block scalar. -/
def blockBreaks (column : Nat) : (fuel : Nat) → Scanner (List Char)
  | 0 => return []
  | fuel + 1 => do
    blanksTo column column
    let br ← lineBreak
    if br.isEmpty then return [] else return br ++ (← blockBreaks column fuel)

/-- The empty lines at the start of a block scalar, and the greatest column reached in them. -/
def firstBreaks : (fuel greatest : Nat) → Scanner (List Char × Nat)
  | 0, greatest => return ([], greatest)
  | fuel + 1, greatest => do
    if (← peek) == ' ' then
      forward
      firstBreaks fuel (max greatest (← get).column)
    else
      let br ← lineBreak
      if br.isEmpty then return ([], greatest)
      let (more, greatest) ← firstBreaks fuel greatest
      return (br ++ more, greatest)

/-- The lines of a block scalar. `breaks` are the empty lines before the next line; the result is
the text, the last line break and the empty lines after it. -/
def blockLines (folded : Bool) (column : Nat) :
    (fuel : Nat) → (breaks : List Char) → Scanner (List Char × List Char × List Char)
  | 0, breaks => return ([], [], breaks)
  | fuel + 1, breaks => do
    if (← get).column != column || (← peek) == endMark then return ([], [], breaks)
    let isText (c : Char) : Bool := !(c == ' ' || c == '\t')
    let leading := isText (← peek)
    let line ← takeWhile (!isBreakOrEnd ·)
    let br ← lineBreak
    let next ← blockBreaks column ((← get).rest.length + 1)
    if (← get).column == column && (← peek) != endMark then
      let joint :=
        if folded && br == ['\n'] && leading && isText (← peek) then
          if next.isEmpty then [' '] else []
        else br
      let (text, last, after) ← blockLines folded column fuel next
      return (breaks ++ line ++ joint ++ text, last, after)
    else return (breaks ++ line, br, next)

/-- A block scalar. -/
def blockScalar (folded : Bool) : Scanner Token := do
  forward
  let (chomping, increment) ← blockMarks
  ignoredLine
  let least := ((← get).indent + 1).toNat.max 1
  let fuel := (← get).rest.length + 1
  let (column, breaks) ← match increment with
    | some n => do
      let column := least + n - 1
      pure (column, ← blockBreaks column fuel)
    | none => do
      let (breaks, greatest) ← firstBreaks fuel 0
      pure (max least greatest, breaks)
  let (text, last, after) ← blockLines folded column fuel breaks
  let text := match chomping with
    | .strip => text
    | .clip => text ++ last
    | .keep => text ++ last ++ after
  return .scalar (String.ofList text) .quoted

/-! ## Flow scalars -/

/-- The escapes of one character. -/
def escape? : Char → Option Char
  | '0' => some '\x00'
  | 'a' => some '\x07'
  | 'b' => some '\x08'
  | 't' => some '\t'
  | '\t' => some '\t'
  | 'n' => some '\n'
  | 'v' => some '\x0b'
  | 'f' => some '\x0c'
  | 'r' => some '\r'
  | 'e' => some '\x1b'
  | ' ' => some ' '
  | '"' => some '"'
  | '\\' => some '\\'
  | '/' => some '/'
  | 'N' => some '\u0085'
  | '_' => some ' '
  | 'L' => some ' '
  | 'P' => some ' '
  | _ => none

/-- The number of digits of an escape by code point. -/
def escapeDigits? : Char → Option Nat
  | 'x' => some 2
  | 'u' => some 4
  | 'U' => some 8
  | _ => none

/-- The line breaks inside a quoted scalar. -/
def quotedBreaks : (fuel : Nat) → Scanner (List Char)
  | 0 => return []
  | fuel + 1 => do
    if ← atSeparator then bad
    let _ ← takeWhile fun c => c == ' ' || c == '\t'
    let br ← lineBreak
    if br.isEmpty then return [] else return br ++ (← quotedBreaks fuel)

/-- The character of a code point; half of a pair stands for no character. -/
def codePoint (n : Nat) : Scanner Char :=
  if 0x110000 ≤ n then throw (.badValue "chr() arg not in range(0x110000)")
  else if 0xd800 ≤ n && n ≤ 0xdfff then return '�'
  else return Char.ofNat n

/-- The characters of a quoted scalar up to a blank, a line break or its end. -/
def quotedText (isDouble : Bool) : (fuel : Nat) → Scanner (List Char)
  | 0 => return []
  | fuel + 1 => do
    let text ← takeWhile fun c => !(c == '\'' || c == '"' || c == '\\' || isGap c)
    let c ← peek
    let more : Scanner (List Char) := quotedText isDouble fuel
    if !isDouble && c == '\'' && (← peekAt 1) == '\'' then
      forwardBy 2
      return text ++ '\'' :: (← more)
    else if (isDouble && c == '\'') || (!isDouble && (c == '"' || c == '\\')) then
      forward
      return text ++ c :: (← more)
    else if isDouble && c == '\\' then
      forward
      let e ← peek
      match escape? e, escapeDigits? e with
      | some x, _ =>
        forward
        return text ++ x :: (← more)
      | none, some count =>
        forward
        let x ← codePoint (← hexDigits count)
        return text ++ x :: (← more)
      | none, none =>
        if isBreak e then
          let _ ← lineBreak
          let breaks ← quotedBreaks fuel
          return text ++ breaks ++ (← more)
        else bad
    else return text

/-- The blanks and line breaks of a quoted scalar: one line break folds to a blank. -/
def quotedSpaces : Scanner (List Char) := do
  let blanks ← takeWhile fun c => c == ' ' || c == '\t'
  let c ← peek
  if c == endMark then bad
  if isBreak c then
    let br ← lineBreak
    let breaks ← quotedBreaks ((← get).rest.length + 1)
    if br != ['\n'] then return br ++ breaks
    else if breaks.isEmpty then return [' ']
    else return breaks
  else return blanks

/-- The rest of a quoted scalar. -/
def quotedRest (isDouble : Bool) : (fuel : Nat) → Scanner (List Char)
  | 0 => bad
  | fuel + 1 => do
    let text ← quotedText isDouble (fuel + 1)
    if (← peek) == (if isDouble then '"' else '\'') then
      forward
      return text
    let spaces ← quotedSpaces
    return text ++ spaces ++ (← quotedRest isDouble fuel)

/-- A quoted scalar. -/
def quotedScalar (isDouble : Bool) : Scanner Token := do
  forward
  let text ← quotedRest isDouble ((← get).rest.length + 2)
  return .scalar (String.ofList text) .quoted

/-! ## Plain scalars -/

/-- The number of characters up to the end of a word of a plain scalar. -/
def wordLength (flow : Bool) : List Char → Nat
  | [] => 0
  | c :: rest =>
    let next := rest.headD endMark
    let ends := isGap c ||
      (c == ':' && (isGap next || (flow && ",[]\x7b\x7d".toList.contains next))) ||
      (flow && ",?[]\x7b\x7d".toList.contains c)
    if ends then 0 else wordLength flow rest + 1

/-- The empty lines inside a plain scalar; none at a document separator. -/
def plainBreaks : (fuel : Nat) → Scanner (Option (List Char))
  | 0 => return some []
  | fuel + 1 => do
    if (← peek) == ' ' then
      forward
      plainBreaks fuel
    else
      let br ← lineBreak
      if br.isEmpty then return some []
      if ← atSeparator then return none
      return (← plainBreaks fuel).map (br ++ ·)

/-- The blanks and line breaks between the words of a plain scalar. -/
def plainSpaces : Scanner (List Char) := do
  let blanks ← takeWhile (· == ' ')
  if isBreak (← peek) then
    let br ← lineBreak
    setAllowKey true
    if ← atSeparator then return []
    match ← plainBreaks ((← get).rest.length + 1) with
    | none => return []
    | some breaks =>
      if br != ['\n'] then return br ++ breaks
      else if breaks.isEmpty then return [' ']
      else return breaks
  else return blanks

/-- The words of a plain scalar; `spaces` stand before the next one. -/
def plainWords (indent : Int) : (fuel : Nat) → (spaces : List Char) → Scanner (List Char)
  | 0, _ => return []
  | fuel + 1, spaces => do
    if (← peek) == '#' then return []
    let flow ← inFlow
    let length := wordLength flow (← get).rest
    if length = 0 then return []
    setAllowKey false
    let word := (← get).rest.take length
    forwardBy length
    let next ← plainSpaces
    if next.isEmpty || (← peek) == '#' || (!flow && (← get).column < indent) then
      return spaces ++ word
    return spaces ++ word ++ (← plainWords indent fuel next)

/-- A plain scalar. -/
def plainScalar : Scanner Token := do
  let s ← get
  let text ← plainWords (s.indent + 1) (s.rest.length + 1) []
  return .scalar (String.ofList text) .plain

/-! ## Tokens -/

/-- Does a plain scalar start here? -/
def startsPlain : Scanner Bool := do
  let c ← peek
  if !(isGap c || "-?:,[]\x7b\x7d#&*!|>'\"%@\x60".toList.contains c) then return true
  return !isGap (← peekAt 1) && (c == '-' || (!(← inFlow) && (c == '?' || c == ':')))

/-- A document separator. -/
def separator (t : Token) : Scanner Unit := do
  unwindTo (-1)
  dropPossibleKey
  setAllowKey false
  forwardBy 3
  emit t

/-- The start of a flow collection. -/
def flowStart (t : Token) : Scanner Unit := do
  saveKey
  modify fun s => { s with flowLevel := s.flowLevel + 1 }
  setAllowKey true
  forward
  emit t

/-- The end of a flow collection. -/
def flowEnd (t : Token) : Scanner Unit := do
  dropPossibleKey
  modify fun s => { s with flowLevel := s.flowLevel - 1 }
  setAllowKey false
  forward
  emit t

/-- Open a block at the current column, where a key or an entry may stand. -/
def openBlock (t : Token) : Scanner Unit := do
  if !(← inFlow) then
    if !(← get).allowKey then bad
    if ← addIndent (← get).column then emit t

/-- An entry of a block sequence. -/
def blockEntry : Scanner Unit := do
  openBlock .blockSequenceStart
  setAllowKey true
  dropPossibleKey
  forward
  emit .blockEntry

/-- A key with a question mark. -/
def explicitKey : Scanner Unit := do
  openBlock .blockMappingStart
  setAllowKey (!(← inFlow))
  dropPossibleKey
  forward
  emit .key

/-- Put a token at a place among the tokens. -/
def insertToken (n : Nat) (t : Token) : Scanner Unit :=
  modify fun s => { s with tokens := s.tokens.take n ++ t :: s.tokens.drop n }

/-- The colon before a value. It makes a key of the possible key before it, if there is one. -/
def valueMark : Scanner Unit := do
  match ← possibleKey? with
  | some k =>
    modify fun s => { s with possibleKeys := s.possibleKeys.filter (·.1 != s.flowLevel) }
    insertToken k.number .key
    if !(← inFlow) then
      if ← addIndent k.column then insertToken k.number .blockMappingStart
    setAllowKey false
  | none =>
    openBlock .blockMappingStart
    setAllowKey (!(← inFlow))
    dropPossibleKey
  forward
  emit .value

/-- A token that may be a key. -/
def keyLike (scan : Scanner Token) : Scanner Unit := do
  saveKey
  setAllowKey false
  let t ← scan
  emit t

/-- Scan the next token; the result tells whether it was the last one. -/
def nextToken : Scanner Bool := do
  toNextToken ((← get).rest.length + 1)
  dropStaleKeys
  unwindTo (← get).column
  let c ← peek
  let c1 ← peekAt 1
  let flow ← inFlow
  let atStart := (← get).column == 0
  if c == endMark then
    unwindTo (-1)
    dropPossibleKey
    emit .streamEnd
    return true
  else if c == '%' && atStart then
    unwindTo (-1)
    dropPossibleKey
    setAllowKey false
    let d ← directive
    emit (.directive d)
  else if c == '-' && atStart && (← atSeparator) then separator .documentStart
  else if c == '.' && atStart && (← atSeparator) then separator .documentEnd
  else if c == '[' then flowStart .flowSequenceStart
  else if c == '{' then flowStart .flowMappingStart
  else if c == ']' then flowEnd .flowSequenceEnd
  else if c == '}' then flowEnd .flowMappingEnd
  else if c == ',' then
    setAllowKey true
    dropPossibleKey
    forward
    emit .flowEntry
  else if c == '-' && isGap c1 then blockEntry
  else if c == '?' && (flow || isGap c1) then explicitKey
  else if c == ':' && (flow || isGap c1) then valueMark
  else if c == '*' then keyLike (return .alias (← anchorName))
  else if c == '&' then keyLike (return .anchor (← anchorName))
  else if c == '!' then keyLike (return .tag (← tag))
  else if (c == '|' || c == '>') && !flow then
    setAllowKey true
    dropPossibleKey
    let t ← blockScalar (c == '>')
    emit t
  else if c == '\'' then keyLike (quotedScalar false)
  else if c == '"' then keyLike (quotedScalar true)
  else if ← startsPlain then keyLike plainScalar
  else bad
  return false

/-- Scan all tokens. -/
def allTokens : (fuel : Nat) → Scanner Unit
  | 0 => return
  | fuel + 1 => do
    if ← nextToken then return
    allTokens fuel

end Scanner

/-- The tokens of a text. A byte order mark at its start is left out. -/
def tokens (text : List Char) : Except Error (List Token) := do
  if !text.all isAllowed then throw .malformed
  let (rest, index) := match text with
    | '\ufeff' :: rest => (rest, 1)
    | _ => (text, 0)
  let start : Scan :=
    { rest, index, line := 0, column := 0, flowLevel := 0, tokens := [], indent := -1
      indents := [], allowKey := true, possibleKeys := [] }
  let ((), done) ← (Scanner.allTokens (2 * text.length + 2)).run start
  return done.tokens

end ApiDecl.Yaml
