import ApiDecl.Pattern.Error
import ApiDecl.Text.Blank
import ApiDecl.Text.Identifier
import ApiDecl.Text.Word

/-!
# Reading patterns

A pattern is cut into tokens, a backslash with the character after it or a single character, and
read by recursive descent. A backslash at the very end is an error as soon as it comes next.

Every step takes at least one token for a bounded number of calls, so a fuel of four times the
number of tokens never runs out.

Which characters have names is not known here: patterns are read with any table of names
(`CharacterNames`).
-/

namespace ApiDecl.Pattern

/-- Counts of rounds are below this. -/
def roundLimit : Nat := 4294967295

/-- Cut a pattern into tokens. -/
def tokenize : List Char → List (List Char)
  | [] => []
  | '\\' :: c :: rest => ['\\', c] :: tokenize rest
  | c :: rest => [c] :: tokenize rest

/-- A table of the names of characters. -/
class CharacterNames where
  /-- The code point that a name stands for. -/
  codeOf? : String → Option Nat

/-- The table without names, which counts where no other one is given. -/
instance (priority := low) : CharacterNames := ⟨fun _ => none⟩

/-- How far reading has come. -/
structure Progress where
  /-- The names of characters. -/
  characters : CharacterNames
  /-- The tokens to come. -/
  tokens : List (List Char)
  /-- The number of characters read. -/
  position : Nat
  /-- The flags of the whole pattern. -/
  flags : List Flag
  /-- The names of groups. -/
  names : List (String × Nat)
  /-- The widths of the groups opened so far; none for a group that is still open. -/
  groups : List (Option Width)
  /-- Inside a look-behind, the number of the first group that opens in it. -/
  behind : Option Nat
  /-- Groups that conditions refer to by number, with the places of the references. -/
  awaited : List (Nat × Nat)

/-- A step of reading. -/
abbrev Parser := StateT Progress (Except Error)

namespace Parser

/-- Stop with a cause, `back` characters before the current position. -/
def fail {α : Type} (cause : Cause) (back : Nat) : Parser α := do
  throw (.malformed cause ((← get).position - back))

/-- The next token. -/
def peek : Parser (Option (List Char)) := return (← get).tokens.head?

/-- The current position. -/
def position : Parser Nat := return (← get).position

/-- Is the next token this character? -/
def nextIs (c : Char) : Parser Bool := return (← peek) == some [c]

/-- Refuse a lone backslash as the next token. -/
def checkNext : Parser Unit := do
  if ← nextIs '\\' then fail .danglingBackslash 0

/-- Take the next token. -/
def take : Parser (Option (List Char)) := do
  match (← get).tokens with
  | [] => return none
  | token :: rest =>
    modify fun s => { s with tokens := rest, position := s.position + token.length }
    checkNext
    return some token

/-- Take the next token if it is this character. -/
def accept (c : Char) : Parser Bool := do
  if ← nextIs c then
    let _ ← take
    return true
  else return false

/-- Go back to an earlier state of the text, keeping all else. -/
def rewind (earlier : Progress) : Parser Unit :=
  modify fun s => { s with tokens := earlier.tokens, position := earlier.position }

/-- Take up to a number of characters of a class. -/
def takeUpTo (p : Char → Bool) : Nat → Parser (List Char)
  | 0 => return []
  | n + 1 => do
    match ← peek with
    | some [c] =>
      if p c then
        let _ ← take
        return c :: (← takeUpTo p n)
      else return []
    | _ => return []

/-- Take all characters of a class. -/
def takeAll (p : Char → Bool) : Parser (List Char) := do takeUpTo p (← get).tokens.length

/-- Take a name up to its terminator. -/
def takeName (terminator : Char) (what : String) : (fuel : Nat) → List Char → Parser (List Char)
  | 0, name => return name
  | fuel + 1, name => do
    match ← take with
    | none =>
      if name.isEmpty then fail (.missing what) 0
      else fail (.unterminatedName terminator) name.length
    | some token =>
      if token = [terminator] then
        if name.isEmpty then fail (.missing what) 1 else return name
      else takeName terminator what fuel (name ++ token)

/-- A name up to its terminator. -/
def nameUntil (terminator : Char) (what : String) : Parser (List Char) := do
  takeName terminator what ((← get).tokens.length + 1) []

/-! ## Groups -/

/-- The number of the next group to open. -/
def nextGroup : Parser Nat := return (← get).groups.length + 1

/-- The width of a group that is closed. -/
def closedGroup? (group : Nat) : Parser (Option Width) := do
  if group = 0 then return none
  return (← get).groups[group - 1]?.join

/-- Refuse references from a look-behind into itself. -/
def checkLookBehind (group : Nat) : Parser Unit := do
  match (← get).behind with
  | none => return
  | some first =>
    if (← closedGroup? group).isNone then fail .openGroup 0
    if first ≤ group then fail .sameLookBehind 0

/-- Open a group, with or without a name. -/
def openGroup (name : Option (List Char)) : Parser Nat := do
  let group ← nextGroup
  modify fun s => { s with groups := s.groups ++ [none] }
  match name with
  | none => return group
  | some name =>
    match (← get).names.lookup (String.ofList name) with
    | some earlier =>
      fail (.redefinedGroupName (String.ofList name) group earlier) (name.length + 1)
    | none =>
      modify fun s => { s with names := s.names ++ [(String.ofList name, group)] }
      return group

/-- Close a group. -/
def closeGroup (group : Nat) (width : Width) : Parser Unit :=
  modify fun s => { s with groups := s.groups.set (group - 1) (some width) }

/-! ## Escapes -/

/-- Octal digits. -/
def isOctal (c : Char) : Bool := '0' ≤ c && c ≤ '7'

/-- Hexadecimal digits. -/
def isHex (c : Char) : Bool :=
  c.isDigit || ('a' ≤ c && c ≤ 'f') || ('A' ≤ c && c ≤ 'F')

/-- The value of a digit in any base up to sixteen. -/
def digitValue (c : Char) : Nat :=
  if c.isDigit then c.toNat - 0x30
  else if 'a' ≤ c then c.toNat - 0x57
  else c.toNat - 0x37

/-- The value of digits. -/
def numeral (base : Nat) (ds : List Char) : Nat := ds.foldl (fun n d => n * base + digitValue d) 0

/-- The escapes that stand for a control character or the backslash. -/
def controlEscape? : Char → Option Nat
  | 'a' => some 7
  | 'b' => some 8
  | 'f' => some 12
  | 'n' => some 10
  | 'r' => some 13
  | 't' => some 9
  | 'v' => some 11
  | '\\' => some 0x5c
  | _ => none

/-- The escapes that stand for a class. -/
def classEscape? : Char → Option Member
  | 'd' => some (.cls .digit false)
  | 'D' => some (.cls .digit true)
  | 's' => some (.cls .space false)
  | 'S' => some (.cls .space true)
  | 'w' => some (.cls .word false)
  | 'W' => some (.cls .word true)
  | _ => none

/-- The escapes that stand for a place. -/
def anchorEscape? : Char → Option Anchor
  | 'A' => some .textStart
  | 'b' => some .boundary
  | 'B' => some .noBoundary
  | 'Z' => some .textStop
  | _ => none

/-- A code point in a fixed number of hexadecimal digits. -/
def hexEscape (c : Char) (count : Nat) : Parser Nat := do
  let ds ← takeUpTo isHex count
  let text := '\\' :: c :: ds
  if ds.length ≠ count then fail (.incompleteEscape (String.ofList text)) text.length
  let n := numeral 16 ds
  if 0x110000 ≤ n then fail (.badEscape (String.ofList text)) text.length
  return n

/-- A character by its name. -/
def namedEscape : Parser Nat := do
  if !(← accept '{') then fail .missingBrace 0
  let name ← nameUntil '}' "character name"
  match (← get).characters.codeOf? (String.ofList name) with
  | some code => return code
  | none => fail (.undefinedName (String.ofList name)) (name.length + 4)

/-- The escapes by code point, shared by sets and sequences. -/
def codeEscape? (c : Char) : Option (Parser Nat) :=
  match c with
  | 'x' => some (hexEscape 'x' 2)
  | 'u' => some (hexEscape 'u' 4)
  | 'U' => some (hexEscape 'U' 8)
  | 'N' => some namedEscape
  | _ => none

/-- An escape that is none of the others: punctuation stands for itself. -/
def plainEscape (c : Char) : Parser Nat :=
  if c.isAlphanum then fail (.badEscape (String.ofList ['\\', c])) 2
  else return c.toNat

/-- An escape inside a set. -/
def setEscape (c : Char) : Parser Member :=
  match controlEscape? c, classEscape? c, codeEscape? c with
  | some n, _, _ => return .char n
  | _, some m, _ => return m
  | _, _, some code => return .char (← code)
  | _, _, _ =>
    if isOctal c then do
      let text := '\\' :: c :: (← takeUpTo isOctal 2)
      let n := numeral 8 (text.drop 1)
      if 0o377 < n then fail (.octalRange (String.ofList text)) text.length
      return .char n
    else return .char (← plainEscape c)

/-- A reference to a group by number, or an octal escape of three digits. -/
def digitEscape (c : Char) : Parser Item := do
  let second ← takeUpTo Char.isDigit 1
  let third ←
    if isOctal c && second.any isOctal then takeUpTo isOctal 1 else pure []
  let text := '\\' :: c :: second ++ third
  if !third.isEmpty then
    let n := numeral 8 (text.drop 1)
    if 0o377 < n then fail (.octalRange (String.ofList text)) text.length
    return .char n
  let group := numeral 10 (text.drop 1)
  if group < (← nextGroup) then
    match ← closedGroup? group with
    | none => fail .openGroup text.length
    | some width =>
      checkLookBehind group
      return .backref group width
  else fail (.invalidReference group) (text.length - 1)

/-- An escape in a sequence. -/
def sequenceEscape (c : Char) : Parser Item :=
  match anchorEscape? c, classEscape? c, controlEscape? c, codeEscape? c with
  | some a, _, _, _ => return .anchor a
  | _, some m, _, _ => return .set false [m]
  | _, _, some n, _ => return .char n
  | _, _, _, some code => return .char (← code)
  | _, _, _, _ =>
    if c = '0' then do
      let ds ← takeUpTo isOctal 2
      return .char (numeral 8 ds)
    else if c.isDigit then digitEscape c
    else return .char (← plainEscape c)

/-! ## Sets -/

/-- A token inside a set. -/
def setMember (token : List Char) : Parser Member :=
  match token with
  | ['\\', c] => setEscape c
  | c :: _ => return .char c.toNat
  | [] => return .char 0

/-- The members of a set up to its closing bracket. `opening` is the position of the opening one,
and `done` holds the members read so far. -/
def setMembers (opening : Nat) : (fuel : Nat) → (done : List Member) → Parser (List Member)
  | 0, done => return done
  | fuel + 1, done => do
    let unterminated : Parser (List Member) := do
      fail .unterminatedSet ((← position) - opening)
    match ← take with
    | none => unterminated
    | some low =>
      if low = [']'] && !done.isEmpty then return done
      let first ← setMember low
      if !(← accept '-') then return ← setMembers opening fuel (done ++ [first])
      match ← take with
      | none => unterminated
      | some high =>
        if high = [']'] then return done ++ [first, .char '-'.toNat]
        let second ← setMember high
        let bad : Parser (List Member) :=
          fail (.badRange (String.ofList low) (String.ofList high)) (low.length + 1 + high.length)
        match first, second with
        | .char a, .char b =>
          if b < a then bad else setMembers opening fuel (done ++ [.range a b])
        | _, _ => bad

/-- A set after its opening bracket. -/
def set : Parser Item := do
  let opening := (← position) - 1
  let negated ← accept '^'
  let members ← setMembers opening ((← get).tokens.length + 1) []
  return .set negated members

/-! ## Repetition -/

/-- The bounds of a repetition after its first character, or none when a brace stands for itself. -/
def bounds (c : Char) : Parser (Option (Nat × Option Nat)) := do
  match c with
  | '?' => return some (0, some 1)
  | '*' => return some (0, none)
  | '+' => return some (1, none)
  | _ =>
    let start ← get
    if ← nextIs '}' then return none
    let low ← takeAll Char.isDigit
    let high ← if ← accept ',' then takeAll Char.isDigit else pure low
    if !(← accept '}') then
      rewind start
      return none
    let least := numeral 10 low
    let most := if high.isEmpty then none else some (numeral 10 high)
    if roundLimit ≤ least then throw .hugeRepeat
    if most.any (roundLimit ≤ ·) then throw .hugeRepeat
    if most.any (· < least) then fail .leastAboveMost ((← position) - start.position)
    return some (least, most)

/-- A repetition of the last item; `done` holds the items read so far, the last one first. -/
def repetition (c : Char) (done : List Item) : Parser (List Item) := do
  let start ← position
  match ← bounds c with
  | none => return .char c.toNat :: done
  | some (least, most) =>
    let back := (← position) - start + 1
    match done with
    | [] => fail .nothingToRepeat back
    | .anchor _ :: _ => fail .nothingToRepeat back
    | .loop .. :: _ => fail .multipleRepeat back
    | item :: before =>
      let body := match item with
        | .group none [] [] body => body
        | _ => [item]
      let greed : Greed ← do
        if ← accept '?' then pure .lazy
        else if ← accept '+' then pure .possessive
        else pure .greedy
      return .loop greed least most body :: before

/-! ## Inline flags -/

/-- The flag of a letter; `none` inside for the one flag that patterns of text cannot have. -/
def flagLetter? : Char → Option (Option Flag)
  | 'i' => some (some .ignoreCase)
  | 'm' => some (some .multiLine)
  | 's' => some (some .dotAll)
  | 'x' => some (some .verbose)
  | 'a' => some (some .ascii)
  | 'u' => some (some .unicode)
  | 't' => some (some .template)
  | 'L' => some none
  | _ => none

/-- What ends the flags that are turned on. -/
inductive FlagEnd
  | paren
  | minus
  | colon
deriving DecidableEq

/-- Complain about a token that is no flag. -/
def noFlag {α : Type} (token : List Char) (what : String) : Parser α :=
  match token with
  | [c] => fail (if Text.isAlphabetic c then .unknownFlag else .missing what) 1
  | _ => fail (.missing what) token.length

/-- The flags to turn on, from the letter `c` on. -/
def flagsOn : (fuel : Nat) → Char → List Flag → Parser (List Flag × FlagEnd)
  | 0, _, done => return (done, .colon)
  | fuel + 1, c, done => do
    match flagLetter? c with
    | none => noFlag [c] "-, : or )"
    | some none => fail .localeFlag 0
    | some (some flag) =>
      let done := done ++ [flag]
      if flag.isType && done.any (fun f => f.isType && f ≠ flag) then fail .incompatibleFlags 0
      match ← take with
      | none => fail (.missing "-, : or )") 0
      | some [')'] => return (done, .paren)
      | some ['-'] => return (done, .minus)
      | some [':'] => return (done, .colon)
      | some [c] => flagsOn fuel c done
      | some token => noFlag token "-, : or )"

/-- The flags to turn off, from a token on. -/
def flagsOff : (fuel : Nat) → List Char → List Flag → Parser (List Flag)
  | 0, _, done => return done
  | fuel + 1, token, done => do
    let what := if done.isEmpty then "flag" else ":"
    match token with
    | [c] =>
      match flagLetter? c with
      | none => noFlag token what
      | some none => fail .typeFlagOff 0
      | some (some flag) =>
        if flag.isType then fail .typeFlagOff 0
        let done := done ++ [flag]
        match ← take with
        | none => fail (.missing ":") 0
        | some [':'] => return done
        | some token => flagsOff fuel token done
    | _ => noFlag token what

/-- Inline flags from their first character on: flags for the whole pattern give none, flags for
a group are those it turns on and off. -/
def inlineFlags (c : Char) : Parser (Option (List Flag × List Flag)) := do
  let fuel := (← get).tokens.length + 2
  let (add, stop) ← if c = '-' then pure ([], FlagEnd.minus) else flagsOn fuel c []
  if stop = .paren then
    modify fun s => { s with flags := s.flags ++ add }
    return none
  if add.contains .template then fail .globalFlagOn 1
  let del ← if stop = .minus then do
      match ← take with
      | none => fail (.missing "flag") 0
      | some token => flagsOff fuel token []
    else pure []
  if del.contains .template then fail .globalFlagOff 1
  if add.any del.contains then fail .flagOnAndOff 1
  return some (add, del)

/-! ## Sequences and groups -/

/-- Blanks that verbose patterns leave out. -/
def isLayout (c : Char) : Bool :=
  c == ' ' || c == '\t' || c == '\n' || c == '\r' || c == '\x0b' || c == '\x0c'

/-- Skip a comment of a verbose pattern up to the end of its line. -/
def skipLine : (fuel : Nat) → Parser Unit
  | 0 => return
  | fuel + 1 => do
    match ← take with
    | none => return
    | some ['\n'] => return
    | some _ => skipLine fuel

/-- Skip a comment group up to its parenthesis. `opening` is the position of the opening one. -/
def skipComment (opening : Nat) : (fuel : Nat) → Parser Unit
  | 0 => return
  | fuel + 1 => do
    if (← peek).isNone then fail .unterminatedComment ((← position) - opening)
    match ← take with
    | some [')'] => return
    | _ => skipComment opening fuel

/-- Check that a name is an identifier. -/
def checkGroupName (name : List Char) : Parser Unit :=
  if Text.isIdentifier name then return
  else fail (.badGroupName (String.ofList name)) (name.length + 1)

/-- The group of a name. -/
def namedGroup (name : List Char) : Parser Nat := do
  match (← get).names.lookup (String.ofList name) with
  | some group => return group
  | none => fail (.unknownGroupName (String.ofList name)) (name.length + 1)

/-- A reference to a group by name, after `(?P=`. -/
def namedBackref : Parser Item := do
  let name ← nameUntil ')' "group name"
  checkGroupName name
  let group ← namedGroup name
  match ← closedGroup? group with
  | none => fail .openGroup (name.length + 1)
  | some width =>
    checkLookBehind group
    return .backref group width

/-- Decimal digits of any script after the value `n`, single underscores between them left out;
`ready` tells whether an underscore or the end may follow. -/
def digitsAfter? (n : Nat) (ready : Bool) : List Char → Option Nat
  | [] => if ready then some n else none
  | c :: rest =>
    if c = '_' then if ready then digitsAfter? n false rest else none
    else match Text.decimalValue? c with
      | some d => digitsAfter? (n * 10 + d) true rest
      | none => none

/-- The value of decimal digits. -/
def decimalDigits? (cs : List Char) : Option Nat := digitsAfter? 0 false cs

/-- A number with blanks around it and a sign before it; none when it is negative. -/
def groupNumber? (cs : List Char) : Option Nat :=
  match Text.trim cs with
  | '-' :: rest => (decimalDigits? rest).filter (· = 0)
  | '+' :: rest => decimalDigits? rest
  | rest => decimalDigits? rest

/-- Groups have numbers below this. -/
def groupLimit : Nat := 1073741823

/-- The group that a condition asks for, after `(?(`. -/
def conditionGroup : Parser Nat := do
  let name ← nameUntil ')' "group name"
  let group ←
    if Text.isIdentifier name then namedGroup name
    else
      match groupNumber? name with
      | none => fail (.badGroupName (String.ofList name)) (name.length + 1)
      | some 0 => fail .badGroupNumber (name.length + 1)
      | some group =>
        if groupLimit ≤ group then fail (.invalidReference group) (name.length + 1)
        let place := (← position) - name.length - 1
        modify fun s =>
          if s.awaited.any (·.1 == group) then s
          else { s with awaited := s.awaited ++ [(group, place)] }
        pure group
  checkLookBehind group
  return group

/-- Take the closing parenthesis of the group that opened at a position. -/
def closeParen (opening : Nat) : Parser Unit := do
  if !(← accept ')') then fail .unterminatedGroup ((← position) - opening)

/-- What a parenthesis opens. -/
inductive Opening
  /-- A group with its content still to come. -/
  | content (capture : Bool) (name : Option (List Char)) (isAtomic : Bool) (add del : List Flag)
  | look (behind negated : Bool)
  | condition (group : Nat)
  /-- A whole item. -/
  | item (i : Item)
  /-- Nothing that matches: a comment. -/
  | nothing
  /-- Flags for the whole pattern. -/
  | globalFlags

/-- What stands between an opening parenthesis and the content of its group. `opening` is the
position of the parenthesis. -/
def groupOpening (opening : Nat) : Parser Opening := do
  if !(← accept '?') then return .content true none false [] []
  match ← take with
  | none => fail .unexpectedEnd 0
  | some ['P'] =>
    if ← accept '<' then
      let name ← nameUntil '>' "group name"
      checkGroupName name
      return .content true (some name) false [] []
    else if ← accept '=' then return .item (← namedBackref)
    else
      match ← take with
      | none => fail .unexpectedEnd 0
      | some token => fail (.unknownExtension (String.ofList ('P' :: token))) (token.length + 2)
  | some [':'] => return .content false none false [] []
  | some ['#'] =>
    skipComment opening ((← get).tokens.length + 1)
    return .nothing
  | some ['='] => return .look false false
  | some ['!'] => return .look false true
  | some ['<'] =>
    match ← take with
    | none => fail .unexpectedEnd 0
    | some ['='] => return .look true false
    | some ['!'] => return .look true true
    | some token => fail (.unknownExtension (String.ofList ('<' :: token))) (token.length + 2)
  | some ['('] => return .condition (← conditionGroup)
  | some ['>'] => return .content false none true [] []
  | some token =>
    match token with
    | [c] =>
      if (flagLetter? c).isSome || c = '-' then
        match ← inlineFlags c with
        | none => return .globalFlags
        | some (add, del) => return .content false none false add del
      else fail (.unknownExtension (String.ofList token)) (token.length + 1)
    | _ => fail (.unknownExtension (String.ofList token)) (token.length + 1)

/-- Special characters that start a repetition. -/
def isRepeat (c : Char) : Bool := c == '*' || c == '+' || c == '?' || c == '{'

mutual

/-- Alternatives up to a closing parenthesis or the end. `top` holds for the whole pattern, where
flags may still be set. -/
def alternatives : (fuel : Nat) → (verbose top : Bool) → Parser (List Item)
  | 0, _, _ => return []
  | fuel + 1, verbose, top => do
    let items ← sequence fuel verbose top []
    let others ← moreAlternatives fuel verbose top
    match others with
    | [] => return items
    | others => return [.choice (items :: others)]

/-- The alternatives after the first. -/
def moreAlternatives : (fuel : Nat) → (verbose top : Bool) → Parser (List (List Item))
  | 0, _, _ => return []
  | fuel + 1, verbose, top => do
    if !(← accept '|') then return []
    let verbose ← if top then pure ((← get).flags.contains .verbose) else pure verbose
    let items ← sequence fuel verbose false []
    return items :: (← moreAlternatives fuel verbose top)

/-- A sequence up to a bar, a closing parenthesis or the end. `first` holds where flags for the
whole pattern may stand, and `done` holds the items read so far, the last one first. -/
def sequence : (fuel : Nat) → (verbose first : Bool) → (done : List Item) → Parser (List Item)
  | 0, _, _, done => return done.reverse
  | fuel + 1, verbose, first, done => do
    match ← peek with
    | none => return done.reverse
    | some ['|'] => return done.reverse
    | some [')'] => return done.reverse
    | some token =>
      let _ ← take
      match token with
      -- Only a backslash makes a token of two characters.
      | [_, c] =>
        let item ← sequenceEscape c
        sequence fuel verbose first (item :: done)
      | [c] =>
        if verbose && isLayout c then sequence fuel verbose first done
        else if verbose && c = '#' then
          skipLine ((← get).tokens.length + 1)
          sequence fuel verbose first done
        else if c = '[' then
          let item ← set
          sequence fuel verbose first (item :: done)
        else if isRepeat c then
          let done ← repetition c done
          sequence fuel verbose first done
        else if c = '.' then sequence fuel verbose first (.any :: done)
        else if c = '^' then sequence fuel verbose first (.anchor .start :: done)
        else if c = '$' then sequence fuel verbose first (.anchor .stop :: done)
        else if c = '(' then
          let opening := (← position) - 1
          match ← groupOpening opening with
          | .nothing => sequence fuel verbose first done
          | .item item => sequence fuel verbose first (item :: done)
          | .globalFlags =>
            if !first || !done.isEmpty then fail .flagsNotAtStart ((← position) - opening)
            sequence fuel ((← get).flags.contains .verbose) first done
          | .look behind negated =>
            let outer := (← get).behind
            if behind && outer.isNone then
              let group ← nextGroup
              modify fun s => { s with behind := some group }
            let body ← alternatives fuel verbose false
            if behind then modify fun s => { s with behind := outer }
            closeParen opening
            sequence fuel verbose first (.look behind negated body :: done)
          | .condition group =>
            let yes ← sequence fuel verbose false []
            let no ← if ← accept '|' then do
                let no ← sequence fuel verbose false []
                if ← nextIs '|' then fail .tooManyBranches 0
                pure no
              else pure []
            closeParen opening
            sequence fuel verbose first (.conditional group yes no :: done)
          | .content capture name isAtomic add del =>
            let group ← if capture then some <$> openGroup name else pure none
            let inner := (verbose || add.contains .verbose) && !del.contains .verbose
            let body ← alternatives fuel inner false
            closeParen opening
            match group with
            | some group => closeGroup group (seqWidth body)
            | none => pure ()
            let item := if isAtomic then .atomic body else .group group add del body
            sequence fuel verbose first (item :: done)
        else sequence fuel verbose first (.char c.toNat :: done)
      | _ => sequence fuel verbose first done

end

/-- A whole pattern: its items and flags. -/
def whole (fuel : Nat) : Parser (List Item) := do
  checkNext
  let items ← alternatives fuel false true
  let flags := (← get).flags
  if flags.contains .ascii && flags.contains .unicode then throw .incompatibleTypes
  if (← peek).isSome then fail .unbalanced 0
  let groups := (← get).groups.length
  match (← get).awaited.find? (groups < ·.1) with
  | some (group, place) => throw (.malformed (.invalidReference group) place)
  | none => return items

end Parser

mutual

/-- The first fault of an item that concerns the pattern as a whole. -/
def Item.fault? (template : Bool) : Item → Option Error
  | .loop greed _ _ body =>
    if template then some (.repeatInTemplate greed) else seqFault? template body
  | .look true _ body =>
    let w := seqWidth body
    if roundLimit < w.least then some .distantLookBehind
    else if w.least ≠ w.most then some .variableLookBehind
    else seqFault? template body
  | .look false _ body | .group _ _ _ body | .atomic body => seqFault? template body
  | .choice alternatives => choiceFault? template alternatives
  | .conditional _ yes no => (seqFault? template yes) <|> seqFault? template no
  | _ => none

/-- The first fault of a sequence. -/
def seqFault? (template : Bool) : List Item → Option Error
  | [] => none
  | item :: rest => (item.fault? template) <|> seqFault? template rest

/-- The first fault of a choice. -/
def choiceFault? (template : Bool) : List (List Item) → Option Error
  | [] => none
  | items :: rest => (seqFault? template items) <|> choiceFault? template rest

end

end ApiDecl.Pattern

namespace ApiDecl

/-- A pattern that is ready to match. -/
structure Pattern where
  flags : List Pattern.Flag
  items : List Pattern.Item
deriving Repr, Inhabited

/-- Read a pattern. -/
def Pattern.compile [characters : Pattern.CharacterNames] (text : String) :
    Except Pattern.Error Pattern := do
  let tokens := Pattern.tokenize text.toList
  let start : Pattern.Progress :=
    { characters, tokens, position := 0, flags := [], names := [], groups := [], behind := none,
      awaited := [] }
  let (items, done) ← (Pattern.Parser.whole (4 * tokens.length + 8)).run start
  match Pattern.seqFault? (done.flags.contains .template) items with
  | some error => throw error
  | none => return { flags := done.flags, items }

end ApiDecl
