import ApiDecl.Pattern.Parse
import ApiDecl.Text.Case

/-!
# Matching patterns

A matcher takes a cursor and what comes next, and gives the cursor at which all of it has matched.
Trying alternatives in order and coming back when what comes next fails is thereby built in.

`Pattern.search` asks whether a pattern matches anywhere in a text.
-/

namespace ApiDecl.Pattern

/-- A place in the text, with what the groups have captured. -/
structure Cursor where
  /-- The number of characters before the place. -/
  position : Nat
  /-- The characters before the place, the nearest first. -/
  before : List Char
  /-- The characters after the place. -/
  rest : List Char
  /-- The texts of the groups; the first entry of a group counts. -/
  captures : List (Nat × List Char)
deriving Repr

namespace Cursor

/-- The cursor after one more character. -/
def advance (c : Cursor) (x : Char) (rest : List Char) : Cursor :=
  { c with position := c.position + 1, before := x :: c.before, rest }

/-- The cursor a number of characters earlier. -/
def back (c : Cursor) (n : Nat) : Cursor :=
  { c with
    position := c.position - n
    before := c.before.drop n
    rest := (c.before.take n).reverse ++ c.rest }

/-- Capture the text since a position for a group. -/
def capture (c : Cursor) (group start : Nat) : Cursor :=
  { c with
    captures := (group, (c.before.take (c.position - start)).reverse) :: c.captures }

end Cursor

/-- A way to match: from a cursor, with what comes next. -/
abbrev Matcher := Cursor → (Cursor → Option Cursor) → Option Cursor

/-! ## Characters -/

/-- The lower-case form under the flags. -/
def lowerUnder (flags : List Flag) (n : Nat) : Nat :=
  if flags.contains .ascii then (if 0x41 ≤ n && n ≤ 0x5a then n + 0x20 else n) else Text.lower n

/-- The lower-case code points that count as equal to a lower-case one. -/
def equalLowers (flags : List Flag) (n : Nat) : List Nat :=
  n :: if flags.contains .ascii then [] else Text.relatives n

/-- The code points that are equal up to case to a lower-case one. -/
def caseVariants (flags : List Flag) (n : Nat) : List Nat :=
  if flags.contains .ascii then n :: if 0x61 ≤ n && n ≤ 0x7a then [n - 0x20] else []
  else (equalLowers flags n).flatMap fun m => m :: Text.raised m

/-- Is the character in a class? -/
def CharClass.contains (flags : List Flag) (x : Char) : CharClass → Bool
  | digit => if flags.contains .ascii then x.isDigit else Text.isDecimal x
  | space => if flags.contains .ascii then Parser.isLayout x else Text.isBlank x
  | word => if flags.contains .ascii then x.isAlphanum || x == '_' else Text.isWord x

/-- Does a code point stand for the character? -/
def codeMatches (flags : List Flag) (code : Nat) (x : Char) : Bool :=
  if flags.contains .ignoreCase then
    (equalLowers flags (lowerUnder flags code)).contains (lowerUnder flags x.toNat)
  else code == x.toNat

/-- Does a member of a set hold the character? -/
def Member.holds (flags : List Flag) (x : Char) : Member → Bool
  | char code => codeMatches flags code x
  | range low high =>
    if flags.contains .ignoreCase then
      (caseVariants flags (lowerUnder flags x.toNat)).any fun n => low ≤ n && n ≤ high
    else low ≤ x.toNat && x.toNat ≤ high
  | cls c negated => c.contains flags x != negated

/-- Take one character that passes a test. -/
def takeOne (p : Char → Bool) : Matcher := fun c k =>
  match c.rest with
  | x :: rest => if p x then k (c.advance x rest) else none
  | [] => none

/-- Take the characters of a captured text. -/
def takeText (flags : List Flag) : List Char → Matcher
  | [], c, k => k c
  | x :: text, c, k =>
    let same (y : Char) : Bool :=
      if flags.contains .ignoreCase then lowerUnder flags x.toNat == lowerUnder flags y.toNat
      else x == y
    takeOne same c fun c => takeText flags text c k

/-! ## Places -/

/-- Is the place between a word and something else? -/
def atBoundary (flags : List Flag) (c : Cursor) : Bool :=
  let isWord (x : Option Char) : Bool := x.any fun x => CharClass.word.contains flags x
  isWord c.before.head? != isWord c.rest.head?

/-- Is the cursor at the place? No boundary, nor its absence, is found in an empty text. -/
def Anchor.holds (flags : List Flag) (c : Cursor) : Anchor → Bool
  | start =>
    c.before.isEmpty || (flags.contains .multiLine && c.before.head? == some '\n')
  | stop =>
    c.rest.isEmpty || c.rest == ['\n'] ||
      (flags.contains .multiLine && c.rest.head? == some '\n')
  | textStart => c.before.isEmpty
  | textStop => c.rest.isEmpty
  | boundary => atBoundary flags c
  | noBoundary => !(c.before.isEmpty && c.rest.isEmpty) && !atBoundary flags c

/-! ## Repetition -/

/-- May another round follow after `count` rounds? -/
def roundsLeft (most : Option Nat) (count : Nat) : Bool := most.all (count < ·)

/-- As many rounds as possible first. `last` is where the last optional round began: a round that
takes nothing is the last one. -/
def greedyLoop (round : Matcher) (least : Nat) (most : Option Nat) :
    (fuel count : Nat) → (last : Option Nat) → Matcher
  | 0, _, _, c, k => k c
  | fuel + 1, count, last, c, k =>
    if count < least then
      round c fun c => greedyLoop round least most fuel (count + 1) last c k
    else if roundsLeft most count && last != some c.position then
      match round c fun d => greedyLoop round least most fuel (count + 1) (some c.position) d k with
      | some d => some d
      | none => k c
    else k c

/-- As few rounds as possible first. -/
def lazyLoop (round : Matcher) (least : Nat) (most : Option Nat) :
    (fuel count : Nat) → (last : Option Nat) → Matcher
  | 0, _, _, c, k => k c
  | fuel + 1, count, last, c, k =>
    if count < least then
      round c fun c => lazyLoop round least most fuel (count + 1) last c k
    else
      match k c with
      | some d => some d
      | none =>
        if roundsLeft most count && last != some c.position then
          round c fun d => lazyLoop round least most fuel (count + 1) (some c.position) d k
        else none

/-- As many rounds as there are, each in its first way. -/
def possessiveLoop (round : Matcher) (least : Nat) (most : Option Nat) :
    (fuel count : Nat) → Cursor → Option Cursor
  | 0, _, c => some c
  | fuel + 1, count, c =>
    if count < least then
      match round c some with
      | some d => possessiveLoop round least most fuel (count + 1) d
      | none => none
    else if roundsLeft most count then
      match round c some with
      | some d =>
        if d.position = c.position then some d
        else possessiveLoop round least most fuel (count + 1) d
      | none => some c
    else some c

/-- A repetition. Beyond the rounds that must be, every round but the last takes a character. -/
def repeated (round : Matcher) (greed : Greed) (least : Nat) (most : Option Nat) : Matcher :=
  fun c k =>
    let fuel := least + c.rest.length + 2
    match greed with
    | .greedy => greedyLoop round least most fuel 0 none c k
    | .lazy => lazyLoop round least most fuel 0 none c k
    | .possessive => (possessiveLoop round least most fuel 0 c).bind k

/-! ## Items -/

mutual

/-- Match an item. -/
def Item.run (flags : List Flag) : Item → Matcher
  | .char code, c, k => takeOne (codeMatches flags code) c k
  | .any, c, k => takeOne (fun x => flags.contains .dotAll || x != '\n') c k
  | .set negated members, c, k =>
    takeOne (fun x => members.any (·.holds flags x) != negated) c k
  | .anchor a, c, k => if a.holds flags c then k c else none
  | .group none add del body, c, k => seqRun (combineFlags flags add del) body c k
  | .group (some index) add del body, c, k =>
    seqRun (combineFlags flags add del) body c fun d => k (d.capture index c.position)
  | .atomic body, c, k => (seqRun flags body c some).bind k
  | .look behind negated body, c, k =>
    let width := if behind then (seqWidth body).least else 0
    let found := if c.position < width then none else seqRun flags body (c.back width) some
    match found with
    | some d => if negated then none else k { c with captures := d.captures }
    | none => if negated then k c else none
  | .choice alternatives, c, k => choiceRun flags alternatives c k
  | .loop greed least most body, c, k => repeated (seqRun flags body) greed least most c k
  | .backref group _, c, k =>
    match c.captures.lookup group with
    | some text => takeText flags text c k
    | none => none
  | .conditional group yes no, c, k =>
    if (c.captures.lookup group).isSome then seqRun flags yes c k else seqRun flags no c k

/-- Match a sequence. -/
def seqRun (flags : List Flag) : List Item → Matcher
  | [], c, k => k c
  | item :: rest, c, k => item.run flags c fun c => seqRun flags rest c k

/-- Match the first alternative that works out. -/
def choiceRun (flags : List Flag) : List (List Item) → Matcher
  | [], _, _ => none
  | items :: rest, c, k =>
    match seqRun flags items c k with
    | some d => some d
    | none => choiceRun flags rest c k

end

/-- Does the pattern match at a place of a text? -/
def matchesAt (p : Pattern) (position : Nat) (before rest : List Char) : Bool :=
  (seqRun p.flags p.items ⟨position, before, rest, []⟩ some).isSome

/-- Does the pattern match at a place or after it? -/
def searchFrom (p : Pattern) (position : Nat) (before : List Char) : List Char → Bool
  | [] => p.matchesAt position before []
  | x :: rest =>
    p.matchesAt position before (x :: rest) || searchFrom p (position + 1) (x :: before) rest

/-- Does the pattern match anywhere in a text? -/
def search (p : Pattern) (text : String) : Bool := p.searchFrom 0 [] text.toList

end ApiDecl.Pattern
