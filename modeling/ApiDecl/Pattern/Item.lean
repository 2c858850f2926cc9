/-!
# Pattern items

A pattern is a sequence of items. Characters are code points, so that an escape may also name a
code point that is no character.

`width` bounds the number of characters a sequence can take; looking behind needs the two bounds
to agree.
-/

namespace ApiDecl.Pattern

/-- Options of a pattern or of a part of it. -/
inductive Flag
  | ignoreCase
  | multiLine
  | dotAll
  | verbose
  /-- Classes and case know ASCII only. -/
  | ascii
  /-- Classes and case know all scripts. -/
  | unicode
  /-- No repetition is allowed. -/
  | template
deriving DecidableEq, Repr

/-- Flags that choose what characters are. -/
def Flag.isType : Flag → Bool
  | .ascii | .unicode => true
  | _ => false

/-- The flags inside a group that turns some on and others off. -/
def combineFlags (flags add del : List Flag) : List Flag :=
  let kept := if add.any (·.isType) then flags.filter (!·.isType) else flags
  (kept ++ add).filter (!del.contains ·)

/-- Classes of characters with a name of their own. -/
inductive CharClass
  | digit
  | space
  | word
deriving DecidableEq, Repr

/-- A member of a set of characters. -/
inductive Member
  | char (code : Nat)
  | range (low high : Nat)
  | cls (c : CharClass) (negated : Bool)
deriving DecidableEq, Repr

/-- Places that take no character. -/
inductive Anchor
  /-- The start of the text, and of each line when there are several. -/
  | start
  /-- The end of the text or before its last line break, and of each line when there are
  several. -/
  | stop
  | textStart
  | textStop
  | boundary
  | noBoundary
deriving DecidableEq, Repr

/-- How a repetition chooses its number of rounds. -/
inductive Greed
  | greedy
  | lazy
  /-- As many rounds as there are, with no way back. -/
  | possessive
deriving DecidableEq, Repr

/-- The least and the greatest number of characters taken. -/
structure Width where
  least : Nat
  most : Nat
deriving DecidableEq, Repr

/-- A step of a pattern. -/
inductive Item
  | char (code : Nat)
  | any
  | set (negated : Bool) (members : List Member)
  | anchor (a : Anchor)
  /-- A group, numbered when it captures, with the flags it turns on and off. -/
  | group (index : Option Nat) (add del : List Flag) (body : List Item)
  /-- A group whose first way to match is its only one. -/
  | atomic (body : List Item)
  /-- A test of what comes next, or of what came before. -/
  | look (behind negated : Bool) (body : List Item)
  | choice (alternatives : List (List Item))
  | loop (greed : Greed) (least : Nat) (most : Option Nat) (body : List Item)
  /-- The text of an earlier group, with the width of that group. -/
  | backref (group : Nat) (width : Width)
  /-- One of two sequences, by whether a group has matched. -/
  | conditional (group : Nat) (yes no : List Item)
deriving Repr, Inhabited

/-- No width is greater than this. -/
def Width.limit : Nat := 1 <<< 64

mutual

/-- The width of an item. -/
def Item.width : Item → Width
  | .char _ | .any | .set _ _ => ⟨1, 1⟩
  | .anchor _ | .look _ _ _ => ⟨0, 0⟩
  | .group _ _ _ body | .atomic body => seqWidth body
  | .choice alternatives => choiceWidth alternatives
  | .loop _ least most body =>
    let w := seqWidth body
    let most' := match most with
      | some most => w.most * most
      | none => if w.most = 0 then 0 else Width.limit
    ⟨w.least * least, most'⟩
  | .backref _ w => w
  | .conditional _ yes no =>
    let a := seqWidth yes
    let b := seqWidth no
    ⟨min a.least b.least, max a.most b.most⟩

/-- The sum of the widths of a sequence. -/
def sumWidth : List Item → Width
  | [] => ⟨0, 0⟩
  | item :: rest =>
    let a := item.width
    let b := sumWidth rest
    ⟨a.least + b.least, a.most + b.most⟩

/-- The width of a sequence. -/
def seqWidth (items : List Item) : Width :=
  let w := sumWidth items
  ⟨min w.least Width.limit, min w.most Width.limit⟩

/-- The width of a choice. -/
def choiceWidth : List (List Item) → Width
  | [] => ⟨Width.limit, 0⟩
  | items :: rest =>
    let a := seqWidth items
    let b := choiceWidth rest
    ⟨min a.least b.least, max a.most b.most⟩

end

end ApiDecl.Pattern
