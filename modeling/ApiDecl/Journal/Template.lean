import ApiDecl.Json.Render
import ApiDecl.Text.Quoted

/-!
# Message templates

A template is a text with fields that start with a percent sign. A field may name a member of an
object in parentheses; then come flags, a width, a precision and the letter of the conversion.
Filling in fails when a field does not fit its argument, and when arguments are missing or left
over.
-/

namespace ApiDecl.Journal

/-! ## Values in messages -/

/-- A floating-point number in a message. -/
def displayFloat : Binary64 → List Char
  | .nan => "nan".toList
  | .infinite negative => (if negative then "-inf" else "inf").toList
  | x => x.render

mutual

/-- A value as it stands inside other values. -/
def displayInner : Json → List Char
  | .null => "None".toList
  | .bool b => (if b then "True" else "False").toList
  | .int n => Json.renderInt n
  | .float x => displayFloat x
  | .str s => (Text.quoted s).toList
  | .arr items => '[' :: displayItems items ++ [']']
  | .obj members => '\x7b' :: displayMembers members ++ ['\x7d']

/-- Items with commas between them. -/
def displayItems : List Json → List Char
  | [] => []
  | [item] => displayInner item
  | item :: rest => displayInner item ++ ',' :: ' ' :: displayItems rest

/-- Members with commas between them. -/
def displayMembers : List (String × Json) → List Char
  | [] => []
  | [member] => displayMember member
  | member :: rest => displayMember member ++ ',' :: ' ' :: displayMembers rest

/-- A member. -/
def displayMember : String × Json → List Char
  | (key, value) => (Text.quoted key).toList ++ ':' :: ' ' :: displayInner value

end

/-- A value on its own: a text stands for itself. -/
def display : Json → List Char
  | .str s => s.toList
  | j => displayInner j

/-- Characters outside ASCII are escaped. -/
def escapeWide (c : Char) : List Char :=
  if c.toNat < 0x80 then [c]
  else if c.toNat < 0x100 then '\\' :: 'x' :: Text.hexDigits 2 c.toNat
  else if c.toNat < 0x10000 then '\\' :: 'u' :: Text.hexDigits 4 c.toNat
  else '\\' :: 'U' :: Text.hexDigits 8 c.toNat

/-! ## Fields -/

/-- How a field is laid out. -/
structure Layout where
  /-- To the left side of the width. -/
  left : Bool := false
  /-- A plus before numbers that are not negative. -/
  plus : Bool := false
  /-- A blank before numbers that are not negative. -/
  blank : Bool := false
  /-- The other form of a number. -/
  other : Bool := false
  /-- Zeros instead of blanks before a number. -/
  zeros : Bool := false
  width : Nat := 0
  precision : Option Nat := none

/-- What fields are filled in with. -/
structure Arguments where
  /-- The arguments that are not used yet. -/
  rest : List Json
  /-- The members by name, when the only argument is an object. -/
  members : Option (List (String × Json))

/-- Give a text its width. -/
def pad (l : Layout) (cs : List Char) : List Char :=
  let fill := List.replicate (l.width - cs.length) ' '
  if l.left then cs ++ fill else fill ++ cs

/-- A number with its sign and its mark, at the width. -/
def padNumber (l : Layout) (negative : Bool) (mark digits : List Char) : List Char :=
  let sign := if negative then ['-'] else if l.plus then ['+'] else if l.blank then [' '] else []
  let size := sign.length + mark.length + digits.length
  if l.zeros && !l.left then sign ++ mark ++ List.replicate (l.width - size) '0' ++ digits
  else pad l (sign ++ mark ++ digits)

/-- An integer in a base. -/
def layoutInt (l : Layout) (base : Nat) (mark : List Char) (upper : Bool) (n : Int) : List Char :=
  let digits := Nat.toDigits base n.natAbs
  let digits := List.replicate (l.precision.getD 0 - digits.length) '0' ++ digits
  let mark := if l.other then mark else []
  let raise (cs : List Char) := if upper then cs.map Char.toUpper else cs
  padNumber l (n < 0) (raise mark) (raise digits)

/-- A natural number with so many digits after its point. -/
def pointed (places : Nat) (n : Nat) (showPoint : Bool) : List Char :=
  let digits := Nat.toDigits 10 n
  let digits := List.replicate (places + 1 - digits.length) '0' ++ digits
  let whole := digits.take (digits.length - places)
  if places = 0 then (if showPoint then whole ++ ['.'] else whole)
  else whole ++ '.' :: digits.drop (digits.length - places)

/-- The nearest integer to `num / den · 10 ^ places`. -/
def scaled (num den : Nat) (places : Int) : Nat :=
  if 0 ≤ places then Binary64.roundDiv (num * Binary64.powerOfTen places.toNat) den
  else Binary64.roundDiv num (den * Binary64.powerOfTen (-places).toNat)

/-- The digits of a number in scientific form, and its exponent. -/
def scientific (num den places : Nat) : Nat × Int :=
  if num = 0 then (0, 0)
  else
    let estimate : Int := ((num.log2 : Int) - den.log2 - 1) * 30103 / 100000 - 1
    let leading := Binary64.leadingExponent num den 5 estimate
    let digits := scaled num den (places - leading)
    if digits = Binary64.powerOfTen (places + 1) then (Binary64.powerOfTen places, leading + 1)
    else (digits, leading)

/-- A number in scientific form. -/
def exponential (places digits : Nat) (exponent : Int) (showPoint : Bool) : List Char :=
  let size := Nat.toDigits 10 exponent.natAbs
  pointed places digits showPoint ++ 'e' :: (if exponent < 0 then '-' else '+') ::
    (if size.length < 2 then '0' :: size else size)

/-- Drop the zeros at the end of a fraction, and a point that nothing follows. -/
def dropZeros (cs : List Char) : List Char :=
  if cs.contains '.' then
    match cs.reverse.dropWhile (· == '0') with
    | '.' :: rest => rest.reverse
    | rest => rest.reverse
  else cs

/-- A number in the shorter of the two forms. -/
def general (num den : Nat) (precision : Nat) (showPoint : Bool) : List Char :=
  let precision := max 1 precision
  let (digits, exponent) := scientific num den (precision - 1)
  let trim (cs : List Char) := if showPoint then cs else dropZeros cs
  if -4 ≤ exponent && exponent < precision then
    let places := (precision - 1 - exponent : Int).toNat
    trim (pointed places (scaled num den places) showPoint)
  else
    let cs := exponential (precision - 1) digits exponent showPoint
    trim (cs.takeWhile (· ≠ 'e')) ++ cs.dropWhile (· ≠ 'e')

/-- A floating-point number in the form of a conversion letter. -/
def layoutFloat (l : Layout) (letter : Char) (x : Binary64) : List Char :=
  let raise (cs : List Char) := if letter.isUpper then cs.map Char.toUpper else cs
  match x with
  | .nan => padNumber l false [] (raise "nan".toList)
  | .infinite negative => padNumber l negative [] (raise "inf".toList)
  | .finite negative m e =>
    let (num, den) := if 0 ≤ e then (m <<< e.toNat, 1) else (m, 1 <<< (-e).toNat)
    let precision := l.precision.getD 6
    let body := match letter.toLower with
      | 'f' => pointed precision (scaled num den precision) l.other
      | 'e' =>
        let (digits, exponent) := scientific num den precision
        exponential precision digits exponent l.other
      | _ => general num den precision l.other
    padNumber l negative [] (raise body)

/-- The integer that a number stands for, towards zero. -/
def wholeNumber? : Json → Option Int
  | .int n => some n
  | .bool b => some (if b then 1 else 0)
  | .float (.finite negative m e) =>
    let n : Nat := if 0 ≤ e then m <<< e.toNat else m >>> (-e).toNat
    some (if negative then -n else n)
  | _ => none

/-- The integer that a value is. -/
def integer? : Json → Option Int
  | .int n => some n
  | .bool b => some (if b then 1 else 0)
  | _ => none

/-- The floating-point number that a value stands for. -/
def float? : Json → Option Binary64
  | .float x => some x
  | j => (integer? j).bind fun n =>
    match Binary64.ofRatio (n < 0) n.natAbs 1 with
    | .infinite _ => none
    | x => some x

/-- The character that a value stands for. -/
def character? : Json → Option Char
  | .str s =>
    match s.toList with
    | [c] => some c
    | _ => none
  | j => (integer? j).bind fun n =>
    if 0 ≤ n && n.toNat.isValidChar then some (Char.ofNat n.toNat) else none

/-- Fill in one field. -/
def fillField (l : Layout) (letter : Char) (value : Json) : Option (List Char) :=
  let text (cs : List Char) := some (pad l (cs.take (l.precision.getD cs.length)))
  match letter with
  | 's' => text (display value)
  | 'r' => text (displayInner value)
  | 'a' => text ((displayInner value).flatMap escapeWide)
  | 'd' | 'i' | 'u' => (wholeNumber? value).map (layoutInt { l with other := false } 10 [] false)
  | 'x' => (integer? value).map (layoutInt l 16 ['0', 'x'] false)
  | 'X' => (integer? value).map (layoutInt l 16 ['0', 'x'] true)
  | 'o' => (integer? value).map (layoutInt l 8 ['0', 'o'] false)
  | 'c' => (character? value).map fun c => pad l [c]
  | 'e' | 'E' | 'f' | 'F' | 'g' | 'G' => (float? value).map (layoutFloat l letter)
  | _ => none

/-! ## Reading fields -/

/-- The flags at the start of a field. -/
def readFlags (l : Layout) : List Char → Layout × List Char
  | '-' :: rest => readFlags { l with left := true } rest
  | '+' :: rest => readFlags { l with plus := true } rest
  | ' ' :: rest => readFlags { l with blank := true } rest
  | '#' :: rest => readFlags { l with other := true } rest
  | '0' :: rest => readFlags { l with zeros := true } rest
  | cs => (l, cs)

/-- The value of digits. -/
def readDigits (cs : List Char) : Nat × List Char :=
  ((cs.takeWhile Char.isDigit).foldl (fun n d => n * 10 + (d.toNat - 0x30)) 0,
    cs.dropWhile Char.isDigit)

/-- The next argument. -/
def Arguments.next (a : Arguments) : Option (Json × Arguments) :=
  match a.rest with
  | [] => none
  | value :: rest => some (value, { a with rest })

/-- Widths and precisions are below this number. -/
def numberLimit : Nat := 1 <<< 31

/-- A number of a layout: digits, or an argument in the place of a star. -/
def readNumber (a : Arguments) (cs : List Char) : Option (Int × Arguments × List Char) := do
  let (n, a, rest) ← match cs with
    | '*' :: rest => do
      let (value, a) ← a.next
      pure (← integer? value, a, rest)
    | _ =>
      let (n, rest) := readDigits cs
      pure ((n : Int), a, rest)
  if n.natAbs < numberLimit then return (n, a, rest) else none

/-- The name in parentheses at the start of a field; parentheses inside it are paired. -/
def readName (depth : Nat) : List Char → Option (List Char × List Char)
  | [] => none
  | c :: rest =>
    if c = ')' then
      if depth = 0 then some ([], rest)
      else (readName (depth - 1) rest).map fun (name, after) => (c :: name, after)
    else (readName (if c = '(' then depth + 1 else depth) rest).map fun (name, after) =>
      (c :: name, after)

/-- A named member becomes the next argument. -/
def readMember (a : Arguments) (cs : List Char) : Option (Arguments × List Char) :=
  match cs with
  | '(' :: rest => do
    let (name, rest) ← readName 0 rest
    let value ← (← a.members).lookup (String.ofList name)
    return ({ a with rest := [value] }, rest)
  | _ => some (a, cs)

/-- Fill in the field at the start of a text, after its percent sign. -/
def readField (a : Arguments) (cs : List Char) : Option (List Char × Arguments × List Char) := do
  let (a, cs) ← readMember a cs
  let (l, cs) := readFlags {} cs
  let (width, a, cs) ← readNumber a cs
  let l := { l with left := l.left || width < 0, width := width.natAbs }
  let (l, a, cs) ← match cs with
    | '.' :: rest => do
      let (precision, a, rest) ← readNumber a rest
      pure ({ l with precision := some precision.toNat }, a, rest)
    | _ => pure (l, a, cs)
  let cs := match cs with
    | 'h' :: rest | 'l' :: rest | 'L' :: rest => rest
    | _ => cs
  match cs with
  | [] => none
  | letter :: rest =>
    let (value, a) ← a.next
    return (← fillField l letter value, a, rest)

/-- Fill in a template. Two percent signs stand for one. The fuel bounds the number of fields. -/
def fillFrom : (fuel : Nat) → Arguments → List Char → Option (List Char)
  | 0, _, _ => none
  | fuel + 1, a, cs =>
    let front := cs.takeWhile (· ≠ '%')
    match cs.drop front.length with
    | [] => if a.rest.isEmpty || a.members.isSome then some front else none
    | _ :: '%' :: rest => do return front ++ '%' :: (← fillFrom fuel a rest)
    | _ :: rest => do
      let (text, a, rest) ← readField a rest
      return front ++ text ++ (← fillFrom fuel a rest)

/-- The message of a template and its arguments. Without arguments the template is the message. -/
def fill (template : String) (arguments : List Json) : Option String :=
  let a : Arguments := match arguments with
    | [.obj (m :: ms)] => ⟨arguments, some (m :: ms)⟩
    | _ => ⟨arguments, none⟩
  if arguments.isEmpty then some template
  else (fillFrom (template.length + 1) a template.toList).map String.ofList

end ApiDecl.Journal
