import ApiDecl.Number.Binary64
import ApiDecl.Number.Decimal
import ApiDecl.Text.Blank
import ApiDecl.Text.Quoted
import ApiDecl.Yaml.Token

/-!
# YAML scalars

What kind of value a plain scalar is follows from its text: a truth value, a number, nothing, a
point in time, or else a text. `kindOf` tells the kind, and the readers below give the values.
-/

namespace ApiDecl.Yaml

/-- The kinds of scalars. -/
inductive ScalarKind
  | null
  | bool
  | int
  | float
  | timestamp
  /-- The key that takes in the members of other mappings. -/
  | merge
  /-- The key of the default value. -/
  | value
  | str
deriving DecidableEq, Repr

/-! ## Shapes -/

/-- The text without its sign. -/
def unsigned : List Char → List Char
  | '+' :: rest => rest
  | '-' :: rest => rest
  | cs => cs

/-- Is the text negative? -/
def isNegative (cs : List Char) : Bool := cs.head? == some '-'

/-- Decimal digits and underscores. -/
def isDigitOrMark (c : Char) : Bool := c.isDigit || c == '_'

/-- Digits in a base, and underscores; at least one. -/
def isNumeral (digit : Char → Bool) (cs : List Char) : Bool :=
  !cs.isEmpty && cs.all fun c => digit c || c == '_'

/-- A digit, then digits and underscores. -/
def isDecimal : List Char → Bool
  | [] => false
  | c :: rest => c.isDigit && rest.all isDigitOrMark

/-- A count of minutes or seconds. -/
def isSixtieth : List Char → Bool
  | [d] => d.isDigit
  | [t, d] => '0' ≤ t && t ≤ '5' && d.isDigit
  | _ => false

/-- Octal digits. -/
def isOctalDigit (c : Char) : Bool := '0' ≤ c && c ≤ '7'

/-- Hexadecimal digits. -/
def isHexDigit (c : Char) : Bool := c.isDigit || ('a' ≤ c && c ≤ 'f') || ('A' ≤ c && c ≤ 'F')

/-- Is the text an integer: binary, octal, hexadecimal, decimal, or in base sixty? -/
def isIntText (cs : List Char) : Bool :=
  match unsigned cs with
  | '0' :: 'b' :: ds => isNumeral (fun c => c == '0' || c == '1') ds
  | '0' :: 'x' :: ds => isNumeral isHexDigit ds
  | ['0'] => true
  | '0' :: ds => isNumeral isOctalDigit ds
  | ds =>
    match Text.splitOn ':' ds with
    | [whole] => isDecimal whole
    | whole :: parts => isDecimal whole && parts.all isSixtieth
    | [] => false

/-- The exponent of a number, or nothing. -/
def isExponent : List Char → Bool
  | [] => true
  | e :: s :: ds => (e == 'e' || e == 'E') && (s == '+' || s == '-') && !ds.isEmpty &&
      ds.all Char.isDigit
  | _ => false

/-- The digits after the point of a number, and its exponent. -/
def isFraction (cs : List Char) : Bool := isExponent (cs.dropWhile isDigitOrMark)

/-- Is the text a number with a point? -/
def isFloatText (cs : List Char) : Bool :=
  let ds := unsigned cs
  let isSigned := ds.length ≠ cs.length
  match ds with
  | '.' :: rest =>
    ["inf", "Inf", "INF"].any (·.toList == rest) ||
      (!isSigned && (["nan", "NaN", "NAN"].any (·.toList == rest) ||
        (rest.head?.any Char.isDigit && isFraction rest)))
  | _ =>
    let whole := ds.takeWhile (· ≠ '.')
    match ds.drop whole.length with
    | '.' :: fraction =>
      (isDecimal whole && isFraction fraction) ||
        (match Text.splitOn ':' whole with
          | first :: part :: parts =>
            isDecimal first && (part :: parts).all isSixtieth && fraction.all isDigitOrMark
          | _ => false)
    | _ => false

/-! ## Points in time -/

/-- A time of day. -/
structure Clock where
  hour : Nat := 0
  minute : Nat := 0
  second : Nat := 0
  micros : Nat := 0
deriving DecidableEq, Repr

/-- A point in time as it is written. -/
structure TimeText where
  year : Nat
  month : Nat
  day : Nat
  clock : Option Clock
  /-- The distance from universal time in minutes. -/
  offset : Option Int
deriving DecidableEq, Repr

/-- The value of decimal digits. -/
def number (ds : List Char) : Nat := ds.foldl (fun n d => n * 10 + (d.toNat - 0x30)) 0

/-- Digits, at least and at most so many, with the text after them. -/
def digits? (least most : Nat) (cs : List Char) : Option (List Char × List Char) :=
  let ds := (cs.take most).takeWhile Char.isDigit
  if ds.length < least then none else some (ds, cs.drop ds.length)

/-- A mark, with the text after it. -/
def after? (mark : Char) : List Char → Option (List Char)
  | c :: rest => if c = mark then some rest else none
  | [] => none

/-- A time zone at the end of a text, or nothing. -/
def zone? (cs : List Char) : Option (Option Int) :=
  match cs.dropWhile fun c => c == ' ' || c == '\t' with
  | [] => if cs.isEmpty then some none else none
  | ['Z'] => some (some 0)
  | s :: rest =>
    if s == '+' || s == '-' then do
      let (hour, rest) ← digits? 1 2 rest
      let minute ← match rest with
        | [] => some 0
        | ':' :: rest => do
          let (minute, rest) ← digits? 2 2 rest
          if rest.isEmpty then some (number minute) else none
        | _ => none
      let total : Int := (number hour * 60 + minute : Nat)
      return some (if s == '-' then -total else total)
    else none

/-- The time of day, with the text after it. Six digits of a fraction count. -/
def clock? (cs : List Char) : Option (Clock × List Char) := do
  let (hour, rest) ← digits? 1 2 cs
  let (minute, rest) ← digits? 2 2 (← after? ':' rest)
  let (second, rest) ← digits? 2 2 (← after? ':' rest)
  let (fraction, rest) := match rest with
    | '.' :: rest => (rest.takeWhile Char.isDigit, rest.dropWhile Char.isDigit)
    | rest => ([], rest)
  let micros := (fraction ++ List.replicate 6 '0').take 6
  return (⟨number hour, number minute, number second, number micros⟩, rest)

/-- What stands between a date and a time of day. -/
def clockMark? (cs : List Char) : Option (List Char) :=
  match cs with
  | 'T' :: rest => some rest
  | 't' :: rest => some rest
  | _ =>
    let rest := cs.dropWhile fun c => c == ' ' || c == '\t'
    if rest.length = cs.length then none else some rest

/-- A point in time, if the text is one. -/
def time? (cs : List Char) : Option TimeText := do
  let (year, rest) ← digits? 4 4 cs
  let (month, rest) ← digits? 1 2 (← after? '-' rest)
  let (day, rest) ← digits? 1 2 (← after? '-' rest)
  let date : TimeText := ⟨number year, number month, number day, none, none⟩
  if rest.isEmpty then return date
  let (clock, rest) ← clock? (← clockMark? rest)
  let offset ← zone? rest
  return { date with clock := some clock, offset }

/-- Does a plain text count as a point in time? A date alone needs all its digits. -/
def isTimeText (cs : List Char) : Bool :=
  match time? cs with
  | none => false
  | some t => t.clock.isSome || cs.length == 10

/-! ## Kinds -/

/-- The words for truth and its opposite, in any of the usual spellings. -/
def truthWords : List (String × Bool) :=
  [("yes", true), ("no", false), ("true", true), ("false", false), ("on", true), ("off", false)]

/-- Is the text the word in lower case, in upper case, or with a capital? -/
def spells (word : String) (cs : List Char) : Bool :=
  let lower := word.toList
  let upper := lower.map Char.toUpper
  cs == lower || cs == upper || cs == upper.take 1 ++ lower.drop 1

/-- The kind of a plain scalar. -/
def kindOf (text : String) : ScalarKind :=
  let cs := text.toList
  if truthWords.any fun (word, _) => spells word cs then .bool
  else if isFloatText cs then .float
  else if isIntText cs then .int
  else if text = "<<" then .merge
  else if text = "" || text = "~" || spells "null" cs then .null
  else if isTimeText cs then .timestamp
  else if text = "=" then .value
  else .str

/-! ## Values -/

/-- ASCII letters in lower case. -/
def lowered (cs : List Char) : List Char := cs.map Char.toLower

/-- The truth value of a word. -/
def readBool (text : String) : Except Error Bool :=
  let word := String.ofList (lowered text.toList)
  match truthWords.lookup word with
  | some b => .ok b
  | none => .error (.badTruth word)

/-- The value of a digit in bases up to sixteen. -/
def digitValue (c : Char) : Nat := if c.isDigit then c.toNat - 0x30 else c.toNat % 32 + 9

/-- The value of digits in a base, with blanks around them and a sign before them. A prefix of the
base may stand before the digits. In decimal the number of digits is limited. -/
def readBase (base : Nat) (mark : Char) (text : List Char) : Except Error Int :=
  let cs := Text.trim text
  let ds := unsigned cs
  let ds := match ds with
    | '0' :: m :: rest => if m.toLower == mark then rest else ds
    | _ => ds
  let isDigit (c : Char) : Bool := isHexDigit c && digitValue c < base
  let count := (ds.takeWhile isDigit).length
  if base = 10 && Decimal.digitLimit < count then
    .error (.badValue (Decimal.excessMessage Decimal.digitLimit count))
  else if ds.isEmpty || !ds.all isDigit then
    .error (.badValue ("invalid literal for int() with base " ++ toString base ++ ": " ++
      Text.quoted (String.ofList text)))
  else
    let n : Int := (ds.foldl (fun n d => n * base + digitValue d) 0 : Nat)
    .ok (if isNegative cs then -n else n)

/-- The value of an integer. -/
def readInt (text : String) : Except Error Int := do
  let cs := text.toList.filter (· ≠ '_')
  let negative := isNegative cs
  let ds := unsigned cs
  if cs.isEmpty || ds.isEmpty then throw .noDigits
  let n ← match ds with
    | ['0'] => pure 0
    | '0' :: 'b' :: rest => readBase 2 'b' rest
    | '0' :: 'x' :: rest => readBase 16 'x' rest
    | '0' :: _ => readBase 8 'o' ds
    | _ =>
      if ds.contains ':' then
        (Text.splitOn ':' ds).foldlM (fun n part => return n * 60 + (← readBase 10 ':' part)) 0
      else readBase 10 ':' ds
  return if negative then -n else n

/-- A number with a point or an exponent, if the text is one. -/
def decimal? (cs : List Char) : Option Binary64 :=
  let negative := isNegative cs
  let ds := unsigned cs
  let whole := ds.takeWhile Char.isDigit
  let rest := ds.drop whole.length
  let (fraction, rest) := match rest with
    | '.' :: rest => (rest.takeWhile Char.isDigit, rest.dropWhile Char.isDigit)
    | rest => ([], rest)
  if whole.isEmpty && fraction.isEmpty then
    if ["inf", "infinity"].any (·.toList == ds) then some (.infinite negative)
    else if ds == "nan".toList then some .nan
    else none
  else
    let exponent : Option Int := match rest with
      | [] => some 0
      | e :: rest =>
        let ds := unsigned rest
        if e == 'e' && !ds.isEmpty && ds.all Char.isDigit then
          some (if isNegative rest then -(number ds) else number ds)
        else none
    exponent.map fun e => .ofDecimal negative (number (whole ++ fraction)) (e - fraction.length)

/-- A number with a point or an exponent. -/
def readDecimal (text : List Char) : Except Error Binary64 :=
  match decimal? (Text.trim text) with
  | some x => .ok x
  | none => .error (.badValue ("could not convert string to float: " ++
      Text.quoted (String.ofList text)))

/-- The sum of numbers that each weigh sixty times as much as the next. -/
def sexagesimal (parts : List Binary64) : Binary64 :=
  let ratio := parts.foldlM (fun ((num, den) : Nat × Nat) part =>
    match part with
    | .finite _ m e =>
      if 0 ≤ e then some (num * 60 + (m <<< e.toNat) * den, den)
      else some ((num * 60) <<< (-e).toNat + m * den, den <<< (-e).toNat)
    | _ => none) (0, 1)
  match ratio with
  | some (num, den) => .ofRatio false num den
  | none => .nan

/-- A number with a sign before it. -/
def withSign (negative : Bool) : Binary64 → Binary64
  | .finite n m e => .finite (n != negative) m e
  | .infinite n => .infinite (n != negative)
  | .nan => .nan

/-- The value of a floating-point number. -/
def readFloat (text : String) : Except Error Binary64 := do
  let cs := lowered (text.toList.filter (· ≠ '_'))
  let ds := unsigned cs
  if cs.isEmpty then throw .noDigits
  let x ← if ds == ".inf".toList then pure (.infinite false)
    else if ds == ".nan".toList then pure .nan
    else if ds.contains ':' then
      sexagesimal <$> (Text.splitOn ':' ds).mapM readDecimal
    else readDecimal ds
  return withSign (isNegative cs) x

/-- The number of days of a month. -/
def daysIn (year month : Nat) : Nat :=
  if month = 2 then
    if (year % 4 = 0 && year % 100 ≠ 0) || year % 400 = 0 then 29 else 28
  else if [4, 6, 9, 11].contains month then 30
  else 31

/-- A stretch of time in days and seconds, in words. -/
def describeOffset (minutes : Int) : String :=
  let seconds := minutes * 60
  let days := seconds / 86400
  let rest := seconds % 86400
  let parts := (if days = 0 then [] else ["days=" ++ toString days]) ++
    (if rest = 0 then [] else ["seconds=" ++ toString rest])
  "datetime.timedelta(" ++ (if parts.isEmpty then "0" else ", ".intercalate parts) ++ ")"

/-- Check that a point in time exists. -/
def checkTime (t : TimeText) : Except Error Unit := do
  let refuse (message : String) : Except Error Unit := throw (.badValue message)
  if t.clock.isSome then
    match t.offset with
    | some minutes =>
      if 1440 ≤ minutes.natAbs then
        refuse ("offset must be a timedelta strictly between -timedelta(hours=24) and " ++
          "timedelta(hours=24), not " ++ describeOffset minutes ++ ".")
    | none => pure ()
  if t.year = 0 then refuse "year 0 is out of range"
  if t.month = 0 || 12 < t.month then refuse "month must be in 1..12"
  if t.day = 0 || daysIn t.year t.month < t.day then refuse "day is out of range for month"
  match t.clock with
  | none => pure ()
  | some clock =>
    if 23 < clock.hour then refuse "hour must be in 0..23"
    if 59 < clock.minute then refuse "minute must be in 0..59"
    if 59 < clock.second then refuse "second must be in 0..59"

/-- The number of days before a date, from the first day of the first year on. -/
def daysBefore (year month day : Nat) : Nat :=
  let years := year - 1
  let months := (List.range (month - 1)).map fun m => daysIn year (m + 1)
  years * 365 + years / 4 - years / 100 + years / 400 + months.foldl (· + ·) 0 + (day - 1)

/-- A point in time in microseconds, in universal time if the distance from it is told. -/
def TimeText.instant (t : TimeText) : Int :=
  let clock := t.clock.getD {}
  let minutes : Int :=
    (daysBefore t.year t.month t.day * 1440 + clock.hour * 60 + clock.minute : Nat)
  ((minutes - t.offset.getD 0) * 60 + clock.second) * 1000000 + clock.micros

/-- The value of a point in time. -/
def readTime (text : String) : Except Error TimeText :=
  match time? text.toList with
  | none => .error .noTime
  | some t => do
    checkTime t
    return t

/-- The value of a letter of base sixty-four. -/
def sextet? (c : Char) : Option Nat :=
  if 'A' ≤ c && c ≤ 'Z' then some (c.toNat - 0x41)
  else if 'a' ≤ c && c ≤ 'z' then some (c.toNat - 0x47)
  else if c.isDigit then some (c.toNat + 4)
  else if c == '+' then some 62
  else if c == '/' then some 63
  else none

/-- Bytes in base sixty-four. Other characters are passed over, and padding ends the bytes once it
fills up a group. `place` counts the letters of the group, `pads` its padding, and `held` holds
its bits that make up no byte yet. -/
def bytesFrom : (place pads held : Nat) → List Char → Except Error (List UInt8)
  | place, _, _, [] => if place = 0 then .ok [] else .error .malformed
  | place, pads, held, c :: rest =>
    if c == '=' then
      if 2 ≤ place && 4 ≤ place + pads + 1 then .ok []
      else bytesFrom place (if 2 ≤ place then pads + 1 else pads) held rest
    else match sextet? c with
      | none => bytesFrom place pads held rest
      | some n =>
        match place with
        | 0 => bytesFrom 1 0 n rest
        | 1 => do return (held * 4 + n / 16).toUInt8 :: (← bytesFrom 2 0 (n % 16) rest)
        | 2 => do return (held * 16 + n / 4).toUInt8 :: (← bytesFrom 3 0 (n % 4) rest)
        | _ => do return (held * 64 + n).toUInt8 :: (← bytesFrom 0 0 0 rest)

/-- Bytes in base sixty-four. -/
def readBytes (text : String) : Except Error (List UInt8) :=
  if text.toList.all (·.toNat < 0x80) then bytesFrom 0 0 0 text.toList else .error .malformed

end ApiDecl.Yaml
