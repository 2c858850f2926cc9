/-!
# Binary floating-point numbers of 64 bits

A finite number is a natural mantissa times a power of two, with a sign. Reading a decimal rounds
to the nearest number, ties to the even mantissa. Writing takes the fewest decimal digits that
read back as the number, and of those the nearest decimal.
-/

namespace ApiDecl

/-- A floating-point number with a mantissa of 53 bits. -/
inductive Binary64
  /-- The number `± mantissa · 2 ^ exponent`. -/
  | finite (negative : Bool) (mantissa : Nat) (exponent : Int)
  | infinite (negative : Bool)
  | nan
deriving DecidableEq, Repr

namespace Binary64

/-- Zero, with a sign. -/
def zero (negative : Bool) : Binary64 := .finite negative 0 (-1074)

/-- A power of ten. -/
def powerOfTen (n : Nat) : Nat := Nat.pow 10 n

/-- The quotient rounded to the nearest natural number, ties to even. -/
def roundDiv (num den : Nat) : Nat :=
  let q := num / den
  let r := num % den
  if 2 * r < den then q
  else if den < 2 * r then q + 1
  else if q % 2 = 0 then q else q + 1

/-- The number nearest to `num / den`. -/
def ofRatio (negative : Bool) (num den : Nat) : Binary64 :=
  if num = 0 then zero negative
  else
    let k : Int := (num.log2 : Int) - den.log2
    let atLeast : Bool := if 0 ≤ k then den <<< k.toNat ≤ num else den ≤ num <<< (-k).toNat
    let exponent := max (-1074) (if atLeast then k - 52 else k - 53)
    let mantissa :=
      if 0 ≤ exponent then roundDiv num (den <<< exponent.toNat)
      else roundDiv (num <<< (-exponent).toNat) den
    let (mantissa, exponent) :=
      if mantissa = 1 <<< 53 then (1 <<< 52, exponent + 1) else (mantissa, exponent)
    if 971 < exponent then .infinite negative
    else if mantissa = 0 then zero negative
    else .finite negative mantissa exponent

/-- The number nearest to `± digits · 10 ^ exponent`. The two early answers only keep the powers of
ten small: no number lies that far out. -/
def ofDecimal (negative : Bool) (digits : Nat) (exponent : Int) : Binary64 :=
  if digits = 0 then zero negative
  else
    let magnitude := ((Nat.toDigits 10 digits).length : Int) + exponent
    if 400 < magnitude then .infinite negative
    else if magnitude < -400 then zero negative
    else if 0 ≤ exponent then ofRatio negative (digits * powerOfTen exponent.toNat) 1
    else ofRatio negative digits (powerOfTen (-exponent).toNat)

/-- Decimal digits `d₁ d₂ … dₙ` with the exponent of the first one: `d₁.d₂…dₙ · 10 ^ exponent`. -/
structure Scientific where
  digits : List Char
  exponent : Int

/-- The exponent of the first decimal digit of `num / den`, which is at least
`10 ^ lower`. Counts up from `lower`. -/
def leadingExponent (num den : Nat) : (steps : Nat) → (lower : Int) → Int
  | 0, lower => lower
  | steps + 1, lower =>
    let above := if 0 ≤ lower + 1 then den * powerOfTen (lower + 1).toNat ≤ num
      else den ≤ num * powerOfTen (-(lower + 1)).toNat
    if above then leadingExponent num den steps (lower + 1) else lower

/-- The decimal with `count` digits that is nearest to `num / den` among those that read back as
`target`, if any does. The two candidates are the neighbours of the ratio on the decimal grid. -/
def readsBack (target : Binary64) (num den : Nat) (leading : Int) (count : Nat) : Option Nat :=
  let place : Int := leading - (count - 1 : Nat)
  let (top, bottom) :=
    if 0 ≤ place then (num, den * powerOfTen place.toNat)
    else (num * powerOfTen (-place).toNat, den)
  let below := top / bottom
  let nearest := roundDiv top bottom
  let other := if nearest = below then below + 1 else below
  if ofDecimal false nearest place == target then some nearest
  else if ofDecimal false other place == target then some other
  else none

/-- The fewest digits that read back. Seventeen always do. -/
def shortestFrom (target : Binary64) (num den : Nat) (leading : Int) :
    (steps count : Nat) → Scientific
  | 0, _ => ⟨['0'], 0⟩
  | steps + 1, count =>
    match readsBack target num den leading count with
    | some digits =>
      let text := Nat.toDigits 10 digits
      -- Rounding up can carry into one more digit.
      let exponent := leading + ((text.length : Int) - count)
      ⟨(text.reverse.dropWhile (· == '0')).reverse, exponent⟩
    | none => shortestFrom target num den leading steps (count + 1)

/-- The shortest decimal that reads back as `mantissa · 2 ^ exponent`, for a mantissa that is not
zero. -/
def shortest (mantissa : Nat) (exponent : Int) : Scientific :=
  let (num, den) :=
    if 0 ≤ exponent then (mantissa <<< exponent.toNat, 1) else (mantissa, 1 <<< (-exponent).toNat)
  let estimate : Int := ((num.log2 : Int) - den.log2 - 1) * 30103 / 100000 - 1
  let leading := leadingExponent num den 5 estimate
  shortestFrom (.finite false mantissa exponent) num den leading 17 1

/-- A decimal with its point written out: exponents from -4 to 15 are positional, all others have
an exponent of at least two digits. -/
def Scientific.render (s : Scientific) : List Char :=
  let e := s.exponent
  if -4 ≤ e && e < 16 then
    if e < 0 then '0' :: '.' :: List.replicate ((-e).toNat - 1) '0' ++ s.digits
    else
      let whole := e.toNat + 1
      let front := s.digits.take whole ++ List.replicate (whole - s.digits.length) '0'
      let back := s.digits.drop whole
      front ++ '.' :: (if back.isEmpty then ['0'] else back)
  else
    let front := match s.digits with
      | [] => []
      | [d] => [d]
      | d :: ds => d :: '.' :: ds
    let size := Nat.toDigits 10 e.natAbs
    front ++ 'e' :: (if e < 0 then '-' else '+') ::
      (if size.length < 2 then '0' :: size else size)

/-- The number as text. -/
def render : Binary64 → List Char
  | .nan => "NaN".toList
  | .infinite negative => (if negative then "-" else "").toList ++ "Infinity".toList
  | .finite negative mantissa exponent =>
    (if negative then ['-'] else []) ++
      (if mantissa = 0 then ['0', '.', '0'] else (shortest mantissa exponent).render)

end Binary64

end ApiDecl
