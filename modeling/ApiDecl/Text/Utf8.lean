/-!
# UTF-8

Encoding of characters as bytes, and decoding that tells apart every way in which bytes can fail
to be text. Decoding cuts the bytes into pieces. A piece is a character, or a run of bytes that
could have started a character but did not; such a run is as long as it can be.

* `encode` writes a text as bytes.
* `decode` reads bytes as a text, or says where and why they are none.
* `decodeLossy` puts the replacement character in place of every bad run.
-/

namespace ApiDecl.Text.Utf8

/-- The bytes of one character. -/
def encodeChar (c : Char) : List UInt8 :=
  let n := c.toNat
  if n < 0x80 then [n.toUInt8]
  else if n < 0x800 then [(0xc0 + n / 64).toUInt8, (0x80 + n % 64).toUInt8]
  else if n < 0x10000 then
    [(0xe0 + n / 4096).toUInt8, (0x80 + n / 64 % 64).toUInt8, (0x80 + n % 64).toUInt8]
  else
    [(0xf0 + n / 262144).toUInt8, (0x80 + n / 4096 % 64).toUInt8, (0x80 + n / 64 % 64).toUInt8,
      (0x80 + n % 64).toUInt8]

/-- The bytes of a list of characters. -/
def encodeChars (cs : List Char) : List UInt8 := cs.flatMap encodeChar

/-- The bytes of a text. -/
def encode (s : String) : List UInt8 := encodeChars s.toList

/-- Why a run of bytes is no character. -/
inductive Fault
  /-- No character starts with this byte. -/
  | badStart
  /-- The next byte does not go on with the character. -/
  | badContinuation
  /-- The bytes end inside the character. -/
  | truncated
deriving DecidableEq, Repr

/-- What the fault is called in messages. -/
def Fault.message : Fault → String
  | .badStart => "invalid start byte"
  | .badContinuation => "invalid continuation byte"
  | .truncated => "unexpected end of data"

/-- A stretch of decoded bytes. -/
inductive Piece
  | char (c : Char)
  | invalid (bytes : List UInt8) (fault : Fault)
deriving DecidableEq, Repr

/-- The number of bytes a piece covers. -/
def Piece.width : Piece → Nat
  | .char c => (encodeChar c).length
  | .invalid bytes _ => bytes.length

/-- A character of which some bytes are still to come. -/
structure Pending where
  /-- The bytes read so far. -/
  bytes : List UInt8
  /-- How many bytes are to come. -/
  missing : Nat
  /-- The least value of the next byte. -/
  low : Nat
  /-- The greatest value of the next byte. -/
  high : Nat
  /-- The payload bits read so far. -/
  value : Nat
deriving DecidableEq, Repr

/-- The character that a leading byte announces. The bounds of the second byte keep out overlong
forms, surrogates and values beyond the last code point. -/
def Pending.ofLead (b : UInt8) : Option Pending :=
  let n := b.toNat
  if n < 0xc2 then none
  else if n < 0xe0 then some ⟨[b], 1, 0x80, 0xbf, n - 0xc0⟩
  else if n < 0xf0 then
    let low := if n = 0xe0 then 0xa0 else 0x80
    let high := if n = 0xed then 0x9f else 0xbf
    some ⟨[b], 2, low, high, n - 0xe0⟩
  else if n < 0xf5 then
    let low := if n = 0xf0 then 0x90 else 0x80
    let high := if n = 0xf4 then 0x8f else 0xbf
    some ⟨[b], 3, low, high, n - 0xf0⟩
  else none

/-- Does the byte go on with the pending character? -/
def Pending.accepts (p : Pending) (b : UInt8) : Bool := p.low ≤ b.toNat && b.toNat ≤ p.high

/-- The pending character with one more byte. -/
def Pending.extend (p : Pending) (b : UInt8) : Pending :=
  ⟨p.bytes ++ [b], p.missing - 1, 0x80, 0xbf, p.value * 64 + b.toNat % 64⟩

/-- What a byte yields when no character is pending, and the character pending after it. -/
def start (b : UInt8) : List Piece × Option Pending :=
  if b.toNat < 0x80 then ([.char (Char.ofNat b.toNat)], none)
  else match Pending.ofLead b with
    | some p => ([], some p)
    | none => ([.invalid [b] .badStart], none)

/-- What a byte yields, and the character pending after it. -/
def step : Option Pending → UInt8 → List Piece × Option Pending
  | none, b => start b
  | some p, b =>
    if p.accepts b then
      if p.missing ≤ 1 then ([.char (Char.ofNat (p.extend b).value)], none)
      else ([], some (p.extend b))
    else
      let (out, next) := start b
      (.invalid p.bytes .badContinuation :: out, next)

/-- Cut bytes into pieces, with or without a character pending. -/
def piecesFrom : Option Pending → List UInt8 → List Piece
  | none, [] => []
  | some p, [] => [.invalid p.bytes .truncated]
  | pending, b :: rest =>
    let (out, next) := step pending b
    out ++ piecesFrom next rest

/-- Cut bytes into pieces. -/
def pieces (bytes : List UInt8) : List Piece := piecesFrom none bytes

/-- The first place where bytes are no text. -/
structure DecodeError where
  /-- The bytes that make up no character. -/
  bytes : List UInt8
  /-- How many bytes stand before them. -/
  position : Nat
  fault : Fault
deriving DecidableEq, Repr

/-- The characters of the pieces, up to the first bad one. -/
def charsOf (position : Nat) : List Piece → Except DecodeError (List Char)
  | [] => .ok []
  | .invalid bytes fault :: _ => .error ⟨bytes, position, fault⟩
  | .char c :: rest => do
    let cs ← charsOf (position + (encodeChar c).length) rest
    return c :: cs

/-- The characters that bytes encode. -/
def decodeChars (bytes : List UInt8) : Except DecodeError (List Char) := charsOf 0 (pieces bytes)

/-- The text that bytes encode. -/
def decode (bytes : List UInt8) : Except DecodeError String := String.ofList <$> decodeChars bytes

/-- The characters of bytes, every bad run replaced by one replacement character. -/
def decodeLossyChars (bytes : List UInt8) : List Char :=
  (pieces bytes).map fun
    | .char c => c
    | .invalid _ _ => '�'

/-- The text of bytes, every bad run replaced by one replacement character. -/
def decodeLossy (bytes : List UInt8) : String := String.ofList (decodeLossyChars bytes)

/-- Two hexadecimal digits of a byte. -/
def hexByte (b : UInt8) : String :=
  String.ofList [Nat.digitChar (b.toNat / 16), Nat.digitChar (b.toNat % 16)]

/-- What is wrong with the bytes, in words. -/
def DecodeError.message (e : DecodeError) : String :=
  let place := match e.bytes with
    | [b] => "byte 0x" ++ hexByte b ++ " in position " ++ toString e.position
    | bytes => "bytes in position " ++ toString e.position ++ "-" ++
        toString (e.position + bytes.length - 1)
  "'utf-8' codec can't decode " ++ place ++ ": " ++ e.fault.message

end ApiDecl.Text.Utf8
