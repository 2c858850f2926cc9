import ApiDecl.Proofs.Outcomes
import ApiDecl.Syntax.Node
import Mathlib.Data.List.Basic

/-!
# Bytes that are text

The decoder reads one byte at a time and keeps a character pending until all its bytes are there.
The bounds that it sets for the second byte keep out overlong forms, surrogates and values that are
no code points; the bytes of a character are always inside these bounds.

* `pieces_encodeChars`, `decodeChars_encodeChars` (no assumption): the bytes of a text are cut into
  its characters, so decoding them gives the text back.
* `exists_slice_eq_encodeChars`: what stands between two boundaries of characters is text again.
-/

namespace ApiDecl.Text.Utf8

/-! ## One byte -/

theorem toNat_toUInt8 {n : Nat} (h : n < 256) : n.toUInt8.toNat = n := by
  simp [Nat.toUInt8, Nat.mod_eq_of_lt h]

theorem toNat_tailByte (m : Nat) : (0x80 + m % 64).toUInt8.toNat = 0x80 + m % 64 :=
  toNat_toUInt8 (by omega)

theorem piecesFrom_ascii {b : UInt8} (h : b.toNat < 0x80) (rest : List UInt8) :
    piecesFrom none (b :: rest) = .char (Char.ofNat b.toNat) :: piecesFrom none rest := by
  simp [piecesFrom, step, start, h]

theorem piecesFrom_lead {b : UInt8} {p : Pending} (h : Pending.ofLead b = some p)
    (rest : List UInt8) : piecesFrom none (b :: rest) = piecesFrom (some p) rest := by
  have hhigh : ¬ b.toNat < 0x80 := by
    intro hlow
    have hlt : b.toNat < 0xc2 := by omega
    simp [Pending.ofLead, hlt] at h
  simp [piecesFrom, step, start, hhigh, h]

theorem piecesFrom_extend {p : Pending} {b : UInt8} (hmissing : 1 < p.missing)
    (hb : p.low ≤ b.toNat ∧ b.toNat ≤ p.high) (rest : List UInt8) :
    piecesFrom (some p) (b :: rest) = piecesFrom (some (p.extend b)) rest := by
  have haccepts : p.accepts b := by simpa [Pending.accepts] using hb
  have hmore : ¬ p.missing ≤ 1 := by omega
  simp [piecesFrom, step, haccepts, hmore]

theorem piecesFrom_finish {p : Pending} {b : UInt8} (hmissing : p.missing = 1)
    (hb : p.low ≤ b.toNat ∧ b.toNat ≤ p.high) (rest : List UInt8) :
    piecesFrom (some p) (b :: rest) =
      .char (Char.ofNat (p.extend b).value) :: piecesFrom none rest := by
  have haccepts : p.accepts b := by simpa [Pending.accepts] using hb
  simp [piecesFrom, step, haccepts, hmissing]

/-! ## The bytes of one character -/

theorem piecesFrom_two {n : Nat} (hlow : 0x80 ≤ n) (hhigh : n < 0x800) (rest : List UInt8) :
    piecesFrom none ((0xc0 + n / 64).toUInt8 :: (0x80 + n % 64).toUInt8 :: rest) =
      .char (Char.ofNat n) :: piecesFrom none rest := by
  have hb : (0xc0 + n / 64).toUInt8.toNat = 0xc0 + n / 64 := toNat_toUInt8 (by omega)
  generalize hlead : (0xc0 + n / 64).toUInt8 = b at hb ⊢
  have hp : Pending.ofLead b = some ⟨[b], 1, 0x80, 0xbf, n / 64⟩ := by
    simp [Pending.ofLead, hb, show ¬ 0xc0 + n / 64 < 0xc2 by omega,
      show 0xc0 + n / 64 < 0xe0 by omega]
  have hvalue : n / 64 * 64 + (0x80 + n % 64) % 64 = n := by omega
  rw [piecesFrom_lead hp, piecesFrom_finish rfl (by simp only [toNat_tailByte]; omega)]
  simp only [Pending.extend, toNat_tailByte, hvalue]

theorem piecesFrom_three {n : Nat} (hlow : 0x800 ≤ n) (hhigh : n < 0x10000)
    (hvalid : n < 0xd800 ∨ 0xdfff < n) (rest : List UInt8) :
    piecesFrom none ((0xe0 + n / 4096).toUInt8 :: (0x80 + n / 64 % 64).toUInt8 ::
        (0x80 + n % 64).toUInt8 :: rest) =
      .char (Char.ofNat n) :: piecesFrom none rest := by
  have hb : (0xe0 + n / 4096).toUInt8.toNat = 0xe0 + n / 4096 := toNat_toUInt8 (by omega)
  generalize hlead : (0xe0 + n / 4096).toUInt8 = b at hb ⊢
  have hp : Pending.ofLead b = some ⟨[b], 2, if 0xe0 + n / 4096 = 0xe0 then 0xa0 else 0x80,
      if 0xe0 + n / 4096 = 0xed then 0x9f else 0xbf, n / 4096⟩ := by
    simp [Pending.ofLead, hb, show ¬ 0xe0 + n / 4096 < 0xc2 by omega,
      show 0xe0 + n / 4096 < 0xf0 by omega]
  have hvalue : (n / 4096 * 64 + (0x80 + n / 64 % 64) % 64) * 64 + (0x80 + n % 64) % 64 = n := by
    omega
  rw [piecesFrom_lead hp, piecesFrom_extend Nat.one_lt_two, piecesFrom_finish rfl]
  · simp only [Pending.extend, toNat_tailByte, hvalue]
  · simp only [Pending.extend, toNat_tailByte]
    omega
  · simp only [toNat_tailByte]
    constructor <;> split <;> omega

theorem piecesFrom_four {n : Nat} (hlow : 0x10000 ≤ n) (hhigh : n < 0x110000) (rest : List UInt8) :
    piecesFrom none ((0xf0 + n / 262144).toUInt8 :: (0x80 + n / 4096 % 64).toUInt8 ::
        (0x80 + n / 64 % 64).toUInt8 :: (0x80 + n % 64).toUInt8 :: rest) =
      .char (Char.ofNat n) :: piecesFrom none rest := by
  have hb : (0xf0 + n / 262144).toUInt8.toNat = 0xf0 + n / 262144 := toNat_toUInt8 (by omega)
  generalize hlead : (0xf0 + n / 262144).toUInt8 = b at hb ⊢
  have hp : Pending.ofLead b = some ⟨[b], 3, if 0xf0 + n / 262144 = 0xf0 then 0x90 else 0x80,
      if 0xf0 + n / 262144 = 0xf4 then 0x8f else 0xbf, n / 262144⟩ := by
    simp [Pending.ofLead, hb, show ¬ 0xf0 + n / 262144 < 0xc2 by omega,
      show ¬ 0xf0 + n / 262144 < 0xe0 by omega, show 0xf0 + n / 262144 < 0xf5 by omega]
  have hvalue : ((n / 262144 * 64 + (0x80 + n / 4096 % 64) % 64) * 64 +
      (0x80 + n / 64 % 64) % 64) * 64 + (0x80 + n % 64) % 64 = n := by omega
  rw [piecesFrom_lead hp, piecesFrom_extend (by simp), piecesFrom_extend Nat.one_lt_two,
    piecesFrom_finish rfl]
  · simp only [Pending.extend, toNat_tailByte, hvalue]
  · simp only [Pending.extend, toNat_tailByte]
    omega
  · simp only [Pending.extend, toNat_tailByte]
    omega
  · simp only [toNat_tailByte]
    constructor <;> split <;> omega

/-- The bytes of a character are read as this character, whatever follows. -/
theorem piecesFrom_encodeChar (c : Char) (rest : List UInt8) :
    piecesFrom none (encodeChar c ++ rest) = .char c :: piecesFrom none rest := by
  have hvalid : c.toNat < 0xd800 ∨ 0xdfff < c.toNat ∧ c.toNat < 0x110000 := c.valid
  have hc : Char.ofNat c.toNat = c := Char.ofNat_toNat c
  unfold encodeChar
  dsimp only
  split
  · have hb : c.toNat.toUInt8.toNat = c.toNat := toNat_toUInt8 (by omega)
    rw [List.singleton_append, piecesFrom_ascii (by omega), hb, hc]
  · split
    · exact (piecesFrom_two (by omega) (by omega) rest).trans (by rw [hc])
    · split
      · exact (piecesFrom_three (by omega) (by omega) (by omega) rest).trans (by rw [hc])
      · exact (piecesFrom_four (by omega) (by omega) rest).trans (by rw [hc])

/-! ## Texts -/

theorem pieces_encodeChars (cs : List Char) : pieces (encodeChars cs) = cs.map .char := by
  unfold pieces
  induction cs with
  | nil => rfl
  | cons c rest ih =>
    rw [encodeChars, List.flatMap_cons, piecesFrom_encodeChar, List.map_cons]
    exact congrArg _ ih

theorem charsOf_map_char (position : Nat) (cs : List Char) :
    charsOf position (cs.map .char) = .ok cs := by
  induction cs generalizing position with
  | nil => rfl
  | cons c rest ih => rw [List.map_cons, charsOf, ih, Outcome.ok_bind, Outcome.pure_eq_ok]

@[simp] theorem decodeChars_encodeChars (cs : List Char) :
    decodeChars (encodeChars cs) = .ok cs := by
  rw [decodeChars, pieces_encodeChars, charsOf_map_char]

@[simp] theorem decode_encode (s : String) : decode (encode s) = .ok s := by
  rw [decode, encode, decodeChars_encodeChars]
  exact congrArg Except.ok String.ofList_toList

/-! ## Boundaries of characters -/

/-- An offset in the bytes of a text at which a character starts or the text ends. -/
def Boundary (cs : List Char) (offset : Nat) : Prop :=
  ∃ before after, cs = before ++ after ∧ offset = (encodeChars before).length

theorem boundary_iff {cs : List Char} {offset : Nat} :
    Boundary cs offset ↔ ∃ i ≤ cs.length, offset = (encodeChars (cs.take i)).length := by
  constructor
  · rintro ⟨before, after, rfl, rfl⟩
    exact ⟨before.length, by simp, by simp⟩
  · rintro ⟨i, -, rfl⟩
    exact ⟨cs.take i, cs.drop i, (List.take_append_drop i cs).symm, rfl⟩

instance (cs : List Char) (offset : Nat) : Decidable (Boundary cs offset) :=
  decidable_of_iff (∃ i < cs.length + 1, offset = (encodeChars (cs.take i)).length)
    (by simp only [boundary_iff, Nat.lt_succ_iff])

/-- What stands between two boundaries of a text is a text. -/
theorem exists_slice_eq_encodeChars {cs : List Char} {start stop : Nat} (hstart : Boundary cs start)
    (hstop : Boundary cs stop) :
    ∃ between, Syntax.slice (encodeChars cs) start stop = encodeChars between := by
  obtain ⟨before, after, rfl, rfl⟩ := hstart
  obtain ⟨before', after', hsplit, rfl⟩ := hstop
  unfold Syntax.slice
  rcases List.append_eq_append_iff.mp hsplit with ⟨between, rfl, rfl⟩ | ⟨between, rfl, rfl⟩
  · refine ⟨between, ?_⟩
    simp [encodeChars]
  · -- The end lies before the start, so nothing is taken.
    refine ⟨[], ?_⟩
    have hzero : (encodeChars before').length - (encodeChars (before' ++ between)).length = 0 := by
      simp [encodeChars]
    rw [hzero]
    rfl

end ApiDecl.Text.Utf8
