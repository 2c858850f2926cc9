import ApiDecl.Json.Parse
import ApiDecl.Json.Render
import ApiDecl.Proofs.Outcomes
import Mathlib.Data.List.Basic
import Mathlib.Data.List.TakeWhile
import Mathlib.Tactic.IntervalCases

/-!
# Written values read back

`parse` gives back what `render` writes, with the members of all objects in the order of their
keys. This holds of every value without floating-point numbers in whose objects no key stands
twice (`Plain`): a key that stands twice is read once, and the decimal form of a floating-point
number is not looked into here.

Each step of reading is stated with what follows in the text (`Ends`), so that the parts of a list
or an object can be read one after the other. Fuel is counted by the length of the text that is
read.

All this is reading without a limit on digits. With a limit, an integer that is too long is refused
(`parse_long`).
-/

namespace ApiDecl.Json

/-! ## Strings -/

theorem hexValue?_digitChar {d : Nat} (h : d < 16) : hexValue? (Nat.digitChar d) = some d := by
  interval_cases d <;> rfl

theorem unicodeEscape_control {c x : Char} (h : c.toNat < 0x20) (rest : List Char) :
    unicodeEscape ('0' :: '0' :: Nat.digitChar (c.toNat / 16) :: Nat.digitChar (c.toNat % 16) ::
      x :: rest) = .ok (c, x :: rest) := by
  have hquad : hexQuad? ('0' :: '0' :: Nat.digitChar (c.toNat / 16) ::
      Nat.digitChar (c.toNat % 16) :: x :: rest) = some (c.toNat, x :: rest) := by
    have hzero : hexValue? '0' = some 0 := rfl
    rw [hexQuad?, hzero, hexValue?_digitChar (by omega), hexValue?_digitChar (by omega)]
    simp only [Option.bind_eq_bind, Option.bind_some, Option.pure_def, Option.some.injEq,
      Prod.mk.injEq, and_true]
    omega
  have hhigh : isHighHalf c.toNat = false := by
    rw [isHighHalf, Bool.and_eq_false_iff]
    exact Or.inl (decide_eq_false (by omega))
  have hlow : isLowHalf c.toNat = false := by
    rw [isLowHalf, Bool.and_eq_false_iff]
    exact Or.inl (decide_eq_false (by omega))
  rw [unicodeEscape, hquad]
  simp [hhigh, unitChar, hlow]

theorem stringBody_escapeChar (opening : List Char) (fuel : Nat) (done : List Char) (c x : Char)
    (rest : List Char) :
    stringBody opening (fuel + 1) done (escapeChar c ++ x :: rest) =
      stringBody opening fuel (c :: done) (x :: rest) := by
  by_cases hshort : c ∈ ['"', '\\', '\x08', '\x0c', '\n', '\r', '\t']
  · simp only [List.mem_cons, List.not_mem_nil, or_false] at hshort
    rcases hshort with rfl | rfl | rfl | rfl | rfl | rfl | rfl <;> rfl
  · simp only [List.mem_cons, List.not_mem_nil, or_false, not_or] at hshort
    obtain ⟨hquote, hslash, h₁, h₂, h₃, h₄, h₅⟩ := hshort
    rw [escapeChar, if_neg hquote, if_neg hslash, if_neg h₁, if_neg h₂, if_neg h₃, if_neg h₄,
      if_neg h₅]
    by_cases hcontrol : c.toNat < 0x20
    · rw [if_pos hcontrol]
      show (unicodeEscape ('0' :: '0' :: Nat.digitChar (c.toNat / 16) ::
        Nat.digitChar (c.toNat % 16) :: x :: rest) >>=
          fun p => stringBody opening fuel (p.1 :: done) p.2) = _
      rw [unicodeEscape_control hcontrol]
      rfl
    · rw [if_neg hcontrol, List.singleton_append, stringBody, if_neg hcontrol]
      all_goals simp [hquote, hslash]

theorem length_le_flatMap_escapeChar (s : List Char) :
    s.length ≤ (s.flatMap escapeChar).length := by
  induction s with
  | nil => simp
  | cons c s ih =>
    have hc : 1 ≤ (escapeChar c).length := by
      unfold escapeChar
      split_ifs <;> simp
    rw [List.flatMap_cons, List.length_append, List.length_cons]
    omega

theorem stringBody_flatMap (opening s rest done : List Char) (fuel : Nat) (h : s.length < fuel) :
    stringBody opening fuel done (s.flatMap escapeChar ++ '"' :: rest) =
      .ok (String.ofList (done.reverse ++ s), rest) := by
  induction s generalizing done fuel with
  | nil =>
    obtain ⟨fuel, rfl⟩ : ∃ k, fuel = k + 1 := ⟨fuel - 1, by simp at h; omega⟩
    rw [List.append_nil]
    rfl
  | cons c s ih =>
    obtain ⟨fuel, rfl⟩ : ∃ k, fuel = k + 1 := ⟨fuel - 1, by simp at h; omega⟩
    have hnext : ∃ x more, s.flatMap escapeChar ++ '"' :: rest = x :: more :=
      List.exists_cons_of_ne_nil (by simp)
    obtain ⟨x, more, hmore⟩ := hnext
    rw [List.flatMap_cons, List.append_assoc, hmore, stringBody_escapeChar, ← hmore,
      ih (c :: done) fuel (by simpa using h)]
    simp

theorem string_renderString (s : String) (rest : List Char) :
    string (s.toList.flatMap escapeChar ++ '"' :: rest) = .ok (s, rest) := by
  have hfuel : s.toList.length < (s.toList.flatMap escapeChar ++ '"' :: rest).length + 1 := by
    have hlength := length_le_flatMap_escapeChar s.toList
    simp only [List.length_append, List.length_cons]
    omega
  rw [string, stringBody_flatMap _ _ _ _ _ hfuel]
  simp

/-! ## Numbers and words -/

/-- What may follow a value in a text: nothing, a comma or a line break. -/
def Ends (rest : List Char) : Prop := ∀ c ∈ rest.head?, c = ',' ∨ c = '\n'

theorem digitsValue_toDigits (n : Nat) : digitsValue (Nat.toDigits 10 n) = n := by
  have h := Nat.ofDigitChars_toDigits (b := 10) (n := n) (by decide) (by decide)
  rw [Nat.ofDigitChars_eq_foldl] at h
  simpa [digitsValue, Nat.mul_comm] using h

theorem head_toDigits_ne_zero {n : Nat} (h : n ≠ 0) : (Nat.toDigits 10 n).head? ≠ some '0' := by
  induction n using Nat.strongRecOn with
  | ind n ih =>
    by_cases hlt : n < 10
    · rw [Nat.toDigits_of_lt_base hlt]
      interval_cases n <;> simp_all
    · rw [Nat.toDigits_of_base_le (by decide) (by omega)]
      have hne : Nat.toDigits 10 (n / 10) ≠ [] := Nat.toDigits_ne_nil
      rw [List.head?_append_of_ne_nil _ hne]
      exact ih (n / 10) (by omega) (by omega)

theorem takeWhile_toDigits (n : Nat) {rest : List Char} (h : Ends rest) :
    (Nat.toDigits 10 n ++ rest).takeWhile Char.isDigit = Nat.toDigits 10 n := by
  rw [List.takeWhile_append_of_pos]
  · cases rest with
    | nil => simp
    | cons c cs =>
      have hc : c.isDigit = false := by
        rcases h c rfl with rfl | rfl <;> rfl
      simp [hc]
  · intro c hc
    exact Nat.isDigit_of_mem_toDigits (by decide) (by decide) hc

theorem fractionPart_of_ends {rest : List Char} (h : Ends rest) : fractionPart rest = none := by
  cases rest with
  | nil => rfl
  | cons c cs => rcases h c rfl with rfl | rfl <;> rfl

theorem exponentPart_of_ends {rest : List Char} (h : Ends rest) : exponentPart rest = none := by
  cases rest with
  | nil => rfl
  | cons c cs => rcases h c rfl with rfl | rfl <;> rfl

theorem integerPart_toDigits (n : Nat) {rest : List Char} (h : Ends rest) :
    integerPart (Nat.toDigits 10 n ++ rest) = Nat.toDigits 10 n := by
  by_cases hn : n = 0
  · subst hn
    rfl
  · unfold integerPart
    split
    · next hzero =>
      have hhead := congrArg List.head? hzero
      rw [List.head?_append_of_ne_nil _ Nat.toDigits_ne_nil] at hhead
      exact absurd hhead (head_toDigits_ne_zero hn)
    · exact takeWhile_toDigits n h

theorem number?_toDigits (negative : Bool) (n : Nat) {rest : List Char} (h : Ends rest) :
    number? none negative (Nat.toDigits 10 n ++ rest) =
      some (.ok (.int (if negative then -(n : Int) else n), rest)) := by
  have hne : (Nat.toDigits 10 n).isEmpty = false := by simp [Nat.toDigits_ne_nil]
  simp only [number?, integerPart_toDigits n h, hne, List.drop_left, fractionPart_of_ends h,
    exponentPart_of_ends h, Option.getD_none, digitsValue_toDigits]
  rfl

theorem exists_toDigits (n : Nat) : ∃ d ds, Nat.toDigits 10 n = d :: ds ∧ d.isDigit = true := by
  obtain ⟨d, ds, hd⟩ := List.exists_cons_of_ne_nil (Nat.toDigits_ne_nil (b := 10) (n := n))
  have hmem : d ∈ Nat.toDigits 10 n := hd ▸ List.mem_cons_self
  exact ⟨d, ds, hd, Nat.isDigit_of_mem_toDigits (by decide) (by decide) hmem⟩

-- No word holds a digit, and every word is longer than a sign with one digit.
theorem not_word_of_digit {cs : List Char} (h : (cs.take 2).any Char.isDigit = true) :
    ∀ w ∈ wordValues, ¬ w.1.toList <+: cs := by
  have hwords : ∀ w ∈ wordValues,
      2 ≤ w.1.toList.length ∧ (w.1.toList.take 2).any Char.isDigit = false := by decide
  intro w hw hprefix
  obtain ⟨hlong, hdigit⟩ := hwords w hw
  obtain ⟨rest, rfl⟩ := hprefix
  rw [List.take_append_of_le_length hlong, hdigit] at h
  exact absurd h (by decide)

theorem findWord_eq_none {cs : List Char} (h : ∀ w ∈ wordValues, ¬ w.1.toList <+: cs) :
    (wordValues.findSome? fun (word, v) => (afterWord? word cs).map fun rest => (v, rest)) =
      none := by
  rw [List.findSome?_eq_none_iff]
  intro w hw
  have hno : w.1.toList.isPrefixOf cs = false := by
    rw [Bool.eq_false_iff, ne_eq, List.isPrefixOf_iff_prefix]
    exact h w hw
  simp [afterWord?, hno]

/-- A text that starts with a digit is read as a number. -/
theorem scalar_of_digit (limit : Option Nat) {d : Char} (hd : d.isDigit = true)
    (more : List Char) :
    scalar limit (d :: more) =
      (number? limit false (d :: more)).getD (.error ⟨.value, d :: more⟩) := by
  rw [scalar, findWord_eq_none (not_word_of_digit (by simp [hd]))]
  intro rest heq
  rw [(List.cons.inj heq).1] at hd
  exact absurd hd (by decide)

theorem scalar_renderInt (n : Int) {rest : List Char} (h : Ends rest) :
    scalar none (renderInt n ++ rest) = .ok (.int n, rest) := by
  obtain ⟨d, ds, hd, hdigit⟩ := exists_toDigits n.natAbs
  have hnumber := fun negative => number?_toDigits negative n.natAbs h
  rw [hd] at hnumber
  by_cases hneg : n < 0
  · have htext : renderInt n ++ rest = '-' :: (d :: ds ++ rest) := by simp [renderInt, hneg, hd]
    have hval : -(n.natAbs : Int) = n := by omega
    rw [htext, scalar, findWord_eq_none (not_word_of_digit (by simp [hdigit]))]
    simp only [hnumber, if_true, hval, Option.getD_some]
  · have htext : renderInt n ++ rest = d :: ds ++ rest := by simp [renderInt, hneg, hd]
    have hval : (n.natAbs : Int) = n := by omega
    rw [htext, List.cons_append, scalar_of_digit none hdigit, ← List.cons_append]
    simp only [hnumber, Bool.false_eq_true, if_false, hval, Option.getD_some]

/-! ## Blanks -/

theorem skipSpace_newline (level : Nat) (cs : List Char) :
    skipSpace (newline level ++ cs) = skipSpace cs := by
  have hblank : ∀ c ∈ newline level, isSpace c = true := by
    intro c hc
    simp only [newline, List.mem_cons, List.mem_replicate] at hc
    rcases hc with rfl | ⟨-, rfl⟩ <;> rfl
  exact List.dropWhile_append_of_pos hblank

theorem skipSpace_cons {c : Char} (cs : List Char) (h : isSpace c = false) :
    skipSpace (c :: cs) = c :: cs := by
  simp [skipSpace, h]

theorem ends_newline (level : Nat) (cs : List Char) : Ends (newline level ++ cs) := by
  intro c hc
  exact Or.inr (by simpa [newline] using hc.symm)

theorem ends_comma (cs : List Char) : Ends (',' :: cs) := by
  intro c hc
  exact Or.inl (by simpa using hc.symm)

/-! ## Where the text of a value starts -/

/-- Values without floating-point numbers whose objects have no key twice. -/
inductive Plain : Json → Prop
  | null : Plain .null
  | bool (b : Bool) : Plain (.bool b)
  | int (n : Int) : Plain (.int n)
  | str (s : String) : Plain (.str s)
  | arr {items : List Json} (h : ∀ v ∈ items, Plain v) : Plain (.arr items)
  | obj {members : List (String × Json)} (distinct : (members.map Prod.fst).Nodup)
    (h : ∀ m ∈ members, Plain m.2) : Plain (.obj members)

/-- The characters with which the text of a value starts. -/
def Starts (c : Char) : Prop := c.isDigit = true ∨ c ∈ ['n', 't', 'f', '"', '[', '{', '-']

instance : DecidablePred Starts := fun _ => inferInstanceAs (Decidable (_ ∨ _))

theorem Starts.isSpace_eq_false {c : Char} (h : Starts c) : isSpace c = false := by
  rw [Bool.eq_false_iff]
  intro hspace
  simp only [isSpace, Bool.or_eq_true, beq_iff_eq] at hspace
  rcases hspace with ((rfl | rfl) | rfl) | rfl <;> exact absurd h (by decide)

theorem Starts.ne {c d : Char} (h : Starts c) (hd : ¬ Starts d) : c ≠ d := by
  rintro rfl
  exact hd h

theorem exists_renderInt (n : Int) :
    ∃ c cs, renderInt n = c :: cs ∧ (c.isDigit = true ∨ c = '-') := by
  obtain ⟨d, ds, hd, hdigit⟩ := exists_toDigits n.natAbs
  rw [renderInt, hd]
  split
  · exact ⟨'-', d :: ds, rfl, Or.inr rfl⟩
  · exact ⟨d, ds, rfl, Or.inl hdigit⟩

theorem Plain.exists_layout {v : Json} (h : v.Plain) (level : Nat) :
    ∃ c cs, layout level v = c :: cs ∧ Starts c := by
  cases h with
  | null => exact ⟨'n', _, rfl, by decide⟩
  | bool b => cases b with
    | true => exact ⟨'t', _, rfl, by decide⟩
    | false => exact ⟨'f', _, rfl, by decide⟩
  | int n =>
    obtain ⟨c, cs, htext, hc⟩ := exists_renderInt n
    refine ⟨c, cs, htext, hc.imp_right ?_⟩
    rintro rfl
    decide
  | str s => exact ⟨'"', _, rfl, by decide⟩
  | @arr items h => cases items <;> exact ⟨'[', _, rfl, by decide⟩
  | @obj members _ h => cases members <;> exact ⟨'{', _, rfl, by decide⟩

theorem skipSpace_layout {v : Json} (h : v.Plain) (level : Nat) (cs : List Char) :
    skipSpace (layout level v ++ cs) = layout level v ++ cs := by
  obtain ⟨c, cs', htext, hstart⟩ := h.exists_layout level
  rw [htext, List.cons_append, skipSpace_cons _ hstart.isSpace_eq_false]

/-! ## Lists and objects -/

/-- Reading gives the value back from its text, whatever may stand after it. -/
def Reads (v : Json) : Prop :=
  ∀ level fuel rest, Ends rest → (layout level v).length ≤ fuel →
    value none fuel (layout level v ++ rest) = .ok (v, rest)

theorem ends_layoutItems (level deep : Nat) (items : List Json) (cs : List Char) :
    Ends (layoutItems deep items ++ (newline level ++ cs)) := by
  cases items with
  | nil => exact ends_newline level cs
  | cons w rest => exact ends_comma _

theorem ends_layoutMembers (level deep : Nat) (members : List (String × Json)) (cs : List Char) :
    Ends (layoutMembers deep members ++ (newline level ++ cs)) := by
  cases members with
  | nil => exact ends_newline level cs
  | cons w rest => exact ends_comma _

theorem arrayItems_layout (level deep : Nat) (rest : List Char) {items : List Json} :
    ∀ {v : Json} (fuel : Nat), (∀ w ∈ v :: items, Plain w ∧ Reads w) →
      (layout deep v).length + (layoutItems deep items).length < fuel →
      arrayItems none fuel (layout deep v ++
          (layoutItems deep items ++ (newline level ++ ']' :: rest))) =
        .ok (v :: items, rest) := by
  induction items with
  | nil =>
    intro v fuel hitems hfuel
    obtain ⟨-, hread⟩ := hitems v List.mem_cons_self
    obtain ⟨fuel, rfl⟩ : ∃ f, fuel = f + 1 := ⟨fuel - 1, by omega⟩
    rw [arrayItems, hread deep fuel _ (ends_layoutItems level deep [] _) (by omega)]
    simp only [Outcome.ok_bind, layoutItems, List.nil_append, skipSpace_newline]
    rw [skipSpace_cons _ (by decide)]
    rfl
  | cons w items ih =>
    intro v fuel hitems hfuel
    obtain ⟨-, hread⟩ := hitems v List.mem_cons_self
    obtain ⟨hplain, -⟩ := hitems w (List.mem_cons_of_mem _ List.mem_cons_self)
    simp only [layoutItems, List.length_append, List.length_cons] at hfuel
    obtain ⟨fuel, rfl⟩ : ∃ f, fuel = f + 1 := ⟨fuel - 1, by omega⟩
    rw [arrayItems, hread deep fuel _ (ends_layoutItems level deep _ _) (by omega)]
    simp only [Outcome.ok_bind, layoutItems, List.cons_append, List.append_assoc]
    rw [skipSpace_cons _ (by decide)]
    simp only [skipSpace_newline, skipSpace_layout hplain]
    rw [ih fuel (fun u hu => hitems u (List.mem_cons_of_mem _ hu)) (by omega)]
    rfl

theorem renderString_append (s : String) (rest : List Char) :
    renderString s ++ rest = '"' :: (s.toList.flatMap escapeChar ++ '"' :: rest) := by
  simp [renderString]

theorem skipSpace_renderString (s : String) (rest : List Char) :
    skipSpace (renderString s ++ rest) = renderString s ++ rest := by
  rw [renderString_append, skipSpace_cons _ (by decide)]

-- One member is read, and what follows it decides how reading goes on.
theorem objectMembers_member (deep : Nat) {k : String} {v : Json} {done : List (String × Json)}
    {fuel : Nat} {after : List Char} (hplain : Plain v) (hread : Reads v)
    (hnew : k ∉ done.map Prod.fst) (hends : Ends after) (hfuel : (layout deep v).length ≤ fuel) :
    objectMembers none (fuel + 1) done
        (renderString k ++ (':' :: ' ' :: (layout deep v ++ after))) =
      match skipSpace after with
      | '}' :: rest => .ok (done ++ [(k, v)], rest)
      | ',' :: rest => objectMembers none fuel (done ++ [(k, v)]) (skipSpace rest)
      | rest => .error ⟨.comma, rest⟩ := by
  have hblank : skipSpace (' ' :: (layout deep v ++ after)) = layout deep v ++ after :=
    skipSpace_layout hplain deep after
  rw [renderString_append, objectMembers, string_renderString]
  simp only [Outcome.ok_bind]
  rw [skipSpace_cons _ (by decide)]
  simp only [hblank, hread deep fuel after hends hfuel, Outcome.ok_bind, Keyed.set_of_not_mem hnew]
  rfl

theorem not_mem_of_nodup {k : String} {v : Json} {done members : List (String × Json)}
    (h : ((done ++ (k, v) :: members).map Prod.fst).Nodup) : k ∉ done.map Prod.fst := by
  intro hk
  simp only [List.map_append, List.nodup_append] at h
  exact h.2.2 k hk k (by simp) rfl

theorem objectMembers_layout (level deep : Nat) (rest : List Char)
    {members : List (String × Json)} :
    ∀ {k : String} {v : Json} {done : List (String × Json)} (fuel : Nat),
      (∀ m ∈ (k, v) :: members, Plain m.2 ∧ Reads m.2) →
      ((done ++ (k, v) :: members).map Prod.fst).Nodup →
      (layout deep v).length + (layoutMembers deep members).length < fuel →
      objectMembers none fuel done (renderString k ++ (':' :: ' ' :: (layout deep v ++
          (layoutMembers deep members ++ (newline level ++ '}' :: rest))))) =
        .ok (done ++ (k, v) :: members, rest) := by
  induction members with
  | nil =>
    intro k v done fuel hmembers hkeys hfuel
    obtain ⟨hplain, hread⟩ : Plain v ∧ Reads v := hmembers (k, v) List.mem_cons_self
    have hnew := not_mem_of_nodup hkeys
    obtain ⟨fuel, rfl⟩ : ∃ f, fuel = f + 1 := ⟨fuel - 1, by omega⟩
    rw [objectMembers_member deep hplain hread hnew (ends_layoutMembers level deep [] _) (by omega)]
    simp only [layoutMembers, List.nil_append, skipSpace_newline]
    rw [skipSpace_cons _ (by decide)]
    rfl
  | cons m members ih =>
    intro k v done fuel hmembers hkeys hfuel
    obtain ⟨hplain, hread⟩ : Plain v ∧ Reads v := hmembers (k, v) List.mem_cons_self
    have hnew := not_mem_of_nodup hkeys
    simp only [layoutMembers, List.length_append, List.length_cons] at hfuel
    obtain ⟨fuel, rfl⟩ : ∃ f, fuel = f + 1 := ⟨fuel - 1, by omega⟩
    rw [objectMembers_member deep hplain hread hnew (ends_layoutMembers level deep _ _) (by omega)]
    simp only [layoutMembers, List.cons_append, List.append_assoc]
    rw [skipSpace_cons _ (by decide)]
    simp only [skipSpace_newline, skipSpace_renderString]
    rw [ih fuel (fun u hu => hmembers u (List.mem_cons_of_mem _ hu)) (by simpa using hkeys)
      (by omega)]
    simp

/-! ## Values -/

/-- Neither a digit nor a minus sign opens a string, an object or a list. -/
theorem value_of_number (limit : Option Nat) (fuel : Nat) {c : Char}
    (hc : c.isDigit = true ∨ c = '-') (cs : List Char) :
    value limit (fuel + 1) (c :: cs) = scalar limit (c :: cs) := by
  have hopen : ∀ d, d.isDigit = false ∧ d ≠ '-' → c ≠ d := by
    rintro d ⟨hdigit, hminus⟩ rfl
    rcases hc with hc | hc
    · simp [hc] at hdigit
    · exact hminus hc
  rw [value]
  · exact fun _ heq => hopen '"' (by decide) (List.cons.inj heq).1
  · exact fun _ heq => hopen '{' (by decide) (List.cons.inj heq).1
  · exact fun _ heq => hopen '[' (by decide) (List.cons.inj heq).1

theorem value_renderInt (fuel : Nat) (n : Int) {rest : List Char} (h : Ends rest) :
    value none (fuel + 1) (renderInt n ++ rest) = .ok (.int n, rest) := by
  have hscalar := scalar_renderInt n h
  obtain ⟨c, cs, htext, hc⟩ := exists_renderInt n
  rw [htext, List.cons_append] at hscalar ⊢
  rw [value_of_number none fuel hc, hscalar]

theorem reads_of_succ {v : Json} (hplain : v.Plain)
    (h : ∀ level fuel rest, Ends rest → (layout level v).length ≤ fuel + 1 →
      value none (fuel + 1) (layout level v ++ rest) = .ok (v, rest)) : v.Reads := by
  intro level fuel rest hends hfuel
  obtain ⟨c, cs, htext, -⟩ := hplain.exists_layout level
  have hpos : 0 < (layout level v).length := by rw [htext]; exact Nat.succ_pos _
  obtain ⟨fuel, rfl⟩ : ∃ f, fuel = f + 1 := ⟨fuel - 1, by omega⟩
  exact h level fuel rest hends hfuel

theorem layout_arr_cons (level : Nat) (v : Json) (items : List Json) :
    layout level (.arr (v :: items)) = '[' :: newline (level + 1) ++ layout (level + 1) v ++
      layoutItems (level + 1) items ++ newline level ++ [']'] := rfl

theorem layout_obj_cons (level : Nat) (m : String × Json) (members : List (String × Json)) :
    layout level (.obj (m :: members)) = '{' :: newline (level + 1) ++ renderString m.1 ++
      ':' :: ' ' :: layout (level + 1) m.2 ++ layoutMembers (level + 1) members ++
        newline level ++ ['}'] := rfl

/-- The text of a value reads back as the value. -/
theorem Plain.reads {v : Json} (h : v.Plain) : v.Reads := by
  induction h with
  | null => exact reads_of_succ .null fun level fuel rest _ _ => rfl
  | bool b =>
    refine reads_of_succ (.bool b) fun level fuel rest _ _ => ?_
    cases b <;> rfl
  | int n =>
    refine reads_of_succ (.int n) fun level fuel rest hends _ => ?_
    exact value_renderInt fuel n hends
  | str s =>
    refine reads_of_succ (.str s) fun level fuel rest _ _ => ?_
    have htext : layout level (.str s) = renderString s := rfl
    rw [htext, renderString_append, value, string_renderString]
    rfl
  | @arr items hplain ih =>
    refine reads_of_succ (.arr hplain) fun level fuel rest _ hfuel => ?_
    cases items with
    | nil => rfl
    | cons v items =>
      obtain ⟨c, cs, htext, hstart⟩ := (hplain v List.mem_cons_self).exists_layout (level + 1)
      have hitems := arrayItems_layout level (level + 1) rest fuel
        (fun w hw => ⟨hplain w hw, ih w hw⟩)
        (by simp [layout_arr_cons, newline] at hfuel; omega)
      rw [htext, List.cons_append] at hitems
      simp only [layout_arr_cons, htext, List.cons_append, List.append_assoc, List.nil_append]
      rw [value, skipSpace_newline, skipSpace_cons _ hstart.isSpace_eq_false]
      split
      · next heq => exact absurd (List.cons.inj heq).1 (hstart.ne (by decide))
      · rw [hitems]
        rfl
  | @obj members distinct hplain ih =>
    refine reads_of_succ (.obj distinct hplain) fun level fuel rest _ hfuel => ?_
    cases members with
    | nil => rfl
    | cons m members =>
      have hmembers := objectMembers_layout level (level + 1) rest fuel
        (fun w hw => ⟨hplain w hw, ih w hw⟩)
        (show (([] ++ m :: members).map Prod.fst).Nodup from distinct)
        (by simp [layout_obj_cons, newline] at hfuel; omega)
      simp only [layout_obj_cons, List.cons_append, List.append_assoc, List.nil_append]
      rw [value, skipSpace_newline, skipSpace_renderString]
      split
      · next heq =>
        rw [renderString_append] at heq
        exact absurd (List.cons.inj heq).1 (by decide)
      · rw [hmembers]
        rfl

theorem parse_layout {v : Json} (h : v.Plain) : parse (layout 0 v ++ ['\n']) = .ok v := by
  obtain ⟨c, cs, htext, hstart⟩ := h.exists_layout 0
  have hread := h.reads 0 ((layout 0 v ++ ['\n']).length + 1) ['\n'] (ends_newline 0 [])
    (by rw [List.length_append]; omega)
  have hskip := skipSpace_layout h 0 ['\n']
  unfold parse
  split
  · next heq =>
    rw [htext] at heq
    exact absurd (List.cons.inj heq).1 (hstart.ne (by decide))
  · rw [hskip, hread]
    rfl

/-! ## Integers that are too long -/

theorem number?_long {limit : Nat} (negative : Bool) {ds : List Char}
    (hdigits : ∀ d ∈ ds, d.isDigit = true) (hzero : ds.head? ≠ some '0')
    (hlong : limit < ds.length) :
    number? (some limit) negative ds = some (.error ⟨.longInteger limit ds.length, ds⟩) := by
  have hall : integerPart ds = ds := by
    unfold integerPart
    split
    · exact absurd rfl hzero
    · exact List.takeWhile_eq_self_iff.2 hdigits
  have hne : ds.isEmpty = false := by
    cases ds with
    | nil => cases hlong
    | cons d more => rfl
  simp [number?, hall, hne, fractionPart, exponentPart, Option.filter, hlong]

/-- An integer with more digits than the limit is refused as such. -/
theorem parse_long {limit : Nat} {ds : List Char} (hdigits : ∀ d ∈ ds, d.isDigit = true)
    (hzero : ds.head? ≠ some '0') (hlong : limit < ds.length) :
    parse ds (some limit) = .error (.at ds (.longInteger limit ds.length) 0) := by
  have hnumber := number?_long false hdigits hzero hlong
  obtain ⟨d, more, rfl⟩ : ∃ d more, ds = d :: more :=
    List.exists_cons_of_length_pos (Nat.zero_lt_of_lt hlong)
  have hd : d.isDigit = true := hdigits d List.mem_cons_self
  have hscalar : scalar (some limit) (d :: more) =
      .error ⟨.longInteger limit (d :: more).length, d :: more⟩ := by
    rw [scalar_of_digit _ hd, hnumber, Option.getD_some]
  have hstart : Starts d := .inl hd
  unfold parse
  split
  · next heq => exact absurd (List.cons.inj heq).1 (hstart.ne (by decide))
  · rw [skipSpace_cons _ hstart.isSpace_eq_false, value_of_number _ _ (.inl hd), hscalar]
    simp

/-! ## Sorted members -/

/-- Equal up to the order of the members of objects. -/
inductive Same : Json → Json → Prop
  | refl (v : Json) : Same v v
  | arr {items items' : List Json} (length : items.length = items'.length)
    (item : ∀ (i : Nat) (v w : Json), items[i]? = some v → items'[i]? = some w → Same v w) :
    Same (.arr items) (.arr items')
  | obj {members members' : List (String × Json)}
    (keys : ∀ k, (members.lookup k).isSome = (members'.lookup k).isSome)
    (member : ∀ (k : String) (v w : Json),
      members.lookup k = some v → members'.lookup k = some w → Same v w) :
    Same (.obj members) (.obj members')

theorem sortedItems_eq_map (items : List Json) : sortedItems items = items.map sorted := by
  induction items with
  | nil => rfl
  | cons v items ih => rw [sortedItems, ih, List.map_cons]

theorem sortedMembers_eq_map (members : List (String × Json)) :
    sortedMembers members = members.map fun m => (m.1, sorted m.2) := by
  induction members with
  | nil => rfl
  | cons m members ih => rw [sortedMembers, ih, List.map_cons]

theorem mem_sorted_iff {members : List (String × Json)} {m : String × Json} :
    m ∈ sortMembers (sortedMembers members) ↔ ∃ v, (m.1, v) ∈ members ∧ m.2 = sorted v := by
  rw [sortMembers, (List.mergeSort_perm _ _).mem_iff, sortedMembers_eq_map, List.mem_map]
  constructor
  · rintro ⟨⟨k, v⟩, hm, rfl⟩
    exact ⟨v, hm, rfl⟩
  · rintro ⟨v, hm, hv⟩
    exact ⟨(m.1, v), hm, Prod.ext rfl hv.symm⟩

theorem keys_sorted_nodup {members : List (String × Json)} (h : (members.map Prod.fst).Nodup) :
    ((sortMembers (sortedMembers members)).map Prod.fst).Nodup := by
  have hperm := (List.mergeSort_perm (sortedMembers members)
    fun a b => !decide (b.1 < a.1)).map Prod.fst
  rw [sortMembers, hperm.nodup_iff, sortedMembers_eq_map, List.map_map]
  exact h

theorem lookup_sorted {members : List (String × Json)} (h : (members.map Prod.fst).Nodup)
    (k : String) :
    (sortMembers (sortedMembers members)).lookup k = (members.lookup k).map sorted := by
  refine Option.ext fun w => ?_
  rw [Keyed.lookup_eq_some_iff_mem (keys_sorted_nodup h), mem_sorted_iff, Option.map_eq_some_iff]
  simp only [Keyed.lookup_eq_some_iff_mem h, eq_comm]

theorem get?_sorted {v : Json} (h : v.Plain) (key : String) :
    v.sorted.get? key = (v.get? key).map sorted := by
  cases h with
  | obj distinct _ => exact lookup_sorted distinct key
  | _ => rfl

theorem Plain.sorted {v : Json} (h : v.Plain) : v.sorted.Plain := by
  induction h with
  | null => exact .null
  | bool b => exact .bool b
  | int n => exact .int n
  | str s => exact .str s
  | @arr items _ ih =>
    rw [Json.sorted, sortedItems_eq_map]
    refine .arr fun w hw => ?_
    obtain ⟨v, hv, rfl⟩ := List.mem_map.1 hw
    exact ih v hv
  | @obj members distinct _ ih =>
    rw [Json.sorted]
    refine .obj (keys_sorted_nodup distinct) fun m hm => ?_
    obtain ⟨v, hv, heq⟩ := mem_sorted_iff.1 hm
    exact heq ▸ ih _ hv

theorem Plain.same_sorted {v : Json} (h : v.Plain) : Same v.sorted v := by
  induction h with
  | null => exact .refl _
  | bool b => exact .refl _
  | int n => exact .refl _
  | str s => exact .refl _
  | @arr items _ ih =>
    rw [Json.sorted, sortedItems_eq_map]
    refine .arr (List.length_map _) fun i v w hv hw => ?_
    rw [List.getElem?_map, hw] at hv
    obtain rfl := Option.some.inj hv
    exact ih w (List.mem_of_getElem? hw)
  | @obj members distinct _ ih =>
    rw [Json.sorted]
    refine .obj (fun k => ?_) fun k v w hv hw => ?_
    · rw [lookup_sorted distinct, Option.isSome_map]
    · rw [lookup_sorted distinct, hw] at hv
      obtain rfl := Option.some.inj hv
      exact ih (k, w) ((Keyed.lookup_eq_some_iff_mem distinct).1 hw)

theorem parse_render {v : Json} (h : v.Plain) : parse (render v ++ ['\n']) = .ok v.sorted :=
  parse_layout h.sorted

end ApiDecl.Json
