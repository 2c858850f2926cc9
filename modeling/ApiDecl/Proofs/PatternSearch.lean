import ApiDecl.Pattern.Match
import ApiDecl.Pattern.Parse
import Mathlib.Data.List.Basic

/-!
# What a search finds

Patterns can be compared, so that reading one can be checked by evaluation. What a search finds is
stated without the matcher: by the characters before the place that is found, and those after it
(`search_iff`). At one place the items are taken apart one by one; each lemma says exactly when an
item and what comes after it match.
-/

namespace ApiDecl.Pattern

/-! ## Equality of items -/

mutual

/-- Are two items the same? -/
def Item.same : Item → Item → Bool
  | .char code, .char code' => code == code'
  | .any, .any => true
  | .set negated members, .set negated' members' => (negated, members) = (negated', members')
  | .anchor a, .anchor a' => a = a'
  | .group index add del body, .group index' add' del' body' =>
    (index, add, del) = (index', add', del') && sameSeq body body'
  | .atomic body, .atomic body' => sameSeq body body'
  | .look behind negated body, .look behind' negated' body' =>
    (behind, negated) = (behind', negated') && sameSeq body body'
  | .choice alternatives, .choice alternatives' => sameChoice alternatives alternatives'
  | .loop greed least most body, .loop greed' least' most' body' =>
    (greed, least, most) = (greed', least', most') && sameSeq body body'
  | .backref group width, .backref group' width' => (group, width) = (group', width')
  | .conditional group yes no, .conditional group' yes' no' =>
    group = group' && sameSeq yes yes' && sameSeq no no'
  | _, _ => false

/-- Are two sequences the same? -/
def sameSeq : List Item → List Item → Bool
  | [], [] => true
  | item :: rest, item' :: rest' => item.same item' && sameSeq rest rest'
  | _, _ => false

/-- Are two choices the same? -/
def sameChoice : List (List Item) → List (List Item) → Bool
  | [], [] => true
  | items :: rest, items' :: rest' => sameSeq items items' && sameChoice rest rest'
  | _, _ => false

end

mutual

theorem Item.same_iff : ∀ item item' : Item, item.same item' = true ↔ item = item'
  | .char _, item' | .any, item' | .set _ _, item' | .anchor _, item' | .backref _ _, item' => by
    cases item' <;> simp [Item.same]
  | .group _ _ _ body, item' => by
    cases item' with
    | group _ _ _ body' => simp [Item.same, sameSeq_iff body body', and_assoc]
    | _ => simp [Item.same]
  | .atomic body, item' => by
    cases item' with
    | atomic body' => simp [Item.same, sameSeq_iff body body']
    | _ => simp [Item.same]
  | .look _ _ body, item' => by
    cases item' with
    | look _ _ body' => simp [Item.same, sameSeq_iff body body', and_assoc]
    | _ => simp [Item.same]
  | .choice alternatives, item' => by
    cases item' with
    | choice alternatives' => simp [Item.same, sameChoice_iff alternatives alternatives']
    | _ => simp [Item.same]
  | .loop _ _ _ body, item' => by
    cases item' with
    | loop _ _ _ body' => simp [Item.same, sameSeq_iff body body', and_assoc]
    | _ => simp [Item.same]
  | .conditional _ yes no, item' => by
    cases item' with
    | conditional _ yes' no' =>
      simp [Item.same, sameSeq_iff yes yes', sameSeq_iff no no', and_assoc]
    | _ => simp [Item.same]

theorem sameSeq_iff : ∀ items items' : List Item, sameSeq items items' = true ↔ items = items'
  | [], items' => by cases items' <;> simp [sameSeq]
  | item :: rest, items' => by
    cases items' with
    | nil => simp [sameSeq]
    | cons item' rest' => simp [sameSeq, Item.same_iff item item', sameSeq_iff rest rest']

theorem sameChoice_iff :
    ∀ choice choice' : List (List Item), sameChoice choice choice' = true ↔ choice = choice'
  | [], choice' => by cases choice' <;> simp [sameChoice]
  | items :: rest, choice' => by
    cases choice' with
    | nil => simp [sameChoice]
    | cons items' rest' =>
      simp [sameChoice, sameSeq_iff items items', sameChoice_iff rest rest']

end

instance : DecidableEq Item := fun item item' => decidable_of_iff _ (Item.same_iff item item')

deriving instance DecidableEq for ApiDecl.Pattern

/-! ## Matching at a place -/

/-- The cursor after some characters that follow. -/
def Cursor.past (c : Cursor) (word rest : List Char) : Cursor :=
  { c with position := c.position + word.length, before := word.reverse ++ c.before, rest }

theorem Cursor.past_past (c : Cursor) (word word' rest rest' : List Char) :
    (c.past word rest).past word' rest' = c.past (word ++ word') rest' := by
  simp [past, Nat.add_assoc]

/-- The items for the characters of a text. -/
def literal (word : List Char) : List Item := word.map fun x => .char x.toNat

section Items

variable {flags : List Flag} {c : Cursor} {k : Cursor → Option Cursor}

theorem isSome_takeOne_iff {p : Char → Bool} :
    (takeOne p c k).isSome ↔
      ∃ x rest, c.rest = x :: rest ∧ p x = true ∧ (k (c.advance x rest)).isSome := by
  unfold takeOne
  cases hrest : c.rest with
  | nil => simp
  | cons x rest =>
    by_cases hx : p x = true
    · simp [hx]
    · simp [hx]

theorem isSome_run_char_iff (hcase : Flag.ignoreCase ∉ flags) {x : Char} :
    ((Item.char x.toNat).run flags c k).isSome ↔
      ∃ rest, c.rest = x :: rest ∧ (k (c.past [x] rest)).isSome := by
  have hsame : ∀ y : Char, codeMatches flags x.toNat y = true ↔ y = x := by
    intro y
    simp only [codeMatches, List.contains_iff_mem, hcase, if_false, beq_iff_eq, Char.toNat_inj]
    exact eq_comm
  rw [Item.run, isSome_takeOne_iff]
  constructor
  · rintro ⟨y, rest, hrest, hy, hk⟩
    obtain rfl := (hsame y).1 hy
    exact ⟨rest, hrest, hk⟩
  · rintro ⟨rest, hrest, hk⟩
    exact ⟨x, rest, hrest, (hsame x).2 rfl, hk⟩

theorem isSome_seqRun_literal_iff (hcase : Flag.ignoreCase ∉ flags) {word : List Char}
    {items : List Item} :
    (seqRun flags (literal word ++ items) c k).isSome ↔
      ∃ rest, c.rest = word ++ rest ∧ (seqRun flags items (c.past word rest) k).isSome := by
  induction word generalizing c with
  | nil =>
    have hstay : c.past [] c.rest = c := rfl
    simp [literal, hstay]
  | cons x word ih =>
    show ((Item.char x.toNat).run flags c
      fun d => seqRun flags (literal word ++ items) d k).isSome ↔ _
    rw [isSome_run_char_iff hcase]
    constructor
    · rintro ⟨rest, hrest, hword⟩
      obtain ⟨rest', hrest', hitems⟩ := ih.1 hword
      obtain rfl : rest = word ++ rest' := hrest'
      rw [Cursor.past_past] at hitems
      exact ⟨rest', hrest, hitems⟩
    · rintro ⟨rest', hrest, hitems⟩
      refine ⟨word ++ rest', hrest, ih.2 ⟨rest', rfl, ?_⟩⟩
      rw [Cursor.past_past]
      exact hitems

theorem isSome_literal_iff (hcase : Flag.ignoreCase ∉ flags) {word : List Char} :
    (seqRun flags (literal word) c k).isSome ↔
      ∃ rest, c.rest = word ++ rest ∧ (k (c.past word rest)).isSome := by
  have h := @isSome_seqRun_literal_iff flags c k hcase word []
  rwa [List.append_nil] at h

theorem isSome_run_anchor_iff {a : Anchor} :
    ((Item.anchor a).run flags c k).isSome ↔ a.holds flags c = true ∧ (k c).isSome := by
  rw [Item.run]
  by_cases ha : a.holds flags c = true
  · simp [ha]
  · simp [ha]

theorem holds_start_iff : Anchor.start.holds [] c = true ↔ c.before = [] := by
  simp [Anchor.holds]

theorem holds_stop_iff : Anchor.stop.holds [] c = true ↔ c.rest = [] ∨ c.rest = ['\n'] := by
  simp [Anchor.holds]

theorem isSome_choiceRun_iff {alternatives : List (List Item)} :
    (choiceRun flags alternatives c k).isSome ↔
      ∃ items ∈ alternatives, (seqRun flags items c k).isSome := by
  induction alternatives with
  | nil => simp [choiceRun]
  | cons items rest ih =>
    rw [choiceRun]
    cases hfirst : seqRun flags items c k with
    | none => simp [ih, hfirst]
    | some d => simp [hfirst]

end Items

/-! ## Searching -/

theorem searchFrom_iff {p : Pattern} {before rest : List Char} :
    p.searchFrom before.length before.reverse rest = true ↔
      ∃ front back, rest = front ++ back ∧
        p.matchesAt (before ++ front).length (before ++ front).reverse back = true := by
  induction rest generalizing before with
  | nil =>
    rw [searchFrom]
    constructor
    · intro h
      exact ⟨[], [], rfl, by simpa using h⟩
    · rintro ⟨front, back, hsplit, h⟩
      obtain ⟨rfl, rfl⟩ := List.nil_eq_append_iff.1 hsplit
      simpa using h
  | cons x rest ih =>
    have hnext := @ih (before ++ [x])
    rw [List.length_append, List.reverse_append] at hnext
    rw [searchFrom, Bool.or_eq_true]
    constructor
    · rintro (hhere | hlater)
      · exact ⟨[], x :: rest, rfl, by simpa using hhere⟩
      · obtain ⟨front, back, rfl, h⟩ := hnext.1 hlater
        exact ⟨x :: front, back, rfl, by simpa using h⟩
    · rintro ⟨front, back, hsplit, h⟩
      cases front with
      | nil =>
        obtain rfl : x :: rest = back := hsplit
        exact .inl (by simpa using h)
      | cons y front =>
        obtain ⟨rfl, rfl⟩ := List.cons.inj hsplit
        exact .inr (hnext.2 ⟨front, back, rfl, by simpa using h⟩)

theorem search_iff {p : Pattern} {text : String} :
    p.search text = true ↔
      ∃ front back, text.toList = front ++ back ∧
        p.matchesAt front.length front.reverse back = true := by
  rw [search]
  exact @searchFrom_iff p [] text.toList

theorem search_choice_iff {flags : List Flag} {alternatives : List (List Item)} {text : String} :
    search ⟨flags, [.choice alternatives]⟩ text = true ↔
      ∃ items ∈ alternatives, search ⟨flags, items⟩ text = true := by
  simp only [search_iff, matchesAt, seqRun, Item.run, isSome_choiceRun_iff]
  constructor
  · rintro ⟨front, back, hsplit, items, hitems, h⟩
    exact ⟨items, hitems, front, back, hsplit, h⟩
  · rintro ⟨items, hitems, front, back, hsplit, h⟩
    exact ⟨front, back, hsplit, items, hitems, h⟩

/-- A text ends in a word, or does so before a last line break. -/
def EndsIn (word text : List Char) : Prop := word <:+ text ∨ word ++ ['\n'] <:+ text

theorem search_ending_iff {word : List Char} {text : String} :
    search ⟨[], literal word ++ [.anchor .stop]⟩ text = true ↔ EndsIn word text.toList := by
  have hplace : ∀ front back : List Char,
      matchesAt ⟨[], literal word ++ [.anchor .stop]⟩ front.length front.reverse back = true ↔
        back = word ∨ back = word ++ ['\n'] := by
    intro front back
    rw [matchesAt, isSome_seqRun_literal_iff List.not_mem_nil]
    simp only [seqRun, isSome_run_anchor_iff, holds_stop_iff, Option.isSome_some, and_true]
    constructor
    · rintro ⟨rest, hback, rfl | rfl⟩
      · exact .inl (by simpa using hback)
      · exact .inr hback
    · rintro (rfl | rfl)
      · exact ⟨[], (List.append_nil _).symm, .inl rfl⟩
      · exact ⟨['\n'], rfl, .inr rfl⟩
  rw [search_iff]
  simp only [hplace]
  constructor
  · rintro ⟨front, back, hsplit, rfl | rfl⟩
    · exact .inl ⟨front, hsplit.symm⟩
    · exact .inr ⟨front, hsplit.symm⟩
  · rintro (⟨front, hsplit⟩ | ⟨front, hsplit⟩)
    · exact ⟨front, _, hsplit.symm, .inl rfl⟩
    · exact ⟨front, _, hsplit.symm, .inr rfl⟩

/-- The start of a text or a slash. -/
def componentStart : Item := .group (some 1) [] [] [.choice [[.anchor .start], literal ['/']]]

theorem isSome_run_componentStart_iff {c : Cursor} {k : Cursor → Option Cursor} :
    (componentStart.run [] c k).isSome ↔
      c.before = [] ∧ (k (c.capture 1 c.position)).isSome ∨
        ∃ rest, c.rest = '/' :: rest ∧ (k ((c.past ['/'] rest).capture 1 c.position)).isSome := by
  -- The group captures what the choice has taken; the choice is all that it tries.
  show (choiceRun [] [[.anchor .start], literal ['/']] c
    fun d => k (d.capture 1 c.position)).isSome ↔ _
  rw [isSome_choiceRun_iff, List.exists_mem_cons_iff, List.exists_mem_cons_iff]
  have hstart : (seqRun [] [.anchor .start] c fun d => k (d.capture 1 c.position)).isSome ↔
      c.before = [] ∧ (k (c.capture 1 c.position)).isSome := by
    show ((Item.anchor .start).run [] c fun d => k (d.capture 1 c.position)).isSome ↔ _
    rw [isSome_run_anchor_iff, holds_start_iff]
  rw [hstart, isSome_literal_iff List.not_mem_nil]
  simp

theorem search_component_iff {word : List Char} {text : String} :
    search ⟨[], componentStart :: literal word⟩ text = true ↔
      word <+: text.toList ∨ '/' :: word <:+: text.toList := by
  have hplace : ∀ front back : List Char,
      matchesAt ⟨[], componentStart :: literal word⟩ front.length front.reverse back = true ↔
        front = [] ∧ word <+: back ∨ '/' :: word <+: back := by
    intro front back
    show (componentStart.run [] ⟨front.length, front.reverse, back, []⟩
      fun d => seqRun [] (literal word) d some).isSome ↔ _
    rw [isSome_run_componentStart_iff]
    simp only [isSome_literal_iff List.not_mem_nil, Option.isSome_some, and_true,
      List.reverse_eq_nil_iff]
    constructor
    · rintro (⟨hfront, rest, hrest⟩ | ⟨_, rfl, rest, hrest⟩)
      · exact .inl ⟨hfront, rest, hrest.symm⟩
      · exact .inr ⟨rest, congrArg ('/' :: ·) hrest.symm⟩
    · rintro (⟨hfront, rest, hrest⟩ | ⟨rest, hrest⟩)
      · exact .inl ⟨hfront, rest, hrest.symm⟩
      · exact .inr ⟨word ++ rest, hrest.symm, rest, rfl⟩
  rw [search_iff]
  simp only [hplace]
  constructor
  · rintro ⟨front, back, hsplit, ⟨rfl, hword⟩ | ⟨rest, hrest⟩⟩
    · rw [hsplit]
      exact .inl hword
    · exact .inr ⟨front, rest, by rw [hsplit, ← hrest, List.append_assoc]⟩
  · rintro (hword | ⟨front, rest, hsplit⟩)
    · exact ⟨[], text.toList, rfl, .inl ⟨rfl, hword⟩⟩
    · exact ⟨front, '/' :: word ++ rest, by rw [← hsplit, List.append_assoc],
        .inr (List.prefix_append _ _)⟩

end ApiDecl.Pattern
