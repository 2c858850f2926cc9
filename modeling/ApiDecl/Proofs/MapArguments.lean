import ApiDecl.Proofs.Wrappers

/-!
# What a map is read from

A map is read from its two candidates, and these need not be its arguments: the operands of an
argument are candidates too, whether the argument itself is recognized or not.

* `resolve_eq_resolveMap`: a reference called `map` is read as a map; `resolveMap` does so with any
  node.
* `not_map_means_arguments`: the map `map<Foo[]>` has one argument and is read to a key and a value.
* `resolve_map_means_candidates`: key and value are those of the candidates. When two arguments are
  recognized, the candidates are these.
* `resolveMap_array_argument`: an array among the arguments brings its element along, so it can only
  be the key of a map whose value is its own element. With any other recognized argument reading
  fails.
* `not_array_argument_arity`: where a text cannot be decoded, this failure need not be about the
  number of candidates.
-/

namespace ApiDecl.Reading

open Syntax (Node Kind Sketch)
open Model (TypeExpr)
open Outcome (FailsOnly)

/-! ## Reading a node as a map -/

theorem resolveMap_eq (n : Node) : resolveMap n = recognized (mapOperands n) >>= mapOf n := by
  rw [resolveMap]
  split
  · next e he => rw [he, Outcome.error_bind]
  · next key kk value vk he => rw [he, Outcome.ok_bind, mapOf]
  · next found hne he =>
    rw [he, Outcome.ok_bind, mapOf]
    exact hne

theorem resolve_eq_resolveMap {n : Node} (hn : Wraps n .map) :
    resolve n = some <$> resolveMap n := by
  rw [resolve_of_classify (classify_reference hn.1), resolveAs_reference, hn.2, Outcome.ok_bind,
    if_pos rfl, resolveMap_eq]

theorem exists_of_resolveMap {n : Node} {t : TypeExpr} (h : resolveMap n = .ok t) :
    ∃ a b key value, usable n .map = [a, b] ∧ resolve a = .ok (some key) ∧
      resolve b = .ok (some value) ∧ t = .map key value := by
  unfold resolveMap at h
  split at h
  · cases h
  · next a ka b kb hfound =>
    have hab : usable n .map = [a, b] := (fst_recognized hfound).symm
    have ha := classify_of_mem_recognized hfound List.mem_cons_self
    have hb := classify_of_mem_recognized hfound (List.mem_cons_of_mem _ List.mem_cons_self)
    rw [seq_eq_bind_map] at h
    obtain ⟨f, hf, h⟩ := Outcome.bind_eq_ok_iff.mp h
    obtain ⟨key, hkey, rfl⟩ := Outcome.map_eq_ok_iff.mp hf
    obtain ⟨value, hvalue, rfl⟩ := Outcome.map_eq_ok_iff.mp h
    refine ⟨a, b, key, value, hab, ?_, ?_, rfl⟩
    · rw [resolve_of_classify ha, hkey]
      rfl
    · rw [resolve_of_classify hb, hvalue]
      rfl
  · cases h

theorem exists_of_resolve_array {n : Node} {t : TypeExpr} (hn : n.kind = .arrayType)
    (h : resolve n = .ok (some t)) :
    ∃ c u, usable n .array = [c] ∧ resolve c = .ok (some u) ∧ t = .array u := by
  cases hfound : recognized n.namedChildren with
  | error e =>
    rw [resolve_of_classify (classify_array hn), resolveAs_array, hfound] at h
    cases h
  | ok found =>
    by_cases hlength : found.length = 1
    · obtain ⟨⟨c, k⟩, rfl⟩ := List.length_eq_one_iff.mp hlength
      have hc : usable n .array = [c] := (fst_recognized hfound).symm
      rw [resolve_array hn hfound] at h
      obtain ⟨u, hu, ht⟩ := Outcome.map_eq_ok_iff.mp h
      obtain ⟨u, rfl, rfl⟩ := Option.map_eq_some_iff.mp ht
      exact ⟨c, u, hc, hu, rfl⟩
    · rw [resolve_array_of_length_ne hn hfound hlength] at h
      cases h

/-! ## Candidates -/

/-- The candidates that some arguments give: each argument that is recognized, followed by its
recognized operands. -/
def candidatesOf (arguments : List Node) : List Node :=
  (arguments.flatMap fun a => a :: operands a).filter isRecognized

theorem usable_map_eq (n : Node) : usable n .map = candidatesOf (operands n) := rfl

theorem candidatesOf_append (as bs : List Node) :
    candidatesOf (as ++ bs) = candidatesOf as ++ candidatesOf bs := by
  simp [candidatesOf]

theorem isRecognized_of_array {n : Node} (h : n.kind = .arrayType) : isRecognized n := by
  simp [isRecognized, classify_array h]

theorem candidatesOf_array_cons {a : Node} (ha : a.kind = .arrayType) (rest : List Node) :
    candidatesOf (a :: rest) = a :: usable a .array ++ candidatesOf rest := by
  have hoperands : operands a = inside a .array := by simp [operands, inside, ha, Kind.isReference]
  rw [candidatesOf, List.flatMap_cons, List.filter_append, hoperands,
    List.filter_cons_of_pos (isRecognized_of_array ha)]
  rfl

/-- Recognized arguments are candidates, in the same order. -/
theorem sublist_candidatesOf (arguments : List Node) :
    (arguments.filter isRecognized).Sublist (candidatesOf arguments) := by
  apply List.Sublist.filter
  induction arguments with
  | nil => exact List.Sublist.slnil
  | cons a rest ih =>
    rw [List.flatMap_cons, List.cons_append]
    exact (ih.trans (List.sublist_append_right _ _)).cons_cons a

/-! ## Maps and their arguments -/

/-- The arguments of a generic that are no comments. -/
def plainArguments (n : Node) : List Node := (operands n).filter (·.kind ≠ .comment)

theorem isRecognized_comment {n : Node} (h : n.kind = .comment) : isRecognized n = false := by
  simp [isRecognized, classify, h, Kind.isReference]

/-- The tree of `map<Foo[]>`. -/
def loneArrayTree : Node :=
  (Sketch.place (Text.Utf8.encode "map<Foo[]>") 0 <|
    .inner .genericType 0 10
      [.nameLeaf .typeIdentifier 0 3,
        .inner .typeArguments 3 10
          [.token "<" 3 4,
            .inner .arrayType 4 9
              [.leaf .typeIdentifier 4 7, .token "[" 7 8, .token "]" 8 9],
            .token ">" 9 10]]).1

theorem resolve_loneArrayTree :
    resolve loneArrayTree = .ok (some (.map (.array (.named "Foo")) (.named "Foo"))) := by
  decide +kernel

/-- It is not so that a map that is read has two arguments, from which its key and its value are
read. -/
theorem not_map_means_arguments :
    ¬ ∀ (n : Node) (key value : TypeExpr), n.kind = .genericType →
      referenceName n = .ok mapName → resolve n = .ok (some (.map key value)) →
      ∃ a b, plainArguments n = [a, b] ∧ resolve a = .ok (some key) ∧
        resolve b = .ok (some value) := by
  intro h
  obtain ⟨a, b, hab, -⟩ := h loneArrayTree _ _ (by decide +kernel) (by decide +kernel)
    resolve_loneArrayTree
  have hone : (plainArguments loneArrayTree).length = 1 := by decide +kernel
  rw [hab] at hone
  cases hone

/-- **A map means its two candidates.** What a generic called `map` is read to is a map, whose key
and value are read from its two candidates. When two of its arguments or more are recognized, the
candidates are the recognized arguments; so when all its arguments apart from comments are
recognized and there is more than one, it has two and means these. -/
theorem resolve_map_means_candidates {n : Node} {t : TypeExpr} (hn : n.kind = .genericType)
    (hname : referenceName n = .ok mapName) (h : resolve n = .ok (some t)) :
    ∃ a b key value, usable n .map = [a, b] ∧ resolve a = .ok (some key) ∧
      resolve b = .ok (some value) ∧ t = .map key value ∧
      (2 ≤ ((operands n).filter isRecognized).length →
        (operands n).filter isRecognized = [a, b]) ∧
      ((∀ c ∈ plainArguments n, isRecognized c) → 2 ≤ (plainArguments n).length →
        plainArguments n = [a, b]) := by
  have hwraps : Wraps n .map := ⟨by rw [hn]; rfl, hname⟩
  rw [resolve_eq_resolveMap hwraps] at h
  obtain ⟨u, hu, htu⟩ := Outcome.map_eq_ok_iff.mp h
  obtain rfl := Option.some.inj htu
  obtain ⟨a, b, key, value, hab, ha, hb, rfl⟩ := exists_of_resolveMap hu
  have htwo : 2 ≤ ((operands n).filter isRecognized).length →
      (operands n).filter isRecognized = [a, b] := by
    intro hlength
    have hsub := sublist_candidatesOf (operands n)
    rw [← usable_map_eq, hab] at hsub
    exact hsub.eq_of_length_le hlength
  refine ⟨a, b, key, value, hab, ha, hb, rfl, htwo, ?_⟩
  intro hall hlength
  have hsame : plainArguments n = (operands n).filter isRecognized := by
    apply List.filter_congr
    intro c hc
    by_cases hcomment : c.kind = .comment
    · simp [hcomment, isRecognized_comment]
    · have hplain : c ∈ plainArguments n := List.mem_filter.mpr ⟨hc, by simpa using hcomment⟩
      simp [hcomment, hall c hplain]
  rw [hsame] at hlength ⊢
  exact htwo hlength

/-- The tree of `map<string, /* v */ Foo>`. -/
def commentedTree : Node :=
  (Sketch.place (Text.Utf8.encode "map<string, /* v */ Foo>") 0 <|
    .inner .genericType 0 24
      [.nameLeaf .typeIdentifier 0 3,
        .inner .typeArguments 3 24
          [.token "<" 3 4, .leaf .predefinedType 4 10, .token "," 10 11, .leaf .comment 12 19,
            .leaf .typeIdentifier 20 23, .token ">" 23 24]]).1

/-- A map with a comment among its arguments means the other two, and a map with one argument means
this and its element. -/
theorem resolve_map_means_candidates_pair :
    (∃ a b, plainArguments commentedTree = [a, b] ∧
      resolve a = .ok (some (.named "string")) ∧ resolve b = .ok (some (.named "Foo"))) ∧
    ∃ a b, usable loneArrayTree .map = [a, b] ∧
      resolve a = .ok (some (.array (.named "Foo"))) ∧ resolve b = .ok (some (.named "Foo")) := by
  have hread : resolve commentedTree = .ok (some (.map (.named "string") (.named "Foo"))) := by
    decide +kernel
  have hall : ∀ c ∈ plainArguments commentedTree, isRecognized c := by decide +kernel
  obtain ⟨a, b, _, _, -, ha, hb, ht, -, hmeans⟩ :=
    resolve_map_means_candidates (by decide +kernel) (by decide +kernel) hread
  obtain ⟨a', b', _, _, hab', ha', hb', ht', -, -⟩ :=
    resolve_map_means_candidates (by decide +kernel) (by decide +kernel) resolve_loneArrayTree
  cases ht
  cases ht'
  exact ⟨⟨a, b, hmeans hall (by decide +kernel), ha, hb⟩, a', b', hab', ha', hb'⟩

/-! ## Arrays among the arguments -/

section ArrayArgument

variable {n a : Node} {before after : List Node} (hsplit : operands n = before ++ a :: after)
  (ha : a.kind = .arrayType)

include hsplit ha

/-- With an array among its arguments a map has the candidates of the other arguments, the array
and the usable children of the array. -/
theorem usable_map_of_array_argument :
    usable n .map = candidatesOf before ++ a :: usable a .array ++ candidatesOf after := by
  rw [usable_map_eq, hsplit, candidatesOf_append, candidatesOf_array_cons ha,
    List.append_assoc]

theorem key_of_array_argument {key value : TypeExpr}
    (h : resolveMap n = .ok (.map key value)) :
    candidatesOf (before ++ after) = [] ∧ (∃ c, usable a .array = [c]) ∧ key = .array value := by
  obtain ⟨x, y, key', value', hxy, hx, hy, ht⟩ := exists_of_resolveMap h
  obtain ⟨rfl, rfl⟩ : key = key' ∧ value = value' := by simpa using ht
  rw [usable_map_of_array_argument hsplit ha] at hxy
  -- The array is one of the two candidates, so it has been read and has an element.
  have hmem : a ∈ [x, y] := by
    rw [← hxy]
    simp
  obtain ⟨u, hu⟩ : ∃ u, resolve a = .ok (some u) := by
    rcases List.mem_pair.mp hmem with rfl | rfl
    · exact ⟨key, hx⟩
    · exact ⟨value, hy⟩
  obtain ⟨c, v, hc, hv, rfl⟩ := exists_of_resolve_array ha hu
  rw [hc] at hxy
  -- The array and its element are two already.
  have hlength := congrArg List.length hxy
  simp only [List.length_append, List.length_cons, List.length_nil] at hlength
  have hbefore : candidatesOf before = [] := List.eq_nil_of_length_eq_zero (by omega)
  have hafter : candidatesOf after = [] := List.eq_nil_of_length_eq_zero (by omega)
  rw [hbefore, hafter] at hxy
  obtain ⟨rfl, rfl⟩ : a = x ∧ c = y := by simpa using hxy
  obtain rfl : key = .array v := by simpa [hu] using hx.symm
  obtain rfl : value = v := by simpa [hv] using hy.symm
  exact ⟨by rw [candidatesOf_append, hbefore, hafter]; rfl, ⟨c, hc⟩, rfl⟩

/-- **An array among the arguments of a map is never its value.** When a node with an array among
its arguments is read as a map, no other argument contributes a candidate, the array has one element,
and the key is an array of the value. So reading a map fails that has another recognized argument,
before or after the array: with the number of candidates of a wrapper, or with a text that cannot be
decoded. -/
theorem resolveMap_array_argument :
    (∀ key value, resolveMap n = .ok (.map key value) →
      candidatesOf (before ++ after) = [] ∧ (∃ c, usable a .array = [c]) ∧
        key = .array value) ∧
    (Wraps n .map → ∀ b ∈ before ++ after, isRecognized b →
      ∃ e, resolve n = .error e ∧
        ((∃ wrapper expected actual site, e = .arity wrapper expected actual site) ∨
          ∃ m ∈ n.nodes, textOf m = .error e)) := by
  refine ⟨fun key value h => key_of_array_argument hsplit ha h, ?_⟩
  intro hwraps b hb hrecognized
  have hnever : ∀ t, resolveMap n ≠ .ok t := by
    intro t ht
    obtain ⟨_, _, key, value, -, -, -, rfl⟩ := exists_of_resolveMap ht
    obtain ⟨hnone, -, -⟩ := key_of_array_argument hsplit ha ht
    have hmem : b ∈ candidatesOf (before ++ after) :=
      (sublist_candidatesOf _).subset (List.mem_filter.mpr ⟨hb, hrecognized⟩)
    rw [hnone] at hmem
    cases hmem
  cases he : resolve n with
  | ok t =>
    rw [resolve_eq_resolveMap hwraps] at he
    obtain ⟨u, hu, -⟩ := Outcome.map_eq_ok_iff.mp he
    exact absurd hu (hnever u)
  | error e =>
    refine ⟨e, rfl, ?_⟩
    have hkinds : FailsOnly (fun e =>
        (∃ wrapper expected actual site, e = .arity wrapper expected actual site) ∨
          ∃ m ∈ n.nodes, textOf m = .error e) (resolve n) := by
      apply failsOnly_resolve
      · intro wrapper expected actual site
        exact Or.inl ⟨wrapper, expected, actual, site, rfl⟩
      · intro m hm e he
        exact Or.inr ⟨m, hm, he⟩
    exact hkinds e he

end ArrayArgument

/-- The tree of `map<string, Foo[]>`. -/
def arrayValueTree : Node :=
  (Sketch.place (Text.Utf8.encode "map<string, Foo[]>") 0 <|
    .inner .genericType 0 18
      [.nameLeaf .typeIdentifier 0 3,
        .inner .typeArguments 3 18
          [.token "<" 3 4, .leaf .predefinedType 4 10, .token "," 10 11,
            .inner .arrayType 12 17
              [.leaf .typeIdentifier 12 15, .token "[" 15 16, .token "]" 16 17],
            .token ">" 17 18]]).1

/-- An array alone is the key to its own element, and an array behind another argument makes reading
fail. -/
theorem resolveMap_array_argument_lists :
    (∃ a, operands loneArrayTree = [a] ∧ a.kind = .arrayType ∧
      resolveMap loneArrayTree = .ok (.map (.array (.named "Foo")) (.named "Foo")) ∧
      ∃ c, usable a .array = [c]) ∧
    ∃ b a, operands arrayValueTree = [b, a] ∧ isRecognized b ∧ a.kind = .arrayType ∧
      ∃ e, resolve arrayValueTree = .error e := by
  obtain ⟨a, ha⟩ := List.length_eq_one_iff.mp
    (show (operands loneArrayTree).length = 1 by decide +kernel)
  obtain ⟨b, a', hab⟩ := List.length_eq_two.mp
    (show (operands arrayValueTree).length = 2 by decide +kernel)
  have hkind : ∀ a ∈ operands loneArrayTree, a.kind = .arrayType := by decide +kernel
  have hkind' : ∀ a ∈ (operands arrayValueTree).getLast?, a.kind = .arrayType := by decide +kernel
  have hrecognized : ∀ b ∈ operands arrayValueTree, isRecognized b := by decide +kernel
  have hread : resolveMap loneArrayTree = .ok (.map (.array (.named "Foo")) (.named "Foo")) := by
    decide +kernel
  have hka : a.kind = .arrayType := hkind a (by simp [ha])
  have hka' : a'.kind = .arrayType := hkind' a' (by simp [hab])
  have hb : isRecognized b := hrecognized b (by simp [hab])
  obtain ⟨hlone, -⟩ :=
    resolveMap_array_argument (show operands loneArrayTree = [] ++ a :: [] from ha) hka
  obtain ⟨-, hfails⟩ :=
    resolveMap_array_argument (show operands arrayValueTree = [b] ++ a' :: [] from hab) hka'
  obtain ⟨-, helement, -⟩ := hlone _ _ hread
  obtain ⟨e, he, -⟩ := hfails (by decide +kernel) b (by simp) hb
  exact ⟨⟨a, ha, hka, hread, helement⟩, b, a', hab, hb, hka', e, he⟩

/-- The tree of `map<Foo<'?'>, number[]>`, with the byte `0xff` in place of the question mark. -/
def illEncodedTree : Node :=
  (Sketch.place (Text.Utf8.encode "map<Foo<'" ++ 0xff :: Text.Utf8.encode "'>, number[]>") 0 <|
    .inner .genericType 0 23
      [.nameLeaf .typeIdentifier 0 3,
        .inner .typeArguments 3 23
          [.token "<" 3 4,
            .inner .genericType 4 12
              [.nameLeaf .typeIdentifier 4 7,
                .inner .typeArguments 7 12
                  [.token "<" 7 8,
                    .inner (.other "literal_type") 8 11
                      [.inner (.other "string") 8 11
                        [.token "'" 8 9, .leaf (.other "string_fragment") 9 10, .token "'" 10 11]],
                    .token ">" 11 12]],
            .token "," 12 13,
            .inner .arrayType 14 22
              [.leaf .predefinedType 14 20, .token "[" 20 21, .token "]" 21 22],
            .token ">" 22 23]]).1

/-- It is not so that every map with a recognized argument beside an array fails with the number of
candidates of a wrapper. -/
theorem not_array_argument_arity :
    ¬ ∀ (n a b : Node) (before after : List Node), Wraps n .map →
      operands n = before ++ a :: after → a.kind = .arrayType → b ∈ before ++ after →
      isRecognized b → ∃ wrapper expected actual site,
        resolve n = .error (.arity wrapper expected actual site) := by
  intro h
  -- The key is read before the array, and its text, not its name, holds the byte.
  have hread : resolve illEncodedTree = .error (.undecodable ⟨[0xff], 5, .badStart⟩) := by
    decide +kernel
  obtain ⟨b, a, hab⟩ := List.length_eq_two.mp
    (show (operands illEncodedTree).length = 2 by decide +kernel)
  have hkind : ∀ a ∈ (operands illEncodedTree).getLast?, a.kind = .arrayType := by decide +kernel
  have hrecognized : ∀ b ∈ operands illEncodedTree, isRecognized b := by decide +kernel
  obtain ⟨_, _, _, _, he⟩ := h illEncodedTree a b [b] [] (by decide +kernel) hab
    (hkind a (by simp [hab])) (by simp) (hrecognized b (by simp [hab]))
  rw [hread] at he
  cases he

end ApiDecl.Reading
