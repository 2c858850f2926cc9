import ApiDecl.Proofs.Runs
import Mathlib.Data.String.Basic

/-!
# The canonical text of a value

Two values are the same up to the order of members exactly if they are written alike. In one
direction, sorting forgets the order: the members of an object with distinct keys have one sorted
list only (`Same.sorted_eq`). In the other, the text reads back as the sorted value, which is the
same as the one that was written, and being the same is an equivalence (`Same.symm`, `Same.trans`).
-/

namespace ApiDecl.Json

/-! ## Equality up to the order of members -/

theorem Same.symm {v w : Json} (h : Same v w) : Same w v := by
  induction h with
  | refl v => exact .refl v
  | arr length _ ih =>
    refine .arr length.symm fun i v w hv hw => ?_
    exact ih i w v hw hv
  | obj keys _ ih =>
    refine .obj (fun k => (keys k).symm) fun k v w hv hw => ?_
    exact ih k w v hw hv

theorem Same.trans {u v w : Json} (h : Same u v) (h' : Same v w) : Same u w := by
  induction h generalizing w with
  | refl v => exact h'
  | @arr items middle length item ih =>
    cases h' with
    | refl => exact .arr length item
    | @arr _ items' length' item' =>
      refine .arr (length.trans length') fun i a c ha hc => ?_
      -- The item in between is there, since the lists are of one length.
      have hi : i < middle.length := by
        have hlt := (List.getElem?_eq_some_iff.1 ha).1
        omega
      have hb : middle[i]? = some middle[i] := List.getElem?_eq_getElem hi
      exact ih i a _ ha hb (item' i _ c hb hc)
  | @obj members middle keys member ih =>
    cases h' with
    | refl => exact .obj keys member
    | @obj _ members' keys' member' =>
      refine .obj (fun k => (keys k).trans (keys' k)) fun k a c ha hc => ?_
      have hsome : (middle.lookup k).isSome := by
        rw [← keys k, ha]
        rfl
      obtain ⟨b, hb⟩ := Option.isSome_iff_exists.1 hsome
      exact ih k a b ha hb (member' k b c hb hc)

theorem Same.of_mem {members members' : List (String × Json)} (h : (members.map Prod.fst).Nodup)
    (h' : (members'.map Prod.fst).Nodup)
    (keys : ∀ k, k ∈ members.map Prod.fst ↔ k ∈ members'.map Prod.fst)
    (member : ∀ k v w, (k, v) ∈ members → (k, w) ∈ members' → Same v w) :
    Same (.obj members) (.obj members') := by
  refine .obj (fun k => ?_) fun k v w hv hw => ?_
  · rw [Bool.eq_iff_iff, List.lookup_isSome_iff, List.lookup_isSome_iff]
    simpa using keys k
  · exact member k v w ((Keyed.lookup_eq_some_iff_mem h).1 hv)
      ((Keyed.lookup_eq_some_iff_mem h').1 hw)

/-! ## One sorted list of members -/

theorem pairwise_sortMembers {members : List (String × Json)}
    (h : (members.map Prod.fst).Nodup) :
    (sortMembers (sortedMembers members)).Pairwise fun m n => m.1 < n.1 := by
  have hle : (sortMembers (sortedMembers members)).Pairwise
      fun m n => (!decide (n.1 < m.1)) = true := by
    apply List.pairwise_mergeSort
    · intro a b c hab hbc
      simp only [Bool.not_eq_true', decide_eq_false_iff_not, not_lt] at hab hbc ⊢
      exact le_trans hab hbc
    · intro a b
      simp only [Bool.or_eq_true, Bool.not_eq_true', decide_eq_false_iff_not, not_lt]
      exact le_total a.1 b.1
  have hne := List.pairwise_map.1 (keys_sorted_nodup h)
  refine (hle.and hne).imp fun hmn => ?_
  obtain ⟨hnot, hdiffer⟩ := hmn
  simp only [Bool.not_eq_true', decide_eq_false_iff_not, not_lt] at hnot
  exact lt_of_le_of_ne hnot hdiffer

theorem sortMembers_eq_of_lookup {members members' : List (String × Json)}
    (h : (members.map Prod.fst).Nodup) (h' : (members'.map Prod.fst).Nodup)
    (hlookup : ∀ k, (members.lookup k).map sorted = (members'.lookup k).map sorted) :
    sortMembers (sortedMembers members) = sortMembers (sortedMembers members') := by
  have hmem : ∀ m, m ∈ sortMembers (sortedMembers members) ↔
      m ∈ sortMembers (sortedMembers members') := by
    intro m
    rw [← Keyed.lookup_eq_some_iff_mem (keys_sorted_nodup h), lookup_sorted h, hlookup,
      ← lookup_sorted h', Keyed.lookup_eq_some_iff_mem (keys_sorted_nodup h')]
  have hperm := (List.perm_ext_iff_of_nodup (keys_sorted_nodup h).of_map
    (keys_sorted_nodup h').of_map).2 hmem
  refine List.Perm.eq_of_pairwise ?_ (pairwise_sortMembers h) (pairwise_sortMembers h') hperm
  intro a b _ _ hab hba
  exact absurd hba (lt_asymm hab)

theorem Same.sorted_eq {v w : Json} (h : Same v w) (hv : v.Plain) (hw : w.Plain) :
    v.sorted = w.sorted := by
  induction h with
  | refl v => rfl
  | @arr items items' length _ ih =>
    cases hv with
    | arr hitems =>
      cases hw with
      | arr hitems' =>
        rw [Json.sorted, Json.sorted, sortedItems_eq_map, sortedItems_eq_map]
        refine congrArg Json.arr (List.ext_getElem (by simpa using length) fun i hi hi' => ?_)
        rw [List.length_map] at hi hi'
        rw [List.getElem_map, List.getElem_map]
        exact ih i _ _ (List.getElem?_eq_getElem hi) (List.getElem?_eq_getElem hi')
          (hitems _ (List.getElem_mem hi)) (hitems' _ (List.getElem_mem hi'))
  | @obj members members' keys _ ih =>
    cases hv with
    | obj distinct hmembers =>
      cases hw with
      | obj distinct' hmembers' =>
        rw [Json.sorted, Json.sorted]
        refine congrArg Json.obj (sortMembers_eq_of_lookup distinct distinct' fun k => ?_)
        have hkey := keys k
        cases hv : members.lookup k with
        | none =>
          rw [hv, Option.isSome_none, eq_comm, Option.isSome_eq_false_iff,
            Option.isNone_iff_eq_none] at hkey
          rw [hkey]
        | some v =>
          rw [hv, Option.isSome_some, eq_comm] at hkey
          obtain ⟨w, hw⟩ := Option.isSome_iff_exists.1 hkey
          have hmember := (Keyed.lookup_eq_some_iff_mem distinct).1 hv
          have hmember' := (Keyed.lookup_eq_some_iff_mem distinct').1 hw
          rw [hw, Option.map_some, Option.map_some,
            ih k v w hv hw (hmembers _ hmember) (hmembers' _ hmember')]

theorem sorted_eq_iff {v w : Json} (hv : v.Plain) (hw : w.Plain) :
    v.sorted = w.sorted ↔ Same v w := by
  constructor
  · intro h
    have hmiddle : Same v.sorted w := h ▸ hw.same_sorted
    exact hv.same_sorted.symm.trans hmiddle
  · intro h
    exact h.sorted_eq hv hw

end ApiDecl.Json

namespace ApiDecl.Run

open Files (FileSystem)

theorem artifactText_eq_iff {v w : Json} (hv : v.Plain) (hw : w.Plain) :
    artifactText v = artifactText w ↔ v.Same w := by
  rw [← Json.sorted_eq_iff hv hw]
  constructor
  · intro h
    have hparse := Json.parse_render hv
    rw [show Json.render v ++ ['\n'] = Json.render w ++ ['\n'] from h, Json.parse_render hw]
      at hparse
    exact (Except.ok.inj hparse).symm
  · intro h
    rw [artifactText, artifactText, Json.render, Json.render, h]

/-- The bytes of a written result. -/
def artifactBytes (payload : Json) : List UInt8 := Text.Utf8.encodeChars (artifactText payload)

theorem artifactBytes_eq_iff {v w : Json} : artifactBytes v = artifactBytes w ↔
    artifactText v = artifactText w := by
  constructor
  · intro h
    have hdecode := Text.Utf8.decodeChars_encodeChars (artifactText v)
    rw [show Text.Utf8.encodeChars (artifactText v) = Text.Utf8.encodeChars (artifactText w) from h,
      Text.Utf8.decodeChars_encodeChars] at hdecode
    exact (Except.ok.inj hdecode).symm
  · intro h
    rw [artifactBytes, artifactBytes, h]

/-- **Results are canonical and lose nothing.** For values without floating-point numbers in whose
objects no key stands twice: the file of a written result holds the bytes of its value. These are a
text that parses as JSON to the same value up to the order of members. Two values have the same
bytes exactly if they are the same up to the order of members. -/
theorem artifact_canonical {v w : Json} (hv : v.Plain) (hw : w.Plain) :
    (∀ fs path after, fs.Rooted → writeArtifact fs v path = (after, .ok ()) →
      after.entryAt (fs.location path) = some (.file (artifactBytes v))) ∧
    (∃ text u, Text.Utf8.decodeChars (artifactBytes v) = .ok text ∧ Json.parse text = .ok u ∧
      u.Same v) ∧
    (artifactBytes v = artifactBytes w ↔ v.Same w) := by
  refine ⟨fun fs path after hfs hwrite => ?_, ?_, ?_⟩
  · exact (writeArtifact_eq_ok hfs hwrite).self
  · exact ⟨artifactText v, v.sorted, Text.Utf8.decodeChars_encodeChars _, Json.parse_render hv,
      hv.same_sorted⟩
  · rw [artifactBytes_eq_iff, artifactText_eq_iff hv hw]

/-- A value with members inside members. -/
def forwards : Json :=
  .obj [("path", .arr [.int (-3), .null, .str "\"\n"]),
    ("kind", .obj [("open", .bool true), ("of", .obj [])])]

/-- The same value with all members the other way round. -/
def backwards : Json :=
  .obj [("kind", .obj [("of", .obj []), ("open", .bool true)]),
    ("path", .arr [.int (-3), .null, .str "\"\n"])]

theorem same_backwards : forwards.Same backwards := by
  have hkind : Json.Same (.obj [("open", .bool true), ("of", .obj [])])
      (.obj [("of", .obj []), ("open", .bool true)]) := by
    refine .of_mem (by simp) (by simp) (by simp [or_comm]) fun k v w hv hw => ?_
    simp only [List.mem_cons, Prod.mk.injEq, List.not_mem_nil, or_false] at hv
    rcases hv with ⟨rfl, rfl⟩ | ⟨rfl, rfl⟩
    · obtain rfl : w = .bool true := by simpa using hw
      exact .refl _
    · obtain rfl : w = .obj [] := by simpa using hw
      exact .refl _
  refine .of_mem (by simp) (by simp) (by simp [or_comm]) fun k v w hv hw => ?_
  simp only [List.mem_cons, Prod.mk.injEq, List.not_mem_nil, or_false] at hv
  rcases hv with ⟨rfl, rfl⟩ | ⟨rfl, rfl⟩
  · obtain rfl : w = .arr [.int (-3), .null, .str "\"\n"] := by simpa using hw
    exact .refl _
  · obtain rfl : w = .obj [("of", .obj []), ("open", .bool true)] := by simpa using hw
    exact hkind

theorem plain_forwards : forwards.Plain := by
  refine .obj (by simp) fun m hm => ?_
  simp only [List.mem_cons, List.not_mem_nil, or_false] at hm
  rcases hm with rfl | rfl
  · exact .arr (by simp [Json.Plain.int, Json.Plain.null, Json.Plain.str])
  · have hempty : Json.Plain (.obj []) := .obj (by simp) (by simp)
    exact .obj (by simp) (by simp [Json.Plain.bool, hempty])

theorem plain_backwards : backwards.Plain := by
  refine .obj (by simp) fun m hm => ?_
  simp only [List.mem_cons, List.not_mem_nil, or_false] at hm
  rcases hm with rfl | rfl
  · have hempty : Json.Plain (.obj []) := .obj (by simp) (by simp)
    exact .obj (by simp) (by simp [Json.Plain.bool, hempty])
  · exact .arr (by simp [Json.Plain.int, Json.Plain.null, Json.Plain.str])

/-- The order of the members does not show in the file, while a number and a text do differ. -/
theorem artifact_canonical_members :
    forwards.Plain ∧ backwards.Plain ∧ forwards.Same backwards ∧
      artifactBytes forwards = artifactBytes backwards ∧
      (∃ text u, Text.Utf8.decodeChars (artifactBytes forwards) = .ok text ∧
        Json.parse text = .ok u ∧ u.Same forwards) ∧
      (∃ after, writeArtifact (.bare "/work") forwards "out/x.json" = (after, .ok ()) ∧
        after.entryAt ((FileSystem.bare "/work").location "out/x.json") =
          some (.file (artifactBytes forwards))) ∧
      artifactBytes (.int 1) ≠ artifactBytes (.str "1") := by
  obtain ⟨hwritten, hread, hsame⟩ := artifact_canonical plain_forwards plain_backwards
  have hrooted : (FileSystem.bare "/work").Rooted := by
    unfold FileSystem.Rooted
    decide +kernel
  have hwrite : (writeArtifact (.bare "/work") forwards "out/x.json").2 = .ok () := by
    decide +kernel
  refine ⟨plain_forwards, plain_backwards, same_backwards, hsame.2 same_backwards, hread,
    ⟨_, Prod.ext rfl hwrite, hwritten _ _ _ hrooted (Prod.ext rfl hwrite)⟩, ?_⟩
  intro hbytes
  have hscalars := (artifact_canonical (.int 1) (.str "1")).2.2.1 hbytes
  cases hscalars

end ApiDecl.Run
