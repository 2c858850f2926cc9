/-!
# Lists by key

A list of keys with values is a finite map that keeps the order in which its keys were first set.
Setting a key again keeps its place.
-/

namespace ApiDecl.Keyed

variable {κ α : Type} [DecidableEq κ]

/-- The list with a key set to a value: in place, or at the end when the key is new. -/
def set (key : κ) (value : α) : List (κ × α) → List (κ × α)
  | [] => [(key, value)]
  | (k, v) :: rest => if k = key then (k, value) :: rest else (k, v) :: set key value rest

/-- The list that setting the keys one after the other gives. -/
def ofList (l : List (κ × α)) : List (κ × α) := l.foldl (fun done (k, v) => set k v done) []

theorem lookup_set (key k : κ) (value : α) (l : List (κ × α)) :
    (set key value l).lookup k = if k = key then some value else l.lookup k := by
  induction l with
  | nil =>
    by_cases h : k = key
    · simp [set, h]
    · simp [set, List.lookup_cons, h, beq_eq_false_iff_ne.2 h]
  | cons entry rest ih =>
    obtain ⟨k', v⟩ := entry
    by_cases h : k' = key
    · by_cases h' : k = key
      · simp [set, h, h']
      · simp [set, List.lookup_cons, h, h', beq_eq_false_iff_ne.2 h']
    · by_cases h' : k = k'
      · subst h'
        simp [set, h]
      · simp [set, List.lookup_cons, h, beq_eq_false_iff_ne.2 h', ih]

@[simp] theorem lookup_set_self (key : κ) (value : α) (l : List (κ × α)) :
    (set key value l).lookup key = some value := by
  simp [lookup_set]

theorem set_of_lookup_eq_none {key : κ} {value : α} {l : List (κ × α)} (h : l.lookup key = none) :
    set key value l = l ++ [(key, value)] := by
  induction l with
  | nil => rfl
  | cons entry rest ih =>
    obtain ⟨k, v⟩ := entry
    have hne : k ≠ key := by
      rintro rfl
      simp at h
    rw [List.lookup_cons, beq_eq_false_iff_ne.mpr hne.symm] at h
    simp [set, hne, ih h]

theorem set_of_not_mem {key : κ} {value : α} {l : List (κ × α)} (h : key ∉ l.map Prod.fst) :
    set key value l = l ++ [(key, value)] := by
  refine set_of_lookup_eq_none (List.lookup_eq_none_iff.2 ?_)
  intro entry hentry
  rw [bne_iff_ne]
  rintro rfl
  exact h (List.mem_map_of_mem hentry)

theorem set_of_lookup_eq_some {key : κ} {value : α} {l : List (κ × α)}
    (h : l.lookup key = some value) : set key value l = l := by
  induction l with
  | nil => simp at h
  | cons entry rest ih =>
    obtain ⟨k, v⟩ := entry
    by_cases hk : k = key
    · subst hk
      obtain rfl : v = value := by simpa using h
      simp [set]
    · rw [List.lookup_cons, beq_eq_false_iff_ne.mpr (Ne.symm hk)] at h
      simp [set, hk, ih h]

theorem set_set (key : κ) (value other : α) (l : List (κ × α)) :
    set key value (set key other l) = set key value l := by
  induction l with
  | nil => simp [set]
  | cons entry rest ih =>
    obtain ⟨k, v⟩ := entry
    by_cases h : k = key
    · simp [set, h]
    · simp [set, h, ih]

/-- Setting a key that is there goes along with setting another one, which may be new. -/
theorem set_comm {key key' : κ} (hne : key ≠ key') {value value' : α} {l : List (κ × α)}
    (h : (l.lookup key).isSome) :
    set key value (set key' value' l) = set key' value' (set key value l) := by
  induction l with
  | nil => simp at h
  | cons entry rest ih =>
    obtain ⟨k, v⟩ := entry
    by_cases hk : k = key
    · subst hk
      simp [set, hne]
    · rw [List.lookup_cons, beq_eq_false_iff_ne.mpr (Ne.symm hk)] at h
      by_cases hk' : k = key'
      · subst hk'
        simp [set, hk]
      · simp [set, hk, hk', ih h]

theorem lookup_eq_some_iff_mem {l : List (κ × α)} (h : (l.map Prod.fst).Nodup) {key : κ}
    {value : α} : l.lookup key = some value ↔ (key, value) ∈ l := by
  constructor
  · intro hv
    obtain ⟨l₁, l₂, rfl, -⟩ := List.lookup_eq_some_iff.1 hv
    simp
  · intro hm
    obtain ⟨l₁, l₂, rfl⟩ := List.append_of_mem hm
    refine List.lookup_eq_some_iff.2 ⟨l₁, l₂, rfl, ?_⟩
    intro entry hentry
    rw [List.map_append, List.nodup_append] at h
    rw [bne_iff_ne]
    exact (h.2.2 entry.1 (List.mem_map_of_mem hentry) key (by simp)).symm

end ApiDecl.Keyed
