import ApiDecl.Journal.Traced
import Mathlib.Data.List.Forall2

/-!
# Outcomes of computations in a row

A computation over a list goes on as long as its steps succeed, and ends with the first error. These
are the laws by which such a run is taken apart.

* `Outcome.mapM_eq_ok_iff`: a run succeeds exactly with the values of its steps.
* `Outcome.mapM_eq_error_iff`: it fails exactly with the error of the first step that fails.
* `Outcome.foldlM_map`: a run that keeps an accumulator is a run that collects the values and puts
  them in afterwards.
* `Outcome.FailsOnly`: a computation fails with errors of one sort only; so does one that is made of
  such computations.

The notes of a traced computation have no part in its outcome, so the same laws hold there.
-/

namespace ApiDecl

namespace Outcome

variable {ε α β γ : Type}

@[simp] theorem ok_bind (a : α) (f : α → Except ε β) : (Except.ok a >>= f) = f a := rfl

@[simp] theorem error_bind (e : ε) (f : α → Except ε β) : (Except.error e >>= f) = .error e := rfl

theorem pure_eq_ok (a : α) : (pure a : Except ε α) = .ok a := rfl

theorem isOk_iff {x : Except ε α} : x.isOk ↔ ∃ a, x = .ok a := by
  cases x <;> simp [Except.isOk, Except.toBool]

theorem isOk_eq_false_iff {x : Except ε α} : x.isOk = false ↔ ∃ e, x = .error e := by
  cases x <;> simp [Except.isOk, Except.toBool]

theorem bind_eq_ok_iff {x : Except ε α} {f : α → Except ε β} {b : β} :
    x >>= f = .ok b ↔ ∃ a, x = .ok a ∧ f a = .ok b := by
  cases x <;> simp

theorem bind_eq_error_iff {x : Except ε α} {f : α → Except ε β} {e : ε} :
    x >>= f = .error e ↔ x = .error e ∨ ∃ a, x = .ok a ∧ f a = .error e := by
  cases x <;> simp

theorem map_eq_ok_iff {f : α → β} {x : Except ε α} {b : β} :
    f <$> x = .ok b ↔ ∃ a, x = .ok a ∧ f a = b := by
  cases x <;> simp [Functor.map, Except.map]

theorem map_eq_error_iff {f : α → β} {x : Except ε α} {e : ε} :
    f <$> x = .error e ↔ x = .error e := by
  cases x <;> simp [Functor.map, Except.map]

@[simp] theorem mapError_ok {ε' : Type} (g : ε → ε') (a : α) :
    (Except.ok a).mapError g = .ok a := rfl

@[simp] theorem mapError_error {ε' : Type} (g : ε → ε') (e : ε) :
    (Except.error e : Except ε α).mapError g = .error (g e) := rfl

theorem mapError_eq_ok_iff {ε' : Type} {g : ε → ε'} {x : Except ε α} {a : α} :
    x.mapError g = .ok a ↔ x = .ok a := by
  cases x <;> simp

/-- Either every step succeeds, or there is a first step that fails. -/
theorem all_ok_or_first_error (f : α → Except ε β) (l : List α) :
    (∃ bs : List β, l.map f = bs.map .ok) ∨
      ∃ before a after e, l = before ++ a :: after ∧ (∀ b ∈ before, ∃ y, f b = .ok y) ∧
        f a = .error e := by
  induction l with
  | nil => exact Or.inl ⟨[], rfl⟩
  | cons x rest ih =>
    cases hx : f x with
    | error e => exact Or.inr ⟨[], x, rest, e, rfl, by simp, hx⟩
    | ok y =>
      rcases ih with ⟨bs, hbs⟩ | ⟨before, a, after, e, rfl, hbefore, ha⟩
      · exact Or.inl ⟨y :: bs, by simp [hx, hbs]⟩
      · refine Or.inr ⟨x :: before, a, after, e, rfl, ?_, ha⟩
        simpa [hx] using hbefore

theorem exists_map_eq {f : α → Except ε β} {l : List α} (h : ∀ a ∈ l, ∃ y, f a = .ok y) :
    ∃ bs : List β, l.map f = bs.map .ok := by
  rcases all_ok_or_first_error f l with hok | ⟨before, a, after, e, rfl, -, ha⟩
  · exact hok
  · obtain ⟨y, hy⟩ := h a (by simp)
    rw [ha] at hy
    cases hy

theorem exists_first_error {f : α → Except ε β} {l : List α} (h : ∃ a ∈ l, ∀ y, f a ≠ .ok y) :
    ∃ before a after e, l = before ++ a :: after ∧ (∀ b ∈ before, ∃ y, f b = .ok y) ∧
      f a = .error e := by
  rcases all_ok_or_first_error f l with ⟨bs, hbs⟩ | hfirst
  · obtain ⟨a, ha, hfails⟩ := h
    have hmem : f a ∈ bs.map .ok := hbs ▸ List.mem_map_of_mem ha
    obtain ⟨y, -, hy⟩ := List.mem_map.mp hmem
    exact absurd hy.symm (hfails y)
  · exact hfirst

theorem mapM_of_map_eq {f : α → Except ε β} {l : List α} {bs : List β}
    (h : l.map f = bs.map .ok) : l.mapM f = .ok bs := by
  induction l generalizing bs with
  | nil =>
    obtain rfl : bs = [] := by simpa using h.symm
    rfl
  | cons x rest ih =>
    cases bs with
    | nil => simp at h
    | cons b bs =>
      obtain ⟨hx, hrest⟩ := by simpa using h
      rw [List.mapM_cons, hx, ok_bind, ih hrest, ok_bind, pure_eq_ok]

theorem mapM_of_first_error {f : α → Except ε β} {before after : List α} {a : α} {e : ε}
    (hbefore : ∀ b ∈ before, ∃ y, f b = .ok y) (ha : f a = .error e) :
    (before ++ a :: after).mapM f = .error e := by
  induction before with
  | nil => simp [ha]
  | cons x rest ih =>
    obtain ⟨y, hy⟩ := hbefore x List.mem_cons_self
    have hrest := ih fun b hb => hbefore b (List.mem_cons_of_mem _ hb)
    rw [List.cons_append, List.mapM_cons, hy, ok_bind, hrest, error_bind]

/-- A run succeeds exactly with the values of its steps. -/
theorem mapM_eq_ok_iff {f : α → Except ε β} {l : List α} {bs : List β} :
    l.mapM f = .ok bs ↔ l.map f = bs.map .ok := by
  refine ⟨fun h => ?_, mapM_of_map_eq⟩
  rcases all_ok_or_first_error f l with ⟨bs', hbs⟩ | ⟨before, a, after, e, rfl, hbefore, ha⟩
  · rw [mapM_of_map_eq hbs] at h
    cases h
    exact hbs
  · rw [mapM_of_first_error hbefore ha] at h
    cases h

/-- A run fails exactly with the error of the first step that fails. -/
theorem mapM_eq_error_iff {f : α → Except ε β} {l : List α} {e : ε} :
    l.mapM f = .error e ↔ ∃ before a after, l = before ++ a :: after ∧
      (∀ b ∈ before, ∃ y, f b = .ok y) ∧ f a = .error e := by
  constructor
  · intro h
    rcases all_ok_or_first_error f l with ⟨bs, hbs⟩ | ⟨before, a, after, e', rfl, hbefore, ha⟩
    · rw [mapM_of_map_eq hbs] at h
      cases h
    · rw [mapM_of_first_error hbefore ha] at h
      cases h
      exact ⟨before, a, after, rfl, hbefore, ha⟩
  · rintro ⟨before, a, after, rfl, hbefore, ha⟩
    exact mapM_of_first_error hbefore ha

theorem exists_of_mem_ok {f : α → Except ε β} {l : List α} {bs : List β}
    (h : l.map f = bs.map .ok) {b : β} (hb : b ∈ bs) : ∃ a ∈ l, f a = .ok b := by
  have hmem : Except.ok b ∈ l.map f := h ▸ List.mem_map_of_mem hb
  exact List.mem_map.mp hmem

theorem forall₂_of_map_eq {f : α → γ} {g : β → γ} {l : List α} {bs : List β}
    (h : l.map f = bs.map g) : List.Forall₂ (fun a b => f a = g b) l bs := by
  rw [← List.forall₂_eq_eq_eq, List.forall₂_map_left_iff, List.forall₂_map_right_iff] at h
  exact h

theorem exists_forall₂ {R : α → β → Prop} {l : List α} (h : ∀ a ∈ l, ∃ b, R a b) :
    ∃ bs, List.Forall₂ R l bs := by
  induction l with
  | nil => exact ⟨[], .nil⟩
  | cons a rest ih =>
    obtain ⟨b, hb⟩ := h a List.mem_cons_self
    obtain ⟨bs, hbs⟩ := ih fun a' ha' => h a' (List.mem_cons_of_mem _ ha')
    exact ⟨b :: bs, .cons hb hbs⟩

theorem mapM_congr {m : Type → Type} [Monad m] [LawfulMonad m] {f g : α → m β} {l : List α}
    (h : ∀ a ∈ l, f a = g a) : l.mapM f = l.mapM g := by
  induction l with
  | nil => rfl
  | cons a rest ih =>
    rw [List.mapM_cons, List.mapM_cons, h a List.mem_cons_self,
      ih fun b hb => h b (List.mem_cons_of_mem _ hb)]

/-- Changing every value by means of what it was made from is changing the values afterwards. -/
theorem mapM_zipWith (g : α → β → γ) (f : α → Except ε β) (l : List α) :
    l.mapM (fun a => g a <$> f a) = List.zipWith g l <$> l.mapM f := by
  induction l with
  | nil => rfl
  | cons a rest ih =>
    rw [List.mapM_cons, List.mapM_cons, ih]
    cases f a with
    | error e => rfl
    | ok b => cases rest.mapM f <;> rfl

theorem mapM_mapError {ε' : Type} (g : ε → ε') (f : α → Except ε β) (l : List α) :
    l.mapM (fun a => (f a).mapError g) = (l.mapM f).mapError g := by
  induction l with
  | nil => rfl
  | cons a rest ih =>
    rw [List.mapM_cons, List.mapM_cons, ih]
    cases f a with
    | error e => rfl
    | ok b => cases rest.mapM f <;> rfl

theorem forM_eq_map (f : α → Except ε Unit) (l : List α) :
    l.forM f = (fun _ => ()) <$> l.mapM f := by
  induction l with
  | nil => rfl
  | cons a rest ih =>
    rw [List.mapM_cons]
    show (f a >>= fun _ => rest.forM f) = _
    rw [ih]
    cases f a with
    | error e => rfl
    | ok _ => cases rest.mapM f <;> rfl

theorem forM_eq_ok_iff {f : α → Except ε Unit} {l : List α} :
    l.forM f = .ok () ↔ ∀ a ∈ l, f a = .ok () := by
  rw [forM_eq_map, map_eq_ok_iff]
  constructor
  · rintro ⟨bs, hbs, -⟩ a ha
    have hmem : f a ∈ bs.map .ok := mapM_eq_ok_iff.mp hbs ▸ List.mem_map_of_mem ha
    obtain ⟨_, -, hb⟩ := List.mem_map.mp hmem
    exact hb.symm
  · intro h
    obtain ⟨bs, hbs⟩ := exists_map_eq fun a ha => ⟨(), h a ha⟩
    exact ⟨bs, mapM_eq_ok_iff.mpr hbs, rfl⟩

theorem forM_eq_error_iff {f : α → Except ε Unit} {l : List α} {e : ε} :
    l.forM f = .error e ↔ ∃ before a after, l = before ++ a :: after ∧
      (∀ b ∈ before, f b = .ok ()) ∧ f a = .error e := by
  have hunit : ∀ b, (∃ y, f b = .ok y) ↔ f b = .ok () := fun b =>
    ⟨fun ⟨_, hb⟩ => hb, fun hb => ⟨(), hb⟩⟩
  rw [forM_eq_map, map_eq_error_iff, mapM_eq_error_iff]
  simp only [hunit]

/-- Putting values into an accumulator while they are made is putting them in afterwards. -/
theorem foldlM_map (put : γ → β → γ) (f : α → Except ε β) (l : List α) (c : γ) :
    l.foldlM (fun c a => put c <$> f a) c = (fun bs => bs.foldl put c) <$> l.mapM f := by
  induction l generalizing c with
  | nil => rfl
  | cons x rest ih =>
    rw [List.foldlM_cons, List.mapM_cons]
    cases f x with
    | error e => rfl
    | ok b =>
      show rest.foldlM _ (put c b) = _
      rw [ih]
      cases rest.mapM f <;> rfl

/-! ## Errors of one sort -/

/-- Every error of the computation satisfies `P`. -/
def FailsOnly (P : ε → Prop) (x : Except ε α) : Prop := ∀ e, x = .error e → P e

variable {P : ε → Prop}

theorem failsOnly_ok (a : α) : FailsOnly P (.ok a : Except ε α) := by
  rintro e ⟨⟩

theorem failsOnly_error {e : ε} (h : P e) : FailsOnly P (.error e : Except ε α) := by
  rintro _ ⟨⟩
  exact h

/-- A computation that cannot fail succeeds. -/
theorem failsOnly_false_iff {x : Except ε α} : FailsOnly (fun _ => False) x ↔ ∃ a, x = .ok a := by
  cases x <;> simp [FailsOnly]

/-- An error that is passed on is one of the computation that it comes from. -/
theorem FailsOnly.pass {x : Except ε α} (hx : FailsOnly P x) {e : ε} (h : x = .error e) :
    FailsOnly P (.error e : Except ε β) :=
  failsOnly_error (hx e h)

theorem FailsOnly.bind {x : Except ε α} {f : α → Except ε β} (hx : FailsOnly P x)
    (hf : ∀ a, FailsOnly P (f a)) : FailsOnly P (x >>= f) := by
  intro e h
  rcases bind_eq_error_iff.mp h with h | ⟨a, -, h⟩
  · exact hx e h
  · exact hf a e h

theorem FailsOnly.map {x : Except ε α} (hx : FailsOnly P x) (f : α → β) : FailsOnly P (f <$> x) :=
  fun e h => hx e (map_eq_error_iff.mp h)

theorem failsOnly_mapM {f : α → Except ε β} {l : List α} (h : ∀ a ∈ l, FailsOnly P (f a)) :
    FailsOnly P (l.mapM f) := by
  intro e he
  obtain ⟨before, a, after, rfl, -, ha⟩ := mapM_eq_error_iff.mp he
  exact h a (by simp) e ha

end Outcome

namespace Journal.Traced

variable {ε ε' α β : Type}

instance : LawfulMonad (Traced ε) :=
  LawfulMonad.mk' (Traced ε)
    (fun x => by
      obtain ⟨notes, outcome⟩ := x
      cases outcome <;> simp [Functor.map, Traced.bind, Traced.pure])
    (fun a f => by simp [pure, bind, Traced.bind, Traced.pure])
    (fun x f g => by
      obtain ⟨notes, outcome⟩ := x
      cases outcome with
      | error e => rfl
      | ok a =>
        simp only [bind, Traced.bind]
        cases (f a).outcome <;> simp)

@[simp] theorem outcome_map (f : α → β) (x : Traced ε α) : (f <$> x).outcome = f <$> x.outcome := by
  rw [← bind_pure_comp, outcome_bind]
  cases x.outcome <;> rfl

@[simp] theorem outcome_mapError (f : ε → ε') (x : Traced ε α) :
    (x.mapError f).outcome = x.outcome.mapError f := rfl

@[simp] theorem outcome_mapM (f : α → Traced ε β) (l : List α) :
    (l.mapM f).outcome = l.mapM fun a => (f a).outcome := by
  induction l with
  | nil => rfl
  | cons a rest ih => simp [List.mapM_cons, ih]

end Journal.Traced

end ApiDecl
