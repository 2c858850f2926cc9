import ApiDecl.Journal.Note

/-!
# Computations that keep a journal

A traced computation has an outcome, a value or an error, and the notes written on the way to it.
Notes are kept when the computation fails. Forgetting the notes leaves an ordinary computation:
`outcome` goes along with `pure`, `bind`, `throw` and the scopes.
-/

namespace ApiDecl.Journal

/-- An outcome with the notes written on the way. -/
structure Traced (ε α : Type) where
  notes : List Note
  outcome : Except ε α

namespace Traced

variable {ε ε' α β : Type}

/-- A value without notes. -/
protected def pure (a : α) : Traced ε α := ⟨[], .ok a⟩

/-- One computation after the other. -/
protected def bind (x : Traced ε α) (f : α → Traced ε β) : Traced ε β :=
  match x.outcome with
  | .error e => ⟨x.notes, .error e⟩
  | .ok a =>
    let y := f a
    ⟨x.notes ++ y.notes, y.outcome⟩

instance : Monad (Traced ε) where
  pure := Traced.pure
  bind := Traced.bind

/-- Fail without a note. -/
def fail (e : ε) : Traced ε α := ⟨[], .error e⟩

/-- An outcome without notes. -/
def ofExcept (x : Except ε α) : Traced ε α := ⟨[], x⟩

/-- Write one note. -/
def note (level : Level) (logger message : String) : Traced ε Unit :=
  ⟨[{ level, logger, message }], .ok ()⟩

/-- Change the error. -/
def mapError (f : ε → ε') (x : Traced ε α) : Traced ε' α := ⟨x.notes, x.outcome.mapError f⟩

/-- Write the notes in a phase. -/
def inPhase (phase : String) (x : Traced ε α) : Traced ε α :=
  ⟨x.notes.map (·.inPhase phase), x.outcome⟩

/-- Write the notes about a file. -/
def inFile (file : String) (x : Traced ε α) : Traced ε α :=
  ⟨x.notes.map (·.inFile file), x.outcome⟩

@[simp] theorem outcome_pure (a : α) : (pure a : Traced ε α).outcome = .ok a := rfl

@[simp] theorem outcome_bind (x : Traced ε α) (f : α → Traced ε β) :
    (x >>= f).outcome = x.outcome >>= fun a => (f a).outcome := by
  show (Traced.bind x f).outcome = _
  unfold Traced.bind
  cases x.outcome <;> rfl

@[simp] theorem outcome_fail (e : ε) : (fail e : Traced ε α).outcome = .error e := rfl

@[simp] theorem outcome_ofExcept (x : Except ε α) : (ofExcept x).outcome = x := rfl

@[simp] theorem outcome_note (level : Level) (logger message : String) :
    (note level logger message : Traced ε Unit).outcome = .ok () := rfl

@[simp] theorem outcome_inPhase (phase : String) (x : Traced ε α) :
    (x.inPhase phase).outcome = x.outcome := rfl

@[simp] theorem outcome_inFile (file : String) (x : Traced ε α) :
    (x.inFile file).outcome = x.outcome := rfl

end Traced

end ApiDecl.Journal
