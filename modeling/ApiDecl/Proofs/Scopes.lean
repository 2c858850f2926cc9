import ApiDecl.Journal.Console
import Mathlib.Data.List.Basic

/-!
# Programs that use a console

A program enters and leaves blocks, sets the run id, passes records through the filter, and raises
and handles errors. `Program.run` runs it on a console and keeps a history of what can be seen from
outside. The console has one stack of scopes for all blocks. That every block finds its own scope
on top when it ends, however it ends, is what `Restores` says: a run changes nothing of a console
but the run id. The context of a record is then that of the blocks around it (`contextIn`).
-/

namespace ApiDecl.Journal

/-! ## Programs -/

/-- A block puts what happens inside it into a phase, or says which file it is about. -/
inductive Block
  | phase (name : String)
  | file (path : String)
deriving DecidableEq, Repr

namespace Block

/-- Enter the block. -/
def enter : Block → Console → Console
  | phase name, c => c.enterPhase name
  | file path, c => c.enterFile path

/-- The phase of a block that has one. -/
def phase? : Block → Option String
  | phase name => some name
  | file _ => none

/-- The file of a block that has one. -/
def file? : Block → Option String
  | phase _ => none
  | file path => some path

end Block

/-- A program with errors of a type. -/
inductive Program (ε : Type)
  | done
  | andThen (first next : Program ε)
  | inside (block : Block) (body : Program ε)
  /-- The run id is generated if none is given. What would be generated is part of the program. -/
  | setRunId (given : Option String) (generated : String)
  | filter (record : Record)
  | raise (error : ε)
  /-- The handler may look at the error, and raise it again. -/
  | attempt (body : Program ε) (handler : ε → Program ε)

/-- Something that can be seen of a run from outside. -/
inductive Mark
  /-- The run id was set. -/
  | identified (runId : String)
  /-- A record came out of the filter, with the blocks around it, the innermost first. -/
  | filtered (around : List Block) (record : Record)
  /-- A block ended. The contexts are the one before the block and the one after it. -/
  | ended (before after : Context)
deriving DecidableEq, Repr

/-- What a run leaves behind. -/
structure Execution (ε : Type) where
  console : Console
  history : List Mark
  outcome : Except ε Unit

variable {ε : Type}

/-- The execution, and then another one from where it stopped. -/
def Execution.followedBy (r : Execution ε) (next : Console → Execution ε) : Execution ε :=
  let s := next r.console
  { s with history := r.history ++ s.history }

/-- Run a program that stands inside blocks, the innermost first. A block is left in the same way
whether or not its body has raised an error. -/
def Program.run : Program ε → List Block → Console → Execution ε
  | done, _, c => ⟨c, [], .ok ()⟩
  | andThen first next, around, c =>
    let r := first.run around c
    match r.outcome with
    | .ok () => r.followedBy (next.run around)
    | .error _ => r
  | inside block body, around, c =>
    let r := body.run (block :: around) (block.enter c)
    let left := r.console.leave
    ⟨left, r.history ++ [.ended c.context left.context], r.outcome⟩
  | setRunId given generated, _, c =>
    let runId := Console.chooseRunId given generated
    ⟨c.setRunId runId, [.identified runId], .ok ()⟩
  | filter record, around, c => ⟨c, [.filtered around (c.filter record).1], .ok ()⟩
  | raise error, _, c => ⟨c, [], .error error⟩
  | attempt body handler, around, c =>
    let r := body.run around c
    match r.outcome with
    | .ok () => r
    | .error e => r.followedBy ((handler e).run around)

/-! ## The run id set last -/

/-- The run id that was set. -/
def Mark.runId? : Mark → Option String
  | identified runId => some runId
  | _ => none

/-- The run id set last, or the one from before. -/
def latest (past : List Mark) (runId : String) : String :=
  ((past.filterMap Mark.runId?).getLast?).getD runId

theorem latest_append (past later : List Mark) (runId : String) :
    latest (past ++ later) runId = latest later (latest past runId) := by
  unfold latest
  rw [List.filterMap_append, List.getLast?_append]
  cases (later.filterMap Mark.runId?).getLast? <;> rfl

theorem latest_append_ended (past : List Mark) (before after : Context) (runId : String) :
    latest (past ++ [.ended before after]) runId = latest past runId := by
  rw [latest_append]
  rfl

/-! ## What a run leaves of a console -/

theorem runId_enter (b : Block) (c : Console) : (b.enter c).context.runId = c.context.runId := by
  cases b <;> rfl

/-- Leaving a block that was entered undoes it, except for the run id. -/
theorem leave_setRunId_enter (b : Block) (runId : String) (c : Console) :
    ((b.enter c).setRunId runId).leave = c.setRunId runId := by
  cases b <;> rfl

/-- Of the console, the execution changes the run id only. -/
def Restores (c : Console) (r : Execution ε) : Prop :=
  r.console = c.setRunId (latest r.history c.context.runId)

theorem Restores.followedBy {c : Console} {r : Execution ε} {next : Console → Execution ε}
    (h : Restores c r) (hnext : Restores r.console (next r.console)) :
    Restores c (r.followedBy next) := by
  have hid : r.console.context.runId = latest r.history c.context.runId := by
    rw [show r.console = _ from h]
    rfl
  calc (r.followedBy next).console
      = r.console.setRunId (latest (next r.console).history r.console.context.runId) := hnext
    _ = (c.setRunId (latest r.history c.context.runId)).setRunId
          (latest (next r.console).history (latest r.history c.context.runId)) := by
        rw [hid, show r.console = _ from h]
    _ = c.setRunId (latest (r.followedBy next).history c.context.runId) := by
        rw [Execution.followedBy, latest_append]
        rfl

theorem restores_run (p : Program ε) (around : List Block) (c : Console) :
    Restores c (p.run around c) := by
  induction p generalizing around c with
  | done => rfl
  | andThen first next hfirst hnext =>
    rw [Program.run]
    split
    · exact (hfirst around c).followedBy (hnext around _)
    · exact hfirst around c
  | inside block body ih =>
    have hbody := ih (block :: around) (block.enter c)
    rw [Restores, runId_enter] at hbody
    rw [Restores, Program.run, latest_append_ended]
    show (body.run (block :: around) (block.enter c)).console.leave = _
    rw [hbody, leave_setRunId_enter]
  | setRunId given generated => rfl
  | filter record => rfl
  | raise error => rfl
  | attempt body handler hbody hhandler =>
    rw [Program.run]
    split
    · exact hbody around c
    · exact (hbody around c).followedBy (hhandler _ around _)

/-! ## The context inside blocks -/

/-- The context inside blocks, for a program that started in another context: the innermost phase
and the innermost file, and the run id set last. -/
def contextIn (start : Context) (past : List Mark) (around : List Block) : Context where
  runId := latest past start.runId
  phase := (around.findSome? Block.phase?).getD start.phase
  file := (around.findSome? Block.file?).getD start.file

theorem context_enter {start : Context} {past : List Mark} {around : List Block} {c : Console}
    (h : c.context = contextIn start past around) (b : Block) :
    (b.enter c).context = contextIn start past (b :: around) := by
  cases b with
  | phase name =>
    show ({ c.context with phase := name } : Context) = _
    rw [h]
    rfl
  | file path =>
    show ({ c.context with file := path } : Context) = _
    rw [h]
    rfl

theorem Restores.context {start : Context} {past : List Mark} {around : List Block} {c : Console}
    {r : Execution ε} (hr : Restores c r) (h : c.context = contextIn start past around) :
    r.console.context = contextIn start (past ++ r.history) around := by
  rw [show r.console = _ from hr]
  show ({ c.context with runId := latest r.history c.context.runId } : Context) = _
  rw [h, contextIn, contextIn, latest_append]

/-- A mark is as it should be, after a past. -/
def Mark.Right (start : Context) (past : List Mark) : Mark → Prop
  | identified _ => True
  | filtered around record => record.context = some (contextIn start past around)
  | ended before after =>
    after.phase = before.phase ∧ after.file = before.file ∧ after.runId = latest past start.runId

/-- All marks are as they should be, one after the other. -/
def Fits (start : Context) : (past history : List Mark) → Prop
  | _, [] => True
  | past, m :: rest => m.Right start past ∧ Fits start (past ++ [m]) rest

theorem fits_append {start : Context} {past history later : List Mark} :
    Fits start past (history ++ later) ↔
      Fits start past history ∧ Fits start (past ++ history) later := by
  induction history generalizing past with
  | nil => simp [Fits]
  | cons m rest ih => simp [Fits, ih, and_assoc]

theorem Fits.right {start : Context} {past history : List Mark} (h : Fits start past history)
    {i : Nat} {m : Mark} (hm : history[i]? = some m) :
    m.Right start (past ++ history.take i) := by
  induction history generalizing past i with
  | nil => simp at hm
  | cons n rest ih =>
    cases i with
    | zero =>
      obtain rfl : n = m := by simpa using hm
      simpa using h.1
    | succ i =>
      have hrest := ih h.2 (by simpa using hm)
      simpa using hrest

/-- What a run writes into its history is as it should be, if the console starts in the context of
the blocks around. -/
theorem fits_run {start : Context} {past : List Mark} {around : List Block} {c : Console}
    (p : Program ε) (h : c.context = contextIn start past around) :
    Fits start past (p.run around c).history := by
  induction p generalizing past around c with
  | done => trivial
  | andThen first next hfirst hnext =>
    have hthere := (restores_run first around c).context h
    rw [Program.run]
    split
    · exact fits_append.mpr ⟨hfirst h, hnext hthere⟩
    · exact hfirst h
  | inside block body ih =>
    have hbody := ih (context_enter h block)
    have hrestored := restores_run (.inside block body) around c
    -- The block itself restores the console, so its own mark compares two contexts that differ in
    -- the run id at most.
    have hafter : (body.run (block :: around) (block.enter c)).console.leave.context =
        { c.context with
          runId := latest (body.run (block :: around) (block.enter c)).history
            c.context.runId } := by
      rw [Restores, Program.run, latest_append_ended] at hrestored
      exact congrArg Console.context hrestored
    refine fits_append.mpr ⟨hbody, ⟨?_, ?_, ?_⟩, trivial⟩
    · rw [hafter]
    · rw [hafter]
    · rw [hafter, latest_append, h]
      rfl
  | setRunId given generated => exact ⟨trivial, trivial⟩
  | filter record => exact ⟨congrArg some h, trivial⟩
  | raise error => trivial
  | attempt body handler hbody hhandler =>
    have hthere := (restores_run body around c).context h
    rw [Program.run]
    split
    · exact hbody h
    · exact fits_append.mpr ⟨hbody h, hhandler _ hthere⟩

/-- **The context is scoped in every program.** Whatever a program does, and whether or not it
raises an error: afterwards the console is as before, except that its run id is the one set last.
The same holds of every block that ended on the way. A record that has passed the filter has the
phase and the file of the innermost blocks around it that have one, otherwise those from the start
of the program, and the run id set last before it. -/
theorem run_scoped (p : Program ε) (c : Console) :
    (p.run [] c).console = c.setRunId (latest (p.run [] c).history c.context.runId) ∧
    (∀ (i : Nat) (before after : Context), (p.run [] c).history[i]? = some (.ended before after) →
      after.phase = before.phase ∧ after.file = before.file ∧
        after.runId = latest ((p.run [] c).history.take i) c.context.runId) ∧
    (∀ (i : Nat) (around : List Block) (record : Record),
      (p.run [] c).history[i]? = some (.filtered around record) →
      record.context = some {
        runId := latest ((p.run [] c).history.take i) c.context.runId
        phase := (around.findSome? Block.phase?).getD c.context.phase
        file := (around.findSome? Block.file?).getD c.context.file }) := by
  have hfits : Fits c.context [] (p.run [] c).history := fits_run p rfl
  refine ⟨restores_run p [] c, fun i before after hm => ?_, fun i around record hm => ?_⟩
  · exact hfits.right hm
  · exact hfits.right hm

/-- A record about nothing. -/
def plainRecord : Record := { level := .info, logger := "core", message := "here" }

/-- An error leaves two blocks after the run id was set inside them, and is handled outside. -/
def crossing : Program String :=
  .attempt
    (.inside (.phase "load") (.inside (.file "a.ts")
      (.andThen (.setRunId none "r2")
        (.andThen (.inside (.phase "read") (.filter plainRecord)) (.raise "broken")))))
    fun _ => .filter plainRecord

theorem history_crossing : (crossing.run [] { context := { runId := "r1" } }).history =
    [.identified "r2",
      .filtered [.phase "read", .file "a.ts", .phase "load"]
        { plainRecord with context := some ⟨"r2", "read", "a.ts"⟩ },
      .ended ⟨"r2", "load", "a.ts"⟩ ⟨"r2", "load", "a.ts"⟩,
      .ended ⟨"r1", "load", "-"⟩ ⟨"r2", "load", "-"⟩,
      .ended ⟨"r1", "-", "-"⟩ ⟨"r2", "-", "-"⟩,
      .filtered [] { plainRecord with context := some ⟨"r2", "-", "-"⟩ }] := by
  decide +kernel

/-- The record inside has the inner phase, and the one in the handler has none. The run id stays. -/
theorem run_scoped_crossing :
    ∃ inner outer before after,
      (crossing.run [] { context := { runId := "r1" } }).history[1]? =
        some (.filtered [.phase "read", .file "a.ts", .phase "load"] inner) ∧
      (crossing.run [] { context := { runId := "r1" } }).history[4]? =
        some (.ended before after) ∧
      (crossing.run [] { context := { runId := "r1" } }).history[5]? = some (.filtered [] outer) ∧
      inner.context = some { runId := "r2", phase := "read", file := "a.ts" } ∧
      before.runId = "r1" ∧ after.runId = "r2" ∧ after.phase = before.phase ∧
      after.file = before.file ∧
      outer.context = some { runId := "r2", phase := unset, file := unset } ∧
      (crossing.run [] { context := { runId := "r1" } }).console =
        { context := { runId := "r2" } } := by
  obtain ⟨hconsole, hended, hfiltered⟩ := run_scoped crossing { context := { runId := "r1" } }
  rw [history_crossing] at hconsole hended hfiltered ⊢
  obtain ⟨hphase, hfile, hrunId⟩ := hended 4 _ _ rfl
  exact ⟨_, _, _, _, rfl, rfl, rfl, hfiltered 1 _ _ rfl, rfl, hrunId, hphase, hfile,
    hfiltered 5 _ _ rfl, hconsole⟩

end ApiDecl.Journal
