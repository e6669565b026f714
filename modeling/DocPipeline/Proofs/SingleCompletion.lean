import DocPipeline.Proofs.Execution
import DocPipeline.Run

/-!
# A callback completes once

A callback transformer shares its completion cell with whoever holds a handle.
However often and whenever completion is called, before the closure returns or
later, through whichever handle, at most the first call is accepted; and the
step gets one result, which the calls made before the return, the value
returned, and the first later call decide.
-/

namespace DocPipeline

structure Attempt where
  result : Completed
  answer : Except ProcessorError Unit

/-! ## Cells and their attempts -/

namespace Completion

/--
The state of a cell after some attempts, with so many handles out.  A closed
cell was closed before the first attempt.
-/
structure Tells (id : Nat) (name : String) (closed : Bool) (attempts : List Attempt)
    (handles : Nat) (c : Completion) : Prop where
  index : c.index = id
  plugin : c.plugin = name
  handles : c.handles = handles
  calls : c.calls = attempts.length + closed.toNat
  armed : c.armed = (attempts.isEmpty && !closed)
  delivered : c.delivered = if closed then none else attempts.head?.map Attempt.result
  answers : ∀ k attempt, attempts[k]? = some attempt → attempt.answer =
    if k = 0 ∧ closed = false then .ok () else .error (.multipleCompletion id name)

variable {index handles : Nat} {plugin : String} {closed : Bool}
  {attempts : List Attempt} {c : Completion}

theorem complete_of_armed (ready : c.armed = true) (result : Completed) :
    c.complete result =
      (.ok (), { c with calls := c.calls + 1, armed := false, delivered := some result }) := by
  simp [complete, ready]

theorem complete_of_spent (spent : c.armed = false) (result : Completed) :
    c.complete result = (.error c.multiple, { c with calls := c.calls + 1 }) := by
  simp [complete, spent]

theorem Tells.complete (h : c.Tells index plugin closed attempts handles)
    (result : Completed) :
    (c.complete result).2.Tells index plugin closed
      (attempts ++ [⟨result, (c.complete result).1⟩]) handles := by
  obtain ⟨rfl, rfl, rfl, hcalls, harmed, hdelivered, hanswers⟩ := h
  cases ready : c.armed with
  | true =>
      have fresh : attempts = [] ∧ closed = false := by simpa [ready] using harmed
      obtain ⟨rfl, rfl⟩ := fresh
      rw [complete_of_armed ready]
      refine ⟨rfl, rfl, rfl, by simp [hcalls], by simp, by simp, ?_⟩
      intro k attempt hk
      have hfirst : k = 0 ∧ ⟨result, .ok ()⟩ = attempt := by
        simpa [List.getElem?_singleton] using hk
      simp [← hfirst.2, hfirst.1]
  | false =>
      have spent : ¬ (attempts = [] ∧ closed = false) := by simpa [ready] using harmed
      rw [complete_of_spent ready]
      refine ⟨rfl, rfl, rfl, ?_, by simp [ready], ?_, ?_⟩
      · simp only [hcalls, List.length_append, List.length_singleton]
        omega
      · cases attempts with
        | nil => simpa [hdelivered] using spent
        | cons first rest => simp [hdelivered]
      · intro k attempt hk
        rw [List.getElem?_append] at hk
        split at hk
        · exact hanswers k attempt hk
        · next hlast =>
          have hrejected : k - attempts.length = 0 ∧ ⟨result, .error c.multiple⟩ = attempt := by
            simpa [List.getElem?_singleton] using hk
          have hlater : ¬ (k = 0 ∧ closed = false) := by
            rintro ⟨rfl, hopen⟩
            exact spent ⟨List.length_eq_zero_iff.1 (by omega), hopen⟩
          simp [← hrejected.2, hlater, multiple]

theorem Tells.retain (h : c.Tells index plugin closed attempts handles) :
    c.retain.Tells index plugin closed attempts (handles + 1) :=
  { h with handles := congrArg (· + 1) h.handles }

theorem Tells.release (h : c.Tells index plugin closed attempts handles) :
    c.release.Tells index plugin closed attempts (handles - 1) :=
  { h with handles := congrArg (· - 1) h.handles }

theorem Tells.close (h : c.Tells index plugin false [] handles) :
    c.close.Tells index plugin true [] handles where
  index := h.index
  plugin := h.plugin
  handles := h.handles
  calls := by simp [Completion.close, h.calls]
  armed := by simp [Completion.close]
  delivered := by simp [Completion.close, h.delivered]
  answers := by simp

theorem Tells.outcome (h : c.Tells index plugin false attempts handles) :
    c.outcome? =
      match attempts.head? with
      | some first => some (first.result.mapError (.transform index plugin))
      | none => if handles = 0 then some (.error (.abandoned index plugin)) else none := by
  obtain ⟨rfl, rfl, rfl, hcalls, harmed, hdelivered, hanswers⟩ := h
  cases attempts with
  | nil => by_cases none : c.handles = 0 <;> simp_all [outcome?]
  | cons first rest => simp_all [outcome?]

end Completion

/-! ## Cells in a world -/

namespace World

def Tells (w : World) (cell index : Nat) (plugin : String) (closed : Bool)
    (attempts : List Attempt) (handles : Nat) : Prop :=
  cell < w.cells.length ∧ (w.cell cell).Tells index plugin closed attempts handles

variable {w w' : World} {cell index handles : Nat} {plugin : String} {closed : Bool}
  {attempts : List Attempt}

theorem cell_setCell (h : cell < w.cells.length) (c : Completion) :
    (w.setCell cell c).cell cell = c := by
  simp [World.cell, setCell, h]

theorem Tells.congr (h : w.Tells cell index plugin closed attempts handles)
    (same : w'.cells[cell]? = w.cells[cell]?) :
    w'.Tells cell index plugin closed attempts handles := by
  obtain ⟨opened, told⟩ := h
  have found : w'.cells[cell]? = some w.cells[cell] :=
    same.trans (List.getElem?_eq_getElem opened)
  have unchanged : w'.cell cell = w.cell cell := by simp only [World.cell, same]
  refine ⟨(List.getElem?_eq_some_iff.1 found).1, ?_⟩
  rw [unchanged]
  exact told

theorem Tells.setCell {index' handles' : Nat} {plugin' : String} {closed' : Bool}
    {attempts' : List Attempt} {c : Completion} (h : cell < w.cells.length)
    (hc : c.Tells index' plugin' closed' attempts' handles') :
    (w.setCell cell c).Tells cell index' plugin' closed' attempts' handles' := by
  refine ⟨by simpa [World.setCell] using h, ?_⟩
  rw [cell_setCell h]
  exact hc

theorem Tells.complete (h : w.Tells cell index plugin closed attempts handles)
    (store : Namespace.Handle) (result : Completed) :
    (w.completing store cell (.complete result)).2.Tells cell index plugin closed
      (attempts ++ [⟨result, (w.completing store cell (.complete result)).1⟩]) handles :=
  Tells.setCell h.1 (h.2.complete result)

theorem Tells.retain (h : w.Tells cell index plugin closed attempts handles) :
    (w.retain cell).Tells cell index plugin closed attempts (handles + 1) :=
  Tells.setCell h.1 h.2.retain

theorem Tells.release (h : w.Tells cell index plugin closed attempts handles) :
    (w.release cell).Tells cell index plugin closed attempts (handles - 1) :=
  Tells.setCell h.1 h.2.release

theorem cells_work (store : Namespace.Handle) (op : Work.Op) (w : World) :
    (w.work store op).2.cells = w.cells := by
  cases op <;> rfl

end World

/-! ## Before the closure returns -/

namespace Calling

def attempt? : Program.Step Calling → Option Attempt
  | ⟨.now (.complete result), answer⟩ => some ⟨result, answer⟩
  | _ => none

def attempts (steps : List (Program.Step Calling)) : List Attempt :=
  steps.filterMap attempt?

def copies? : Program.Step Calling → Bool
  | ⟨.keep, _⟩ => true
  | ⟨.defer _, _⟩ => true
  | _ => false

def copies (steps : List (Program.Step Calling)) : Nat := steps.countP copies?

theorem attempts_append_quiet {steps : List (Program.Step Calling)}
    {step : Program.Step Calling} (quiet : attempt? step = none) :
    attempts (steps ++ [step]) = attempts steps := by
  simp [attempts, quiet]

theorem copies_append (steps : List (Program.Step Calling)) (step : Program.Step Calling) :
    copies (steps ++ [step]) = copies steps + (copies? step).toNat := by
  cases h : copies? step <;> simp [copies, h]

end Calling

namespace World

variable {w : World} {cell index : Nat} {plugin : String}
  {steps : List (Program.Step Calling)}

/--
The cell of a closure that is running: handles are held by the closure, by the
run, and by whoever got a copy.
-/
def Entered (w : World) (cell index : Nat) (plugin : String)
    (steps : List (Program.Step Calling)) : Prop :=
  w.Tells cell index plugin false (Calling.attempts steps) (2 + Calling.copies steps)

theorem Entered.of_quiet {step : Program.Step Calling}
    (h : w.Tells cell index plugin false (Calling.attempts steps)
      (2 + Calling.copies steps + (Calling.copies? step).toNat))
    (quiet : Calling.attempt? step = none) :
    w.Entered cell index plugin (steps ++ [step]) := by
  rw [Entered, Calling.attempts_append_quiet quiet, Calling.copies_append, ← Nat.add_assoc]
  exact h

theorem Entered.calling (h : w.Entered cell index plugin steps)
    (store : Namespace.Handle) (op : Calling.Op) :
    (w.calling store cell op).2.Entered cell index plugin
      (steps ++ [⟨op, (w.calling store cell op).1⟩]) := by
  cases op with
  | now op =>
      cases op with
      | work op =>
          have unchanged := congrArg (·[cell]?) (cells_work store op w)
          exact .of_quiet (Tells.congr h unchanged) rfl
      | complete result =>
          have told := Tells.complete h store result
          rw [Entered, Calling.copies_append, Calling.attempts, List.filterMap_append]
          exact told
      | inspect => exact .of_quiet h rfl
  | keep => exact .of_quiet (Tells.retain h) rfl
  | defer job => exact .of_quiet (Tells.retain h) rfl

end World

/-! ## When the closure returns -/

/-- Whether a closure fails without a call, which closes the cell. -/
def throws : List Attempt → Except Cause Unit → Bool
  | [], .error _ => true
  | _, _ => false

namespace Bound

variable (b : Bound)

/--
What the step gets from the calls made before the closure returned, the value it
returned, and the calls made since, with so many handles left; `none` while it
is to wait on.
-/
def verdict? (early : List Attempt) (returned : Except Cause Unit)
    (later : List Attempt) (handles : Nat) : Option Settled :=
  match early, returned, later with
  | _ :: _ :: _, _, _ => some (.error (.multipleCompletion b.index b.plugin))
  | [_], .error _, _ => some (.error (.multipleCompletion b.index b.plugin))
  | [], .error source, _ => some (.error (.transform b.index b.plugin source))
  | [first], .ok (), _ => some (first.result.mapError (.transform b.index b.plugin))
  | [], .ok (), first :: _ => some (first.result.mapError (.transform b.index b.plugin))
  | [], .ok (), [] =>
      if handles = 0 then some (.error (.abandoned b.index b.plugin)) else none

def announce (id : Nat) : Option Settled → Invocation
  | some result => .ready result
  | none => .waiting id

def conclude (id : Nat) (returned : Except Cause Unit) (w : World) : Invocation × World :=
  let w := w.release id
  let cell := w.cell id
  if 1 < cell.calls then (.ready (.error cell.multiple), w.release id)
  else
    match returned with
    | .error source =>
        if 0 < cell.calls then (.ready (.error cell.multiple), w.release id)
        else (.ready (.error (b.failed source)), (w.setCell id cell.close).release id)
    | .ok () =>
        let w := w.release id
        (announce id (w.outcome? id), w)

theorem conclude_tells {w : World} {id copies : Nat} {early : List Attempt}
    (returned : Except Cause Unit)
    (h : w.Tells id b.index b.plugin false early (2 + copies)) :
    (b.conclude id returned w).2.Tells id b.index b.plugin (throws early returned)
        early copies ∧
      (b.conclude id returned w).1 =
        announce id (b.verdict? early returned [] copies) := by
  have dropped : (w.release id).Tells id b.index b.plugin false early (1 + copies) := by
    have released := h.release
    rwa [show 2 + copies - 1 = 1 + copies by omega] at released
  have alone : ((w.release id).release id).Tells id b.index b.plugin false early copies := by
    have released := dropped.release
    rwa [Nat.add_sub_cancel_left] at released
  have calls : ((w.release id).cell id).calls = early.length := dropped.2.calls
  have multiple : ((w.release id).cell id).multiple =
      .multipleCompletion b.index b.plugin := by
    rw [Completion.multiple, dropped.2.index, dropped.2.plugin]
  simp only [conclude, calls, multiple]
  match early, returned with
  | _ :: _ :: _, _ =>
      rw [if_pos (by simp)]
      exact ⟨alone, rfl⟩
  | [first], .error source => exact ⟨alone, rfl⟩
  | [], .error source =>
      have closed := World.Tells.setCell dropped.1 dropped.2.close
      have released := closed.release
      rw [Nat.add_sub_cancel_left] at released
      exact ⟨released, rfl⟩
  | [first], .ok () =>
      have outcome := alone.2.outcome
      exact ⟨alone, congrArg (announce id) outcome⟩
  | [], .ok () =>
      have outcome := alone.2.outcome
      exact ⟨alone, congrArg (announce id) outcome⟩

variable (store : Namespace.Handle) (closure : Program Calling (Except Cause Unit))
  (w : World)

def entered : World :=
  (w.openCell { index := b.index, plugin := b.plugin, handles := 2 }).2

def steps : List (Program.Step Calling) :=
  closure.trace (World.calling store w.cells.length) (b.entered w)

def early : List Attempt := Calling.attempts (b.steps store closure w)

def copies : Nat := Calling.copies (b.steps store closure w)

def returned : Except Cause Unit :=
  (closure.run (World.calling store w.cells.length) (b.entered w)).1

theorem entered_tells : (b.entered w).Entered w.cells.length b.index b.plugin [] := by
  have opened : (b.entered w).cell w.cells.length =
      { index := b.index, plugin := b.plugin, handles := 2 } := by
    simp [World.cell, entered, World.openCell]
  refine ⟨by simp [entered, World.openCell], ?_⟩
  rw [opened]
  refine ⟨rfl, rfl, rfl, rfl, rfl, rfl, ?_⟩
  intro k attempt hk
  simp [Calling.attempts] at hk

theorem invokeCallback_eq :
    b.invokeCallback store closure w =
      b.conclude w.cells.length (b.returned store closure w)
        (closure.run (World.calling store w.cells.length) (b.entered w)).2 := by
  unfold invokeCallback conclude returned entered
  dsimp only [World.openCell]
  cases closure.run (World.calling store w.cells.length)
    { w with cells := w.cells ++ [{ index := b.index, plugin := b.plugin, handles := 2 }] } with
  | mk returned left =>
      dsimp only
      split
      · rfl
      · cases returned with
        | error source => rfl
        | ok done =>
            dsimp only
            split
            · next heq => rw [heq]; rfl
            · next heq => rw [heq]; rfl

theorem invokeCallback_tells :
    (b.invokeCallback store closure w).2.Tells w.cells.length b.index b.plugin
        (throws (b.early store closure w) (b.returned store closure w))
        (b.early store closure w) (b.copies store closure w) ∧
      (b.invokeCallback store closure w).1 =
        announce w.cells.length (b.verdict? (b.early store closure w)
          (b.returned store closure w) [] (b.copies store closure w)) := by
  rw [invokeCallback_eq]
  have left := closure.run_traced
    (P := fun steps left => World.Entered left w.cells.length b.index b.plugin steps)
    (fun _ op _ h => h.calling store op) (b.entered_tells w)
  exact b.conclude_tells _ left

end Bound

/-! ## After the closure has returned -/

inductive Move where
  | call (attempt : Attempt)
  | clone
  | drop

namespace Move

def attempt? : Move → Option Attempt
  | .call attempt => some attempt
  | _ => none

def attempts (moves : List Move) : List Attempt := moves.filterMap attempt?

def handles : Nat → List Move → Nat
  | n, [] => n
  | n, .call _ :: moves => handles n moves
  | n, .clone :: moves => handles (n + 1) moves
  | n, .drop :: moves => handles (n - 1) moves

end Move

namespace World

/--
The world goes on while holders of handles to a cell make these moves.  Each
move takes a handle not dropped yet; between the moves, whatever leaves the cell
alone may happen.
-/
inductive Moves (cell : Nat) : World → List Move → World → Prop
  | refl (w) : Moves cell w [] w
  | call {w w' moves} (store : Namespace.Handle) (result : Completed)
      (held : 0 < (w.cell cell).handles)
      (rest : Moves cell (w.completing store cell (.complete result)).2 moves w') :
      Moves cell w
        (.call ⟨result, (w.completing store cell (.complete result)).1⟩ :: moves) w'
  | clone {w w' moves} (held : 0 < (w.cell cell).handles)
      (rest : Moves cell (w.retain cell) moves w') : Moves cell w (.clone :: moves) w'
  | drop {w w' moves} (held : 0 < (w.cell cell).handles)
      (rest : Moves cell (w.release cell) moves w') : Moves cell w (.drop :: moves) w'
  | elsewhere {w v w' moves} (same : v.cells[cell]? = w.cells[cell]?)
      (rest : Moves cell v moves w') : Moves cell w moves w'

variable {cell index handles : Nat} {plugin : String} {closed : Bool}
  {attempts : List Attempt} {w w' : World} {moves : List Move}

theorem Moves.tells (h : Moves cell w moves w')
    (told : w.Tells cell index plugin closed attempts handles) :
    w'.Tells cell index plugin closed (attempts ++ Move.attempts moves)
      (Move.handles handles moves) := by
  induction h generalizing attempts handles with
  | refl w => simpa [Move.attempts, Move.handles] using told
  | call store result held rest ih =>
      have later := ih (told.complete store result)
      rw [List.append_assoc] at later
      exact later
  | clone held rest ih => exact ih told.retain
  | drop held rest ih => exact ih told.release
  | elsewhere same rest ih => exact ih (told.congr same)

theorem Moves.trans {v : World} {more : List Move} (h : Moves cell w moves v)
    (next : Moves cell v more w') : Moves cell w (moves ++ more) w' := by
  induction h with
  | refl w => exact next
  | call store result held rest ih => exact .call store result held (ih next)
  | clone held rest ih => exact .clone held (ih next)
  | drop held rest ih => exact .drop held (ih next)
  | elsewhere same rest ih => exact .elsewhere same (ih next)

theorem moves_run {α : Type} (store : Namespace.Handle) (p : Program Completing α)
    (told : w.Tells cell index plugin closed attempts (handles + 1)) :
    ∃ moves attempts', Moves cell w moves (p.run (completing store cell) w).2 ∧
      (p.run (completing store cell) w).2.Tells cell index plugin closed attempts'
        (handles + 1) := by
  induction p generalizing w attempts with
  | done a => exact ⟨[], attempts, .refl w, told⟩
  | perform op next ih =>
      have held : 0 < (w.cell cell).handles := by rw [told.2.handles]; omega
      cases op with
      | work op =>
          have same := congrArg (·[cell]?) (cells_work store op w)
          obtain ⟨moves, attempts', rest, after⟩ := ih _ (told.congr same)
          exact ⟨moves, attempts', .elsewhere same rest, after⟩
      | complete result =>
          obtain ⟨moves, attempts', rest, after⟩ := ih _ (told.complete store result)
          exact ⟨_, attempts', .call store result held rest, after⟩
      | inspect => exact ih _ told

theorem moves_runJob {job : Job}
    (told : w.Tells job.cell index plugin closed attempts (handles + 1)) :
    ∃ moves, Moves job.cell w (moves ++ [.drop]) (w.runJob job) := by
  obtain ⟨moves, attempts', run, after⟩ := moves_run job.store job.body told
  have held : 0 < ((job.body.run (completing job.store job.cell) w).2.cell
      job.cell).handles := by
    rw [after.2.handles]
    omega
  exact ⟨moves, run.trans (.drop held (.refl _))⟩

theorem Moves.none_of_handles (h : Moves cell w moves w')
    (told : w.Tells cell index plugin closed attempts 0) : moves = [] := by
  induction h with
  | refl w => rfl
  | call store result held rest ih => exact absurd told.2.handles (by omega)
  | clone held rest ih => exact absurd told.2.handles (by omega)
  | drop held rest ih => exact absurd told.2.handles (by omega)
  | elsewhere same rest ih => exact ih (told.congr same)

end World

def Invocation.settled? : Invocation → World → Option Settled
  | .ready result, _ => some result
  | .waiting cell, w => w.outcome? cell
  | .task _, _ => none

theorem Bound.settled_of_moves {b : Bound} {early : List Attempt}
    {returned : Except Cause Unit} {id copies : Nat} {w w' : World} {moves : List Move}
    (told : w.Tells id b.index b.plugin (throws early returned) early copies)
    (h : World.Moves id w moves w') :
    (announce id (b.verdict? early returned [] copies)).settled? w' =
      b.verdict? early returned (Move.attempts moves) (Move.handles copies moves) := by
  match early, returned with
  | _ :: _ :: _, _ => rfl
  | [first], .error source => rfl
  | [], .error source => rfl
  | [first], .ok () => rfl
  | [], .ok () =>
      have outcome := (h.tells told).2.outcome
      cases copies with
      | zero =>
          rw [h.none_of_handles told]
          rfl
      | succ copies =>
          refine Eq.trans outcome ?_
          rw [List.nil_append]
          cases Move.attempts moves <;> rfl

/--
The completion contract of a callback.  Its closure runs with a new cell; then
holders of handles make any moves.  Of all calls, before the return and after,
the first is accepted unless the closure failed before it, and the others are
rejected; what the step gets is the verdict on the calls and the value returned.
-/
theorem callback_completes_once (index : Nat) (plugin : String)
    (closure : Document → Program Calling (Except Cause Unit))
    (store : Namespace.Handle) (d : Document) (w w' : World) (moves : List Move)
    (later : World.Moves w.cells.length
      ((⟨index, plugin, .callback closure⟩ : Bound).invoke store d w).2 moves w') :
    let b : Bound := ⟨index, plugin, .callback closure⟩
    let called := w.record (.invoked index plugin)
    let early := b.early store (closure d) called
    let returned := b.returned store (closure d) called
    let copies := b.copies store (closure d) called
    (∀ k attempt, (early ++ Move.attempts moves)[k]? = some attempt →
      attempt.answer =
        if k = 0 ∧ throws early returned = false then .ok ()
        else .error (.multipleCompletion index plugin)) ∧
    (b.invoke store d w).1.settled? w' =
      b.verdict? early returned (Move.attempts moves) (Move.handles copies moves) := by
  intro b called early returned copies
  obtain ⟨told, step⟩ := b.invokeCallback_tells store (closure d) called
  have settled := Bound.settled_of_moves told later
  rw [← step] at settled
  exact ⟨(later.tells told).2.answers, settled⟩

/-- A handle is kept, and completes twice after the return. -/
theorem kept_handle_completes_once :
    let b : Bound := ⟨3, "later", .callback fun _ => do Calling.keep; return .ok ()⟩
    let store : Namespace.Handle := ⟨0⟩
    let w := (b.invoke store default {}).2
    let first := w.completing store 0 (.complete (.ok default))
    let second := first.2.completing store 0 (.complete (.error (.reason "again")))
    first.1 = .ok () ∧ second.1 = .error (.multipleCompletion 3 "later") ∧
      (b.invoke store default {}).1.settled? (second.2.release 0) =
        some (.ok default) := by
  have contract := callback_completes_once 3 "later"
    (fun _ => do Calling.keep; return .ok ()) ⟨0⟩ default {} _ _
    (.call ⟨0⟩ (.ok default) (by decide)
      (.call ⟨0⟩ (.error (.reason "again")) (by decide) (.drop (by decide) (.refl _))))
  exact ⟨contract.1 0 _ rfl, contract.1 1 _ rfl, contract.2⟩

end DocPipeline
