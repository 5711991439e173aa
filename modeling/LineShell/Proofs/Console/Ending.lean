import LineShell.Proofs.Console.Reading
import LineShell.Proofs.Shell.Alike
import LineShell.Proofs.Text.Utf8
import LineShell.Shell.Handlers

/-!
# What ends a loop

A loop in the caller's place reads and runs lines until it finds its shell stopped, or the input at
its end, or until something fails. What fails decides what becomes of it: that the input cannot be
read is told in one record and ends the loop and no more; any other failure of a read, and every
failure of a line, whatever its kind, leaves the loop as it is (`Breaks`). Either way the lines that
were run before keep their effects, nothing more is read, and the shell does not run afterwards.

## How the proofs go

`Runs` is the part of a run in which nothing ends: some lines, read and run one after the other. A
run of the loop goes along it (`run_of_runs`), and what breaks the loop behind it decides the rest
(`run_of_breaks`). Conversely every run comes to a place where something ends it or where it waits
(`exists_runs`), since each line that is read is pending no longer.
-/

namespace LineShell

namespace Input

variable {i : Input}

/-- Only a source that waits makes a reader wait. -/
theorem tail_of_waiting (h : i.next.1 = .waiting) : i.tail = .waits := by
  unfold next at h
  split at h
  · cases h
  · cases h
  · cases h
  · cases ht : i.tail <;> simp_all [Tail.touch, Tail.next]

/-- Reading does not make a source wait. -/
theorem tail_of_next (h : i.next.2.tail = .waits) : i.tail = .waits := by
  have htail : i.next.2.tail = i.tail.touch := by
    unfold next
    split <;> rfl
  rw [htail] at h
  cases ht : i.tail <;> simp_all [Tail.touch]

end Input

namespace Loop

/-! ## Lines, and what ends them -/

/-- Lines are read and run one after the other, and none of them fails: from a shell and an input
on, with what is seen of it, to the shell and the input behind the last of them. -/
inductive Runs (exec : String → Shell → Outcome Bool) :
    Shell → Input → List Event → Shell → Input → Prop
  | nil {s i} : Runs exec s i [] s i
  | cons {s i text b es t j} : s.running = true → i.next.1 = .line text →
    (exec (lineOf text) s).result = .ok b →
    Runs exec (exec (lineOf text) s).shell i.next.2 es t j →
    Runs exec s i (promptEvents s ++ (exec (lineOf text) s).events ++ es) t j

/-- The record that the input cannot be read. -/
def unreadable (f : Failure) : Event :=
  Shell.record .error s!"An error occurred while reading input: {f.message}"

/-- What breaks a loop off that is about to read: with which failure, if the loop does not keep it
to itself, on which shell, and what is seen of it. -/
inductive Breaks (exec : String → Shell → Outcome Bool) (s : Shell) (i : Input) :
    Option Failure → Shell → List Event → Prop
  /-- The input cannot be read. -/
  | unread {f} : i.next.1 = .failed f → f.endsInput = true → Breaks exec s i none s [unreadable f]
  /-- A read fails with something else. -/
  | raised {f} : i.next.1 = .failed f → f.endsInput = false → Breaks exec s i (some f) s []
  /-- A line fails, with anything. -/
  | failed {text f} : i.next.1 = .line text → (exec (lineOf text) s).result = .error f →
    Breaks exec s i (some f) (exec (lineOf text) s).shell (exec (lineOf text) s).events

/-! ## Running -/

section Running

variable {exec : String → Shell → Outcome Bool} {s t u : Shell} {i j : Input} {es : List Event}
  {f : Option Failure}

theorem Runs.tail_of_waits (h : Runs exec s i es t j) (hj : j.tail = .waits) : i.tail = .waits := by
  induction h with
  | nil => exact hj
  | cons _ _ _ _ ih => exact Input.tail_of_next (ih hj)

/-- A loop goes along the lines. -/
theorem run_of_runs (h : Runs exec s i es t j) :
    run exec ⟨.checking, s, i, []⟩ = (run exec ⟨.checking, t, j, []⟩).after es := by
  induction h with
  | nil => rfl
  | cons hs hi hr _ ih =>
    rw [run_checking _ _ _ _ hs, run_reading_of_line _ _ _ _ (Prod.ext hi rfl),
      run_executing_of_ok _ _ _ _ hr, ih]
    simp [after]

theorem run_of_breaks (hs : s.running = true) (h : Breaks exec s i f u es) :
    run exec ⟨.checking, s, i, []⟩ = ⟨.ended f, { u with running := false }, i.next.2,
      promptEvents s ++ es ++ [Shell.record .debug "Input loop stopped"]⟩ := by
  rw [run_checking _ _ _ _ hs]
  cases h with
  | @unread f hi hf =>
    rw [run_of_step exec _ ⟨.ending none, s, i.next.2, [unreadable f]⟩
      (by simp [step, hi, hf, unreadable]), run_ending]
    simp [after]
  | @raised f hi hf =>
    rw [run_of_step exec _ ⟨.ending (some f), s, i.next.2, []⟩ (by simp [step, hi, hf]), run_ending]
    simp [after]
  | failed hi hr =>
    rw [run_reading_of_line _ _ _ _ (Prod.ext hi rfl), run_executing_of_error _ _ _ _ hr]
    simp [after]

/-- Every run comes to a place where the shell is stopped, the input ends or waits, or something
breaks the loop off. -/
theorem exists_runs (exec : String → Shell → Outcome Bool) (s : Shell) (i : Input) :
    ∃ es t j, Runs exec s i es t j ∧ (t.running = false ∨ t.running = true ∧
      (j.next.1 = .ended ∨ j.next.1 = .waiting ∨ ∃ f u es', Breaks exec t j f u es')) := by
  induction hn : i.pending.length using Nat.strongRecOn generalizing s i with
  | _ n ih =>
    cases hs : s.running with
    | false => exact ⟨[], s, i, .nil, .inl hs⟩
    | true =>
      cases hi : i.next.1 with
      | ended => exact ⟨[], s, i, .nil, .inr ⟨hs, .inl hi⟩⟩
      | waiting => exact ⟨[], s, i, .nil, .inr ⟨hs, .inr (.inl hi)⟩⟩
      | failed f =>
        refine ⟨[], s, i, .nil, .inr ⟨hs, .inr (.inr ?_)⟩⟩
        cases hf : f.endsInput with
        | true => exact ⟨none, s, _, .unread hi hf⟩
        | false => exact ⟨some f, s, _, .raised hi hf⟩
      | line text =>
        cases hr : (exec (lineOf text) s).result with
        | error f => exact ⟨[], s, i, .nil, .inr ⟨hs, .inr (.inr ⟨some f, _, _, .failed hi hr⟩)⟩⟩
        | ok b =>
          -- there is one line less to come
          obtain ⟨es, t, j, hruns, hend⟩ :=
            ih _ (hn ▸ Input.length_next_of_line hi) (exec (lineOf text) s).shell i.next.2 rfl
          exact ⟨_, t, j, .cons hs hi hr hruns, hend⟩

end Running

end Loop

/-! ## In the caller's place -/

/-- The shell at which an action runs a loop in the caller's place, if it does. -/
def Action.loopShell? (s : Shell) : Action → Option Shell
  | .run => some s
  | .start runAsync =>
    if runAsync.getD s.runAsync then none else some { s with runAsync := false, running := true }
  | _ => none

namespace Console

open Loop

/-- What an answer is when a loop in the caller's place is over: with which failure, if any, on
which shell, with which input left, and what was seen between its first and its last record. -/
structure Over (f : Option Failure) (s : Shell) (i : Input) (es : List Event) (a : Answer) :
    Prop where
  reply : a.reply = f.elim (.ok .nothing) .error
  shell : a.console.shell = { s with running := false }
  input : a.console.input = i
  events : a.events = Shell.record .debug "Input loop started" :: es ++
    [Shell.record .debug "Input loop stopped"]

theorem Over.not_running {f : Option Failure} {s : Shell} {i : Input} {es : List Event} {a : Answer}
    {p : Prop} (h : Over f s i es a) (hr : a.console.shell.running = true) : p := by
  rw [h.shell] at hr
  cases hr

theorem Over.ne_error {s : Shell} {i : Input} {es : List Event} {a : Answer}
    (h : Over none s i es a) (f : Failure) : a.reply ≠ .error f := by
  rw [h.reply]
  exact nofun

variable {fs : Files} {c : Console} {act : Action} {s : Shell}

theorem perform_of_loopShell? (h : act.loopShell? c.shell = some s) :
    c.perform fs act = runLoop (Shell.exec fs) { c with shell := s } := by
  cases act with
  | run =>
    obtain rfl := Option.some.inj h
    rfl
  | start runAsync =>
    rw [Action.loopShell?, Option.ite_none_left_eq_some, Bool.not_eq_true] at h
    obtain ⟨hasync, h⟩ := h
    obtain rfl := Option.some.inj h
    simp only [perform, start, hasync, Bool.false_eq_true, if_false]
  | _ => cases h

theorem over_of_run {exec : String → Shell → Outcome Bool} {f : Option Failure} {u : Shell}
    {j : Input} {es : List Event}
    (h : run exec ⟨.checking, c.shell, c.input, []⟩ = ⟨.ended f, { u with running := false }, j,
      es ++ [Shell.record .debug "Input loop stopped"]⟩) :
    Over f u j es (c.runLoop exec) := by
  have hall : runAll exec c.shell c.input = ⟨.ended f, { u with running := false }, j,
      Shell.record .debug "Input loop started" :: es ++
        [Shell.record .debug "Input loop stopped"]⟩ := by
    rw [runAll, Loop.start, run_events, h]
    rfl
  unfold runLoop
  simp only [hall]
  cases f <;> exact ⟨rfl, rfl, rfl, rfl⟩

/-- **What fails decides how a loop ends.** Behind any lines that were run without a failure, an
input that cannot be read is told in one record and ends the loop; any other failure of a read, and
every failure of a line, is the answer as it is. What was done before stays, nothing more is read,
and no failure is the answer but one of these. However the loop ends, the shell does not run
afterwards: where it still runs, the loop has not ended but waits, at a source that makes it. -/
theorem loop_broken_off (fs : Files) (h : act.loopShell? c.shell = some s) :
    (∀ {es t j f u es'}, Runs (Shell.exec fs) s c.input es t j → t.running = true →
      Breaks (Shell.exec fs) t j f u es' →
      Over f u j.next.2 (es ++ (promptEvents t ++ es')) (c.perform fs act)) ∧
    (∀ f, (c.perform fs act).reply = .error f → ∃ es t j u es',
      Runs (Shell.exec fs) s c.input es t j ∧ t.running = true ∧
        Breaks (Shell.exec fs) t j (some f) u es') ∧
    ((c.perform fs act).console.shell.running = true → c.input.tail = .waits ∧ ∃ es t j,
      Runs (Shell.exec fs) s c.input es t j ∧ t.running = true ∧ j.next.1 = .waiting) := by
  rw [perform_of_loopShell? h]
  have hbroken {es t j f u es'} (hruns : Runs (Shell.exec fs) s c.input es t j)
      (ht : t.running = true) (hb : Breaks (Shell.exec fs) t j f u es') :
      Over f u j.next.2 (es ++ (promptEvents t ++ es'))
        (runLoop (Shell.exec fs) { c with shell := s }) := by
    refine over_of_run ?_
    rw [run_of_runs hruns, run_of_breaks ht hb]
    simp [Loop.after]
  refine ⟨hbroken, ?_⟩
  -- the place to which the run comes
  obtain ⟨es, t, j, hruns, ht | ⟨ht, hend | hwait | ⟨f, u, es', hb⟩⟩⟩ :=
    exists_runs (Shell.exec fs) s c.input
  · have hover : Over none t j es (runLoop (Shell.exec fs) { c with shell := s }) := by
      refine over_of_run ?_
      rw [run_of_runs hruns, run_checking_of_stopped _ _ _ _ ht]
      rfl
    exact ⟨fun f hf => absurd hf (hover.ne_error f), hover.not_running⟩
  · have hover : Over none t j.next.2
        (es ++ promptEvents t ++ [Shell.record .debug "End of input"])
        (runLoop (Shell.exec fs) { c with shell := s }) := by
      refine over_of_run ?_
      rw [run_of_runs hruns, run_checking _ _ _ _ ht,
        run_reading_of_ended _ _ _ _ (Prod.ext hend rfl)]
      simp [Loop.after]
    exact ⟨fun f hf => absurd hf (hover.ne_error f), hover.not_running⟩
  · have hwaits : c.input.tail = .waits := hruns.tail_of_waits (Input.tail_of_waiting hwait)
    refine ⟨fun f hf => ?_, fun _ => ⟨hwaits, es, t, j, hruns, ht, hwait⟩⟩
    have hrun : run (Shell.exec fs) ⟨.checking, s, c.input, []⟩ =
        ⟨.reading, t, j, es ++ promptEvents t⟩ := by
      rw [run_of_runs hruns, run_checking _ _ _ _ ht,
        run_of_step_eq_none _ _ (by simp [step, hwait])]
      simp [Loop.after]
    simp only [runLoop, runAll, Loop.start, run_events, hrun, Loop.after] at hf
    cases hf
  · have hover := hbroken hruns ht hb
    refine ⟨fun g hg => ?_, hover.not_running⟩
    rw [hover.reply] at hg
    cases f with
    | none => cases hg
    | some f =>
      obtain rfl := Except.error.inj hg
      exact ⟨es, t, j, u, es', hruns, ht, hb⟩

/-- A file of lines, the second of which fails on a shell with a command that does. -/
def halfGood : Files :=
  (∅ : Files).put ["f"] (.file (Text.Utf8.encode "setvar a=1\nbad\nsetvar b=2\n".toList))

/-- A shell with a command that fails as a read can fail. -/
def frail : Shell := (Shell.standard "> " false).register "bad" (.failing (.io "no space"))

/-- One failure in two places: where it comes from a line in a file, it is the answer; where it
comes from a read, it is told and ends the loop. -/
theorem broken_off_by_line_and_by_read :
    let reads : List Read := [.line "setvar x=1\n".toList, .line "exec filename=f\n".toList,
      .line "echo\n".toList]
    let reads' : List Read := [.line "setvar x=1\n".toList, .fails (.io "no space"),
      .line "echo\n".toList]
    let a := (Console.mk frail ⟨reads, .ends⟩ []).perform halfGood (.start none)
    let a' := (Console.mk frail ⟨reads', .ends⟩ []).perform halfGood (.start none)
    Action.loopShell? frail (.start none) = some { frail with running := true } ∧
      (a.reply = .error (.io "no space") ∧ a.console.shell.vars.keys = ["x", "a"] ∧
        a.console.shell.running = false ∧ a.console.input = ⟨[.line "echo\n".toList], .ends⟩) ∧
      (a'.reply = .ok .nothing ∧ a'.console.shell.vars.keys = ["x"] ∧
        a'.events.filter (· = unreadable (.io "no space")) = [unreadable (.io "no space")] ∧
        a'.console.shell.running = false ∧
        a'.console.input = ⟨[.line "echo\n".toList], .ends⟩) := by
  intro reads reads' a a'
  let s : Shell := { frail with running := true }
  let t := (s.exec halfGood (lineOf "setvar x=1\n".toList)).shell
  have h : Action.loopShell? frail (.start none) = some s := rfl
  have ht : t.running = true := by decide +kernel
  have hfirst : (s.exec halfGood (lineOf "setvar x=1\n".toList)).result = .ok true := by
    decide +kernel
  have hsecond : (t.exec halfGood (lineOf "exec filename=f\n".toList)).result =
      .error (.io "no space") := by
    decide +kernel
  obtain ⟨hover, -⟩ :=
    loop_broken_off halfGood (c := ⟨frail, ⟨reads, .ends⟩, []⟩) h
  obtain ⟨hover', -⟩ :=
    loop_broken_off halfGood (c := ⟨frail, ⟨reads', .ends⟩, []⟩) h
  have hline := hover (.cons rfl rfl hfirst .nil) ht (.failed rfl hsecond)
  have hread := hover' (.cons rfl rfl hfirst .nil) ht (.unread rfl rfl)
  refine ⟨h, ⟨hline.reply, ?_, ?_, hline.input⟩, hread.reply, ?_, ?_, ?_, hread.input⟩
  · rw [hline.shell]
    decide +kernel
  · rw [hline.shell]
  · rw [hread.shell]
    decide +kernel
  · rw [hread.events]
    decide +kernel
  · rw [hread.shell]

end Console

end LineShell
