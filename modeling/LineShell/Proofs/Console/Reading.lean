import LineShell.Console.Basic
import LineShell.Proofs.Shell.Frame

/-!
# A loop reads its lines one after the other

What a whole run of a loop over a text comes to: it runs the lines in the order in which they stand,
shows the prompt before each of them, and stops behind the first that stops the shell or fails. No
line is left out, run twice or read too early.

## How the proofs go

`Loop.run` takes all steps at once, so every step has an equation of its own (`run_checking` and so
on). From them comes one round of the loop (`run_round`), and from that, by induction on the lines,
the whole run (`run_lines`). The lines run on whatever shell the lines before left; `execEach` is
that sequence of outcomes without any loop.
-/

namespace LineShell

/-! ## Lines without a loop -/

namespace Outcome

/-- The failure of a run, if it failed. -/
def failure? {α : Type} (o : Outcome α) : Option Failure :=
  match o.result with
  | .error f => some f
  | .ok _ => none

/-- Whether a loop goes no further behind a line with this outcome. -/
def halts (o : Outcome Bool) : Bool := o.failure?.isSome || !o.shell.running

end Outcome

namespace Shell

/-- What lines come to that are run one after the other, each on the shell that the one before
left. -/
def execEach (exec : String → Shell → Outcome Bool) (s : Shell) : List String → List (Outcome Bool)
  | [] => []
  | line :: lines => exec line s :: execEach exec (exec line s).shell lines

/-- The shell that lines leave which are run one after the other. -/
def afterEach (exec : String → Shell → Outcome Bool) (s : Shell) (lines : List String) : Shell :=
  lines.foldl (fun s line => (exec line s).shell) s

end Shell

namespace Loop

/-- How many lines a loop runs that have these outcomes: up to the first behind which it does not go
on, else all. -/
def reach (os : List (Outcome Bool)) : Nat := min (os.findIdx Outcome.halts + 1) os.length

/-- A line as it is run: without what ends it. -/
def lineOf (text : List Char) : String := String.ofList (Text.dropLineEnd text)

/-! ## One step at a time -/

/-- What one step does to a loop, but for what is seen of it. -/
inductive Stepped (exec : String → Shell → Outcome Bool) : Loop → Loop → Prop
  | look {s i es es'} : s.running = true →
    Stepped exec ⟨.checking, s, i, es⟩ ⟨.reading, s, i, es'⟩
  | leave {s i es es'} : s.running = false →
    Stepped exec ⟨.checking, s, i, es⟩ ⟨.ending none, s, i, es'⟩
  | read {s i es es' text} : i.next.1 = .line text →
    Stepped exec ⟨.reading, s, i, es⟩ ⟨.executing (lineOf text), s, i.next.2, es'⟩
  | close {s i es es' f} : (∀ text, i.next.1 ≠ .line text) →
    Stepped exec ⟨.reading, s, i, es⟩ ⟨.ending f, s, i.next.2, es'⟩
  | pass {line s i es es'} :
    Stepped exec ⟨.executing line, s, i, es⟩ ⟨.checking, (exec line s).shell, i, es'⟩
  | fail {line s i es es' f} :
    Stepped exec ⟨.executing line, s, i, es⟩ ⟨.ending f, (exec line s).shell, i, es'⟩
  | finish {f s i es es'} :
    Stepped exec ⟨.ending f, s, i, es⟩ ⟨.ended f, { s with running := false }, i, es'⟩

theorem stepped_of_step {exec : String → Shell → Outcome Bool} {l l' : Loop}
    (h : l.step exec = some l') : Stepped exec l l' := by
  obtain ⟨p, s, i, es⟩ := l
  cases p with
  | checking =>
    simp only [step] at h
    split at h
    · next hr => cases h; exact .look hr
    · next hr => cases h; exact .leave (by simpa using hr)
  | reading =>
    simp only [step] at h
    split at h
    · next text hn => cases h; exact .read hn
    · next hn => cases h; exact .close (by simp [hn])
    · next f hn => split at h <;> cases h <;> exact .close (by simp [hn])
    · cases h
  | executing line =>
    simp only [step] at h
    split at h
    · cases h; exact .pass
    · cases h; exact .fail
  | ending f => cases h; exact .finish
  | ended f => cases h

section Steps

variable (exec : String → Shell → Outcome Bool) (s : Shell) (i : Input) (es : List Event)

theorem run_of_step (l l' : Loop) (h : l.step exec = some l') :
    l.run exec = (l'.run exec).after l'.events := by
  rw [run]
  split
  · next hn => rw [h] at hn; cases hn
  · next l'' hs => rw [h, Option.some.injEq] at hs; rw [hs]

theorem run_of_step_eq_none (l : Loop) (h : l.step exec = none) :
    l.run exec = { l with events := [] } := by
  rw [run]
  split
  · rfl
  · next hs => rw [h] at hs; cases hs

/-- What was seen before does not matter for what comes. -/
theorem run_events (p : Phase) : run exec ⟨p, s, i, es⟩ = run exec ⟨p, s, i, []⟩ := by
  cases h : step exec ⟨p, s, i, es⟩ with
  | none =>
    rw [run_of_step_eq_none exec ⟨p, s, i, es⟩ h, run_of_step_eq_none exec ⟨p, s, i, []⟩ h]
  | some l => rw [run_of_step exec ⟨p, s, i, es⟩ l h, run_of_step exec ⟨p, s, i, []⟩ l h]

/-- A loop that is about to end ends. -/
theorem run_ending (f : Option Failure) :
    run exec ⟨.ending f, s, i, es⟩
      = ⟨.ended f, { s with running := false }, i, [Shell.record .debug "Input loop stopped"]⟩ := by
  rw [run_of_step exec _ (finish f s i []) rfl, finish, run_of_step_eq_none exec _ rfl]
  rfl

/-- A loop that finds its shell stopped ends. -/
theorem run_checking_of_stopped (h : s.running = false) :
    run exec ⟨.checking, s, i, es⟩
      = ⟨.ended none, { s with running := false }, i,
        [Shell.record .debug "Input loop stopped"]⟩ := by
  rw [run_of_step exec _ ⟨.ending none, s, i, []⟩ (by simp [step, h]), run_ending]
  rfl

/-- A loop that finds its shell running shows the prompt and reads. -/
theorem run_checking (h : s.running = true) :
    run exec ⟨.checking, s, i, es⟩
      = (run exec ⟨.reading, s, i, []⟩).after (promptEvents s) := by
  rw [run_of_step exec _ ⟨.reading, s, i, promptEvents s⟩ (by simp [step, h]), run_events]

/-- At the end of the input a loop ends. -/
theorem run_reading_of_ended {i' : Input} (h : i.next = (.ended, i')) :
    run exec ⟨.reading, s, i, es⟩
      = ⟨.ended none, { s with running := false }, i',
        [Shell.record .debug "End of input", Shell.record .debug "Input loop stopped"]⟩ := by
  rw [run_of_step exec _ ⟨.ending none, s, i', [Shell.record .debug "End of input"]⟩
    (by simp [step, h]), run_ending]
  rfl

/-- A loop runs the line that it has read, without its end. -/
theorem run_reading_of_line {text : List Char} {i' : Input} (h : i.next = (.line text, i')) :
    run exec ⟨.reading, s, i, es⟩ = run exec ⟨.executing (lineOf text), s, i', []⟩ := by
  rw [run_of_step exec _ ⟨.executing (lineOf text), s, i', []⟩ (by simp [step, h, lineOf])]
  rfl

/-- Behind a line that does not fail a loop looks at its shell again. -/
theorem run_executing_of_ok {line : String} {b : Bool} (h : (exec line s).result = .ok b) :
    run exec ⟨.executing line, s, i, es⟩
      = (run exec ⟨.checking, (exec line s).shell, i, []⟩).after (exec line s).events := by
  rw [run_of_step exec _ ⟨.checking, (exec line s).shell, i, (exec line s).events⟩
    (by simp [step, h]), run_events]

/-- A line that fails ends its loop. -/
theorem run_executing_of_error {line : String} {f : Failure}
    (h : (exec line s).result = .error f) :
    run exec ⟨.executing line, s, i, es⟩
      = ⟨.ended (some f), { (exec line s).shell with running := false }, i,
        (exec line s).events ++ [Shell.record .debug "Input loop stopped"]⟩ := by
  rw [run_of_step exec _ ⟨.ending (some f), (exec line s).shell, i, (exec line s).events⟩
    (by simp [step, h]), run_ending]
  rfl

end Steps

/-! ## One round -/

section Rounds

variable {exec : String → Shell → Outcome Bool} {s : Shell} {i i' : Input} {text : List Char}

/-- One round with a line behind which the loop goes on. -/
theorem run_round (hs : s.running = true) (hi : i.next = (.line text, i'))
    (hgo : (exec (lineOf text) s).halts = false) :
    run exec ⟨.checking, s, i, []⟩
      = (run exec ⟨.checking, (exec (lineOf text) s).shell, i', []⟩).after
        (promptEvents s ++ (exec (lineOf text) s).events) := by
  rw [run_checking exec s i [] hs, run_reading_of_line exec s i [] hi]
  cases hr : (exec (lineOf text) s).result with
  | error f => simp [Outcome.halts, Outcome.failure?, hr] at hgo
  | ok b =>
    rw [run_executing_of_ok exec s i' [] hr]
    simp [after]

/-- The last round: with a line behind which the loop does not go on. -/
theorem run_last_round (hs : s.running = true) (hi : i.next = (.line text, i'))
    (hstop : (exec (lineOf text) s).halts = true) :
    run exec ⟨.checking, s, i, []⟩
      = ⟨.ended (exec (lineOf text) s).failure?,
        { (exec (lineOf text) s).shell with running := false }, i',
        promptEvents s ++ (exec (lineOf text) s).events ++
          [Shell.record .debug "Input loop stopped"]⟩ := by
  rw [run_checking exec s i [] hs, run_reading_of_line exec s i [] hi]
  cases hr : (exec (lineOf text) s).result with
  | error f =>
    rw [run_executing_of_error exec s i' [] hr]
    simp [after, Outcome.failure?, hr]
  | ok b =>
    have hrun : (exec (lineOf text) s).shell.running = false := by
      simpa [Outcome.halts, Outcome.failure?, hr] using hstop
    rw [run_executing_of_ok exec s i' [] hr, run_checking_of_stopped _ _ _ _ hrun]
    simp [after, Outcome.failure?, hr]

end Rounds

/-! ## The whole run -/

theorem reach_cons_of_halts {o : Outcome Bool} (h : o.halts = true) (os : List (Outcome Bool)) :
    reach (o :: os) = 1 := by
  simp [reach, List.findIdx_cons, h]

theorem reach_cons_of_not_halts {o : Outcome Bool} (h : o.halts = false)
    (os : List (Outcome Bool)) : reach (o :: os) = reach os + 1 := by
  simp only [reach, List.findIdx_cons, h, cond_false, List.length_cons]
  omega

/-- What is shown before a line depends on the prompt alone. -/
theorem promptEvents_congr {s t : Shell} (h : t.prompt = s.prompt) :
    promptEvents t = promptEvents s := by
  rw [promptEvents, promptEvents, h]

/-- A whole run over lines: the lines up to the first behind which the loop does not go on, each
with the prompt in front of it. -/
theorem run_lines {exec : String → Shell → Outcome Bool}
    (hp : ∀ line s, (exec line s).shell.prompt = s.prompt) (texts : List (List Char))
    (hne : ∀ t ∈ texts, t ≠ []) (s : Shell) (hs : s.running = true) :
    run exec ⟨.checking, s, ⟨texts.map .line, .ends⟩, []⟩ =
      let os := Shell.execEach exec s (texts.map lineOf)
      let k := reach os
      ⟨.ended ((os.take k).findSome? Outcome.failure?),
        { Shell.afterEach exec s ((texts.take k).map lineOf) with running := false },
        ⟨(texts.drop k).map .line, .ends⟩,
        (os.take k).flatMap (fun o => promptEvents s ++ o.events) ++
          (if os.any Outcome.halts then [] else
            promptEvents s ++ [Shell.record .debug "End of input"]) ++
          [Shell.record .debug "Input loop stopped"]⟩ := by
  induction texts generalizing s with
  | nil =>
    rw [List.map_nil, run_checking exec s _ [] hs, run_reading_of_ended exec s _ [] rfl]
    simp [after, Shell.execEach, Shell.afterEach]
    rfl
  | cons text texts ih =>
    have hnext : Input.next ⟨(text :: texts).map .line, .ends⟩
        = (.line text, ⟨texts.map .line, .ends⟩) := by
      obtain ⟨c, cs, rfl⟩ := List.exists_cons_of_ne_nil (hne text List.mem_cons_self)
      rfl
    rw [List.map_cons (f := lineOf), Shell.execEach]
    -- what becomes of the first line decides whether there is another round
    cases hh : (exec (lineOf text) s).halts with
    | true =>
      rw [run_last_round hs hnext hh]
      simp only [reach_cons_of_halts hh, List.take_succ_cons, List.take_zero, List.findSome?_cons,
        List.findSome?_nil, List.map_cons, List.map_nil, List.drop_succ_cons, List.drop_zero,
        List.flatMap_cons, List.flatMap_nil, List.any_cons, hh, Bool.true_or, if_true,
        List.append_nil]
      cases hf : (exec (lineOf text) s).failure? <;> rfl
    | false =>
      have hrun : (exec (lineOf text) s).shell.running = true := by
        simp only [Outcome.halts, Bool.or_eq_false_iff, Bool.not_eq_false'] at hh
        exact hh.2
      have hfail : (exec (lineOf text) s).failure? = none := by
        simp only [Outcome.halts, Bool.or_eq_false_iff, Option.isSome_eq_false_iff,
          Option.isNone_iff_eq_none] at hh
        exact hh.1
      rw [run_round hs hnext hh, ih (fun t ht => hne t (List.mem_cons_of_mem _ ht)) _ hrun]
      simp only [after, promptEvents_congr (hp (lineOf text) s), reach_cons_of_not_halts hh,
        List.take_succ_cons, List.findSome?_cons, hfail, List.map_cons, List.drop_succ_cons,
        List.flatMap_cons, List.any_cons, hh, Bool.false_or, List.append_assoc]
      rfl

/-- A run over a text is a run over its lines, behind a record of its beginning. -/
theorem runAll_ofText (exec : String → Shell → Outcome Bool) (s : Shell) (text : List Char) :
    runAll exec s (.ofText text) =
      (run exec ⟨.checking, s, ⟨(Text.splitKeeping text).map .line, .ends⟩, []⟩).after
        [Shell.record .debug "Input loop started"] := by
  rw [runAll, start, Input.ofText, run_events]

/-- The prompt is shown as it is. -/
theorem written_promptEvents (s : Shell) : Event.written (promptEvents s) = s.prompt := by
  rw [promptEvents]
  split
  · next h => rw [h, Event.written_nil]
  · simp [Event.written, Event.output?]

/-- What lines with the prompt in front of each of them write. -/
theorem written_rounds (s : Shell) (os : List (Outcome Bool)) :
    Event.written (os.flatMap fun o => promptEvents s ++ o.events)
      = String.join (os.map fun o => s.prompt ++ Event.written o.events) := by
  induction os with
  | nil => rfl
  | cons o os ih =>
    rw [List.flatMap_cons, Event.written_append, ih, Event.written_append, written_promptEvents,
      List.map_cons, String.join_cons]

end Loop

/-! ## Lines that nobody answers to -/

namespace Shell

/-- Whether a line is one of the grammar, with a command that is registered. -/
def answers (s : Shell) (line : String) : Bool :=
  (Line.parse line).isValid && ((Line.parse line).command.bind s.commands.get?).isSome

/-- A line that nobody answers to changes nothing and writes nothing. -/
theorem exec_of_not_answers (fs : Files) {s : Shell} {line : String} (h : s.answers line = false) :
    (s.exec fs line).result = .ok false ∧ (s.exec fs line).shell = s ∧
      Event.written (s.exec fs line).events = "" := by
  rw [exec, maxDepth, execAt, callAt]
  by_cases hv : (Line.parse line).isValid = true
  · have hget : (Line.parse line).command.bind s.commands.get? = none := by
      simpa [answers, hv] using h
    have hbind : ((Line.parse line).command.bind fun name =>
        (s.commands.get? name).map (name, ·)) = none := by
      rw [Option.bind_eq_none_iff] at hget ⊢
      intro name hname
      rw [hget name hname, Option.map_none]
    simp only [hv, if_true, dispatchWith, hbind, true_and]
    rfl
  · simp only [Bool.not_eq_true] at hv
    simp only [hv, Bool.false_eq_true, if_false, true_and]
    cases (Line.parse line).diagnosis line <;> rfl

end Shell

/-! ## Starting in the caller's place -/

namespace Console

/-- **A loop in the caller's place runs the lines of its input in order, and stops behind the first
that stops the shell or fails.** What is seen is what is seen of these lines, calls and records
included, in their order; the prompt stands in front of every read; what follows the last line that
is run stays unread; the shell does not run afterwards. A line that nobody answers to does not end
the loop. -/
theorem start_reads_in_order (fs : Files) (c : Console) (runAsync : Option Bool) (text : List Char)
    (hi : c.input = .ofText text) (hasync : runAsync.getD c.shell.runAsync = false) :
    let s := { c.shell with runAsync := false, running := true }
    let lines := Text.splitKeeping text
    let os := Shell.execEach (Shell.exec fs) s (lines.map Loop.lineOf)
    let k := Loop.reach os
    let a := c.perform fs (.start runAsync)
    a.reply = (match (os.take k).findSome? Outcome.failure? with
      | some f => .error f
      | none => .ok .nothing) ∧
    a.console.shell = { Shell.afterEach (Shell.exec fs) s ((lines.take k).map Loop.lineOf) with
      running := false } ∧
    a.console.input = ⟨(lines.drop k).map .line, .ends⟩ ∧
    a.events = Shell.record .debug "Input loop started" ::
      (os.take k).flatMap (fun o => Loop.promptEvents s ++ o.events) ++
        (if os.any Outcome.halts then [] else
          Loop.promptEvents s ++ [Shell.record .debug "End of input"]) ++
        [Shell.record .debug "Input loop stopped"] ∧
    Event.written a.events
      = String.join ((os.take k).map fun o => c.shell.prompt ++ Event.written o.events) ++
        (if os.any Outcome.halts then "" else c.shell.prompt) ∧
    ∀ (t : Shell) (line : String), t.running = true → t.answers line = false →
      (t.exec fs line).halts = false := by
  intro s lines os k a
  -- no line changes the prompt, so the first one stands for all
  have hprompt : ∀ line t, (Shell.exec fs line t).shell.prompt = t.prompt :=
    fun line t => (keeps_sameLoop.exec line t).prompt
  have hrun : a = runLoop (Shell.exec fs) { c with shell := s } := by
    simp only [a, perform, start, hasync, Bool.false_eq_true, if_false]
    rfl
  have hloop := Loop.runAll_ofText (Shell.exec fs) s text
  rw [Loop.run_lines hprompt _ (fun _ => Text.splitKeeping_ne_nil) s rfl, ← hi] at hloop
  rw [runLoop] at hrun
  simp only [hloop] at hrun
  rw [hrun]
  refine ⟨?_, rfl, rfl, rfl, ?_, ?_⟩
  · simp only [Loop.after]
    cases (os.take k).findSome? Outcome.failure? <;> rfl
  · have hquiet : ∀ level message, Event.written [Shell.record level message] = "" :=
      fun _ _ => rfl
    simp only [Loop.after, Event.written_append, Loop.written_rounds, hquiet, String.empty_append,
      String.append_empty]
    congr 1
    cases os.any Outcome.halts with
    | true => rfl
    | false =>
      rw [if_neg Bool.false_ne_true, if_neg Bool.false_ne_true, Event.written_append,
        Loop.written_promptEvents, hquiet, String.append_empty]
  · intro t line ht hline
    obtain ⟨hresult, hshell, -⟩ := Shell.exec_of_not_answers fs hline
    simp [Outcome.halts, Outcome.failure?, hresult, hshell, ht]

/-- A line that nobody answers to is passed over, `exit` is the last that is run, and the rest is
left. -/
theorem start_reads_up_to_exit :
    let c : Console := ⟨Shell.standard "> " false, .ofText "nobody\nexit\necho\n".toList, []⟩
    let a := c.perform ∅ (.start none)
    c.input = .ofText "nobody\nexit\necho\n".toList ∧
      (none : Option Bool).getD c.shell.runAsync = false ∧
      a.console.input = ⟨[.line "echo\n".toList], .ends⟩ ∧ Event.written a.events = "> > " := by
  intro c a
  obtain ⟨-, -, hinput, -, hwritten, -⟩ := start_reads_in_order ∅ c none
    "nobody\nexit\necho\n".toList rfl rfl
  refine ⟨rfl, rfl, ?_, ?_⟩
  · rw [hinput]
    decide +kernel
  · rw [hwritten]
    decide +kernel

end Console

end LineShell
