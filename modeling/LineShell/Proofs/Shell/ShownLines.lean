import LineShell.Proofs.Shell.Calling
import LineShell.Proofs.Shell.CommandFiles

/-!
# Showing the lines of a file

The command for files can show each line before it runs it. That adds to what is written and changes
nothing else (`Builtin.lines_only_shown`): the same handlers are called, the same lines run up to
the same failure, and the shell is left the same. What a line of the file writes is written behind
the line itself; and if such a line runs a file in its turn, only its own parameters decide whether
the lines of that file are shown.

## How the proof goes

`Shell.execUntil` is what the lines of a file come to, up to the first that fails; no showing is
spoken of there. A run of the command is told by it as a whole (`Builtin.run_runFile_eq`): the
result and the shell without the flag, and what is seen line by line. The proof is an induction on
the lines, with the shell that the lines before left.
-/

namespace LineShell

open Text.Utf8

variable {fs : Files} {call : Call → Shell → Outcome Bool} {s : Shell}
  {path line : String} {text : List Char} {lines : List String} {os : List (Outcome Bool)}

/-! ## The lines that are run -/

namespace Shell

variable {exec : String → Shell → Outcome Bool}

/-- What lines come to that are run one after the other, up to the first that fails. -/
def execUntil (exec : String → Shell → Outcome Bool) (s : Shell) (lines : List String) :
    List (Outcome Bool) :=
  let os := execEach exec s lines
  os.take (os.findIdx (·.failure?.isSome) + 1)

theorem execUntil_cons_of_ok {b : Bool} (h : (exec line s).result = .ok b) :
    execUntil exec s (line :: lines) =
      exec line s :: execUntil exec (exec line s).shell lines := by
  have hgo : (exec line s).failure?.isSome = false := by rw [Outcome.failure?, h]; rfl
  simp only [execUntil, execEach, List.findIdx_cons, hgo, cond_false, List.take_succ_cons]

theorem execUntil_cons_of_error {f : Failure} (h : (exec line s).result = .error f) :
    execUntil exec s (line :: lines) = [exec line s] := by
  have hstop : (exec line s).failure?.isSome = true := by rw [Outcome.failure?, h]; rfl
  simp only [execUntil, execEach, List.findIdx_cons, hstop, cond_true, List.take_succ_cons,
    List.take_zero]

theorem length_execEach (exec : String → Shell → Outcome Bool) (s : Shell) (lines : List String) :
    (execEach exec s lines).length = lines.length := by
  induction lines generalizing s with
  | nil => rfl
  | cons line lines ih => exact congrArg (· + 1) (ih (exec line s).shell)

theorem length_execUntil_le (exec : String → Shell → Outcome Bool) (s : Shell)
    (lines : List String) : (execUntil exec s lines).length ≤ lines.length := by
  rw [← length_execEach exec s lines]
  exact List.length_take_le' ..

/-- The shell that the last of some runs left, if there was any. -/
def leftBy (s : Shell) (os : List (Outcome Bool)) : Shell := os.foldl (fun _ o => o.shell) s

end Shell

/-- What runs come to as a whole: the first failure counts. -/
def Outcome.verdict (os : List (Outcome Bool)) : Except Failure Unit :=
  match os.findSome? failure? with
  | some f => .error f
  | none => .ok ()

namespace Builtin

/-! ## What is seen of the lines -/

/-- What is seen of a line: the line itself, if lines are shown, and then what it comes to. -/
def seenOf (echo : Bool) (line : String) (o : Outcome Bool) : List Event :=
  (if echo then [.output s!"// {line}\n"] else []) ++ o.events

/-- What is seen of lines that come to `os`. -/
def seenOfAll (echo : Bool) (lines : List String) (os : List (Outcome Bool)) : List Event :=
  (List.zipWith (seenOf echo) lines os).flatten

theorem seenOfAll_cons (echo : Bool) (o : Outcome Bool) :
    seenOfAll echo (line :: lines) (o :: os) = seenOf echo line o ++ seenOfAll echo lines os := rfl

/-- What is seen besides texts does not depend on whether the lines are shown. -/
theorem filterMap_seenOfAll {α : Type} {f : Event → Option α} (hf : ∀ t, f (.output t) = none)
    (echo : Bool) (h : os.length ≤ lines.length) :
    (seenOfAll echo lines os).filterMap f = (os.flatMap Outcome.events).filterMap f := by
  induction os generalizing lines with
  | nil => cases lines <;> rfl
  | cons o os ih =>
    cases lines with
    | nil => cases h
    | cons line lines =>
      have hline : (seenOf echo line o).filterMap f = o.events.filterMap f := by
        cases echo with
        | true => simp only [seenOf, if_true, List.singleton_append, List.filterMap_cons, hf]
        | false => rfl
      rw [seenOfAll_cons, List.filterMap_append, hline, ih (Nat.le_of_succ_le_succ h),
        List.flatMap_cons, List.filterMap_append]

/-- If no lines are shown, nothing is seen but what they come to. -/
theorem seenOfAll_false (h : os.length ≤ lines.length) :
    seenOfAll false lines os = os.flatMap Outcome.events := by
  induction os generalizing lines with
  | nil => cases lines <;> rfl
  | cons o os ih =>
    cases lines with
    | nil => cases h
    | cons line lines => rw [seenOfAll_cons, ih (Nat.le_of_succ_le_succ h)]; rfl

theorem written_output_cons (t : String) (es : List Event) :
    Event.written (.output t :: es) = t ++ Event.written es := String.join_cons

theorem written_flatMap_events (os : List (Outcome Bool)) :
    Event.written (os.flatMap Outcome.events) =
      String.join (os.map fun o => Event.written o.events) := by
  induction os with
  | nil => rfl
  | cons o os ih =>
    rw [List.flatMap_cons, Event.written_append, ih, List.map_cons, String.join_cons]

/-- If lines are shown, what each of them writes is written behind it. -/
theorem written_seenOfAll_true (lines : List String) (os : List (Outcome Bool)) :
    Event.written (seenOfAll true lines os) = String.join
      (List.zipWith (fun line o => s!"// {line}\n" ++ Event.written o.events) lines os) := by
  induction os generalizing lines with
  | nil => cases lines <;> rfl
  | cons o os ih =>
    cases lines with
    | nil => rfl
    | cons line lines =>
      have hline : Event.written (seenOf true line o) =
          s!"// {line}\n" ++ Event.written o.events := written_output_cons _ o.events
      rw [seenOfAll_cons, Event.written_append, hline, ih, List.zipWith_cons_cons,
        String.join_cons]

/-! ## Running the file -/

/-- What a file comes to whose lines came to `os`. -/
def fileOutcome (echo : Bool) (path : String) (lines : List String) (s : Shell)
    (os : List (Outcome Bool)) : Outcome Unit :=
  ⟨Outcome.verdict os, s.leftBy os, announcement path ++ seenOfAll echo lines os⟩

theorem run_execAll_eq (echo : Bool) (lines : List String) (s : Shell) :
    (Program.execAll echo lines .done).run fs call s =
      let os := Shell.execUntil (fun line => call (.line line)) s lines
      ⟨Outcome.verdict os, s.leftBy os, seenOfAll echo lines os⟩ := by
  induction lines generalizing s with
  | nil => rfl
  | cons line lines ih =>
    have hshown : (Program.execAll echo (line :: lines) .done).run fs call s =
        ((Program.exec line fun _ => .execAll echo lines .done).run fs call s).after
          (if echo then [.output s!"// {line}\n"] else []) := by
      cases echo <;> rfl
    rw [hshown]
    cases hr : (call (.line line) s).result with
    | error f =>
      rw [Program.run_exec_of_error hr, Shell.execUntil_cons_of_error hr]
      have hfail : Outcome.verdict [call (.line line) s] = .error f := by
        simp only [Outcome.verdict, List.findSome?_cons, Outcome.failure?, hr]
      simp only [hfail, seenOfAll, List.zipWith_cons_cons, List.zipWith_nil_right,
        List.flatten_cons, List.flatten_nil, List.append_nil]
      rfl
    | ok b =>
      rw [Program.run_exec_of_ok hr, Shell.execUntil_cons_of_ok hr]
      have hgo (os) : Outcome.verdict (call (.line line) s :: os) = Outcome.verdict os := by
        simp only [Outcome.verdict, List.findSome?_cons, Outcome.failure?, hr]
      simp only [ih, hgo, seenOfAll_cons, seenOf, List.append_assoc]
      rfl

/-- A run of a file that can be read comes to what its lines come to. -/
theorem run_runFile_eq (h : fs.readText path = .ok text) (echo : Bool) (s : Shell) :
    (runFile path echo).run fs call s =
      fileOutcome echo path (linesOf text) s
        (Shell.execUntil (fun line => call (.line line)) s (linesOf text)) := by
  rw [run_runFile h, run_execAll_eq, fileOutcome, announcement_of_ne (Files.ne_of_readText h)]
  rfl

/-- What the outcome of a run that shows its lines has to do with that of one that does not, if the
lines come to `os`. -/
structure OnlyShows (path : String) (lines : List String) (s : Shell) (os : List (Outcome Bool))
    (shown plain : Outcome Unit) : Prop where
  /-- Both fail, if they do, with what the last line that was run failed with. -/
  result : shown.result = Outcome.verdict os ∧ plain.result = Outcome.verdict os
  shell : shown.shell = s.leftBy os ∧ plain.shell = s.leftBy os
  calls : shown.events.filterMap Event.called? = plain.events.filterMap Event.called?
  records : Event.records shown.events = Event.records plain.events
  notes : shown.events.filterMap Event.noted? = plain.events.filterMap Event.noted?
  files : shown.events.filterMap Event.opened? = plain.events.filterMap Event.opened?
  /-- Line by line, all that is seen of it stands behind what is seen of the lines before. -/
  events : plain.events = announcement path ++ os.flatMap Outcome.events ∧
    shown.events = announcement path ++ (List.zipWith
      (fun line o => .output s!"// {line}\n" :: o.events) lines os).flatten
  written : Event.written plain.events =
      s!"Executing file: {path}\n" ++ String.join (os.map fun o => Event.written o.events) ∧
    Event.written shown.events = s!"Executing file: {path}\n" ++ String.join
      (List.zipWith (fun line o => s!"// {line}\n" ++ Event.written o.events) lines os)

theorem onlyShows_fileOutcome (hne : path ≠ "") (s : Shell) (h : os.length ≤ lines.length) :
    OnlyShows path lines s os (fileOutcome true path lines s os)
      (fileOutcome false path lines s os) := by
  have hsame {α : Type} {f : Event → Option α} (hf : ∀ t, f (.output t) = none) :
      (fileOutcome true path lines s os).events.filterMap f =
        (fileOutcome false path lines s os).events.filterMap f := by
    rw [fileOutcome, fileOutcome, List.filterMap_append, List.filterMap_append,
      filterMap_seenOfAll hf true h, filterMap_seenOfAll hf false h]
  have hwritten : Event.written (announcement path) = s!"Executing file: {path}\n" := by
    rw [announcement_of_ne hne, written_output_cons]
    exact String.append_empty
  refine ⟨⟨rfl, rfl⟩, ⟨rfl, rfl⟩, hsame fun _ => rfl, hsame fun _ => rfl, hsame fun _ => rfl,
    hsame fun _ => rfl, ⟨?_, rfl⟩, ?_, ?_⟩
  · rw [fileOutcome, seenOfAll_false h]
  · rw [fileOutcome, seenOfAll_false h, Event.written_append, hwritten, written_flatMap_events]
  · rw [fileOutcome, Event.written_append, hwritten, written_seenOfAll_true]

/-- **Showing the lines of a file only adds them to what is written**, each in front of what it
writes itself, whatever running a line means. So it is for the command for files and for the file
that a shell is started with. A line that runs a file in its turn, however deep, comes to what its
own parameters say. -/
theorem lines_only_shown (call : Call → Shell → Outcome Bool) (s : Shell)
    (hread : fs.readText path = .ok text) :
    let lines := linesOf text
    (∀ p q : Params, p.get? "filename" = some path → q.get? "filename" = some path →
      saysYes (p.get? "print-lines") false = true → saysYes (q.get? "print-lines") false = false →
      OnlyShows path lines s (Shell.execUntil (fun line => call (.line line)) s lines)
        ((exec.body p).run fs call s) ((exec.body q).run fs call s)) ∧
    (∃ shown plain : Outcome Unit,
      OnlyShows path lines s (Shell.execUntil (Shell.execAt fs Shell.maxDepth) s lines)
        shown plain ∧
      let news := [Event.logged ⟨.info, .startup, s!"Running startup script: {path}"⟩]
      s.runScript fs path true = shown.after news ∧
        s.runScript fs path false = plain.after news) ∧
    ∀ (depth : Nat) (line : String) (l : Line.Layout), l.chars = line.toList →
      s.commands.get? (String.ofList l.name.val) = some exec.handler →
      let args := s.substitute (Assoc.ofList l.pairs)
      args.get? "filename" = some path →
      s.execAt fs (depth + 1) line =
        ((fileOutcome (saysYes (args.get? "print-lines") false) path lines s
          (Shell.execUntil (Shell.execAt fs depth) s lines)).map fun _ => true).after
          [.called (String.ofList l.name.val) args] := by
  intro lines
  have hne := Files.ne_of_readText hread
  have hbody {p : Params} {call : Call → Shell → Outcome Bool}
      (hp : p.get? "filename" = some path) : (exec.body p).run fs call s =
        fileOutcome (saysYes (p.get? "print-lines") false) path lines s
          (Shell.execUntil (fun line => call (.line line)) s lines) := by
    rw [body_exec hp hne, run_runFile_eq hread]
  have hshows (run : String → Shell → Outcome Bool) :=
    onlyShows_fileOutcome hne s (Shell.length_execUntil_le run s lines)
  refine ⟨fun p q hp hq hyes hno => ?_, ⟨_, _, hshows _, ?_, ?_⟩, ?_⟩
  · rw [hbody hp, hbody hq, hyes, hno]
    exact hshows _
  · rw [Shell.runScript, Shell.perform, hbody rfl]
    rfl
  · rw [Shell.runScript, Shell.perform, hbody rfl]
    rfl
  · intro depth line l hl hget args hargs
    rw [Shell.execAt_of_layout l hl, Shell.dispatchWith_of_known hget]
    exact congrArg (fun o : Outcome Unit => (o.map fun _ => true).after _) (hbody hargs)

/-- Files with one that runs the other, which shows its lines, and then fails. -/
def nested : Files :=
  ((∅ : Files).put ["f"] (.file (encode
    "setvar x=1\n\nexec filename=g print-lines\nboom\necho text=never".toList))).put ["g"]
    (.file (encode "echo text=[x]".toList))

theorem lines_only_shown_nested :
    let s := (Shell.standard "" false).register "boom" (.failing (.io "boom"))
    let p : Params := Assoc.ofList [("filename", "f"), ("print-lines", "yes")]
    let q : Params := Assoc.ofList [("filename", "f")]
    let os := Shell.execUntil (Shell.execAt nested Shell.maxDepth) s
      ["setvar x=1", "", "exec filename=g print-lines", "boom", "echo text=never"]
    (os.map Outcome.failure? = [none, none, none, some (.io "boom")]) ∧
    OnlyShows "f" ["setvar x=1", "", "exec filename=g print-lines", "boom", "echo text=never"] s os
      (s.perform nested (exec.body p)) (s.perform nested (exec.body q)) ∧
    Event.written (s.perform nested (exec.body p)).events =
      "Executing file: f\n// setvar x=1\n// \n// exec filename=g print-lines\n" ++
        "Executing file: g\n// echo text=[x]\n1\n// boom\n" := by
  intro s p q os
  have hread : nested.readText "f" = .ok
      "setvar x=1\n\nexec filename=g print-lines\nboom\necho text=never".toList := by
    decide +kernel
  refine ⟨by decide +kernel, ?_, by decide +kernel⟩
  obtain ⟨hshows, -, -⟩ := lines_only_shown (Shell.callAt nested Shell.maxDepth) s hread
  exact hshows p q rfl rfl (by decide) rfl

end Builtin

end LineShell
