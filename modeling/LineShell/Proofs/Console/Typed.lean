import LineShell.Proofs.Console.Reading
import LineShell.Proofs.Shell.Alike
import LineShell.Proofs.Shell.CommandFiles
import LineShell.Proofs.Text.Lines
import LineShell.Shell.Handlers

/-!
# A file that is run, and the same text typed

A file of lines can be run by the command for it, or its text can be given to the loop as if it were
typed. Both run lines one after the other, and both begin with the same text, but each has its own
way to cut it into lines. They get the same lines exactly if no line boundary but line feeds and
carriage returns occurs in the text; and then everything that is seen of the two runs is the same,
but for what they say of themselves.

## How the proof goes

* Both runs come to `Shell.execEach` over their lines: the loop by `Loop.run_lines_of_go`, the
  command by `Program.run_execAll`.
* The loop runs on a shell that is running, and the command on one that perhaps is not. A run cannot
  tell the difference, if no handler asks (`Shell.Alike.indistinct`).
-/

namespace LineShell

variable {fs : Files} {call : Call → Shell → Outcome Bool} {s : Shell}

/-! ## The lines of a text -/

/-- The lines of a text as they come from a stream, without what ends them. -/
def typedLines (text : List Char) : List String := (Input.linesOf text).map Loop.lineOf

/-- A file has the lines of a stream exactly if no other line boundary occurs in it. -/
theorem linesOf_eq_typedLines_iff {text : List Char} : Builtin.linesOf text = typedLines text ↔
    ∀ c ∈ text, Text.isBoundary c = true → Text.isLineEnd c = true := by
  have htyped : typedLines text =
      ((Input.linesOf text).map Text.dropLineEnd).map String.ofList := by
    rw [List.map_map]
    rfl
  rw [Builtin.linesOf, htyped, List.map_inj_right fun _ _ h => String.ofList_injective h]
  exact Text.splitLines_unifyNewlines_iff

/-- A reader of the bytes of a text has the lines of that text. -/
theorem Input.ofBytes_encode (text : List Char) :
    Input.ofBytes (Text.Utf8.encode text) = ⟨(Input.linesOf text).map .line, .ends⟩ := by
  simp only [Input.ofBytes, Text.Utf8.decodeFrom_encode]

/-! ## Lines that all go on -/

namespace Outcome

theorem failure?_of_go {o : Outcome Bool} (h : o.halts = false) : o.failure? = none := by
  rw [halts, Bool.or_eq_false_iff] at h
  simpa using h.1

theorem result_of_failure? {α : Type} {o : Outcome α} (h : o.failure? = none) :
    ∃ a, o.result = .ok a := by
  unfold failure? at h
  split at h
  · cases h
  · next a ha => exact ⟨a, ha⟩

end Outcome

/-- A program that runs lines which do not fail goes on behind them. -/
theorem Program.run_execAll {lines : List String} {next : Program}
    (h : ∀ o ∈ Shell.execEach (fun line => call (.line line)) s lines, o.failure? = none) :
    (Program.execAll false lines next).run fs call s =
      (next.run fs call (Shell.afterEach (fun line => call (.line line)) s lines)).after
        ((Shell.execEach (fun line => call (.line line)) s lines).flatMap Outcome.events) := by
  induction lines generalizing s with
  | nil => rfl
  | cons line lines ih =>
    rw [Shell.execEach, List.forall_mem_cons] at h
    obtain ⟨b, hb⟩ := Outcome.result_of_failure? h.1
    have hcons : Program.execAll false (line :: lines) next =
        .exec line fun _ => Program.execAll false lines next := rfl
    rw [hcons, Program.run_exec_of_ok hb, ih h.2, Outcome.after_after, Shell.execEach,
      List.flatMap_cons]
    rfl

namespace Loop

/-- Behind none of the lines a loop stops, so it runs all. -/
theorem reach_of_go {os : List (Outcome Bool)} (h : ∀ o ∈ os, o.halts = false) :
    reach os = os.length := by
  have hnone : os.findIdx Outcome.halts = os.length := List.findIdx_eq_length.2 h
  rw [reach, hnone]
  omega

/-- A loop over lines behind none of which it stops: it comes to the end of the input. -/
theorem run_lines_of_go {exec : String → Shell → Outcome Bool}
    (hp : ∀ line s, (exec line s).shell.prompt = s.prompt) (texts : List (List Char))
    (hne : ∀ t ∈ texts, t ≠ []) (hs : s.running = true)
    (hgo : ∀ o ∈ Shell.execEach exec s (texts.map lineOf), o.halts = false) :
    run exec ⟨.checking, s, ⟨texts.map .line, .ends⟩, []⟩ =
      ⟨.ended none, { Shell.afterEach exec s (texts.map lineOf) with running := false },
        ⟨[], .ends⟩,
        (Shell.execEach exec s (texts.map lineOf)).flatMap (fun o => promptEvents s ++ o.events) ++
          (promptEvents s ++ [Shell.record .debug "End of input"]) ++
          [Shell.record .debug "Input loop stopped"]⟩ := by
  have hlength : (Shell.execEach exec s (texts.map lineOf)).length = texts.length := by
    clear hgo hs hne
    induction texts generalizing s with
    | nil => rfl
    | cons t texts ih => rw [List.map_cons, Shell.execEach, List.length_cons, ih, List.length_cons]
  have hfail : (Shell.execEach exec s (texts.map lineOf)).findSome? Outcome.failure? = none :=
    List.findSome?_eq_none_iff.2 fun o ho => Outcome.failure?_of_go (hgo o ho)
  have hany : (Shell.execEach exec s (texts.map lineOf)).any Outcome.halts = false :=
    List.any_eq_false.2 fun o ho => by simp [hgo o ho]
  have htake : (Shell.execEach exec s (texts.map lineOf)).take texts.length =
      Shell.execEach exec s (texts.map lineOf) := by rw [← hlength, List.take_length]
  rw [run_lines hp texts hne s hs]
  simp only [reach_of_go hgo, hlength, htake, hfail, hany, List.take_length, List.drop_length,
    List.map_nil, if_neg Bool.false_ne_true]

end Loop

/-! ## Running a file -/

/-- The command for files runs the lines of its file, if it does not show them and none fails. -/
theorem Builtin.run_exec {params : Params} {path : String} {text : List Char}
    (hname : params.get? "filename" = some path) (hne : path ≠ "")
    (hquiet : saysYes (params.get? "print-lines") false = false)
    (htext : fs.readText path = .ok text)
    (hgo : ∀ o ∈ Shell.execEach (fun line => call (.line line)) s (linesOf text),
      o.failure? = none) :
    (Builtin.exec.body params).run fs call s =
      ⟨.ok (), Shell.afterEach (fun line => call (.line line)) s (linesOf text),
        .output s!"Executing file: {path}\n" :: .opened path ::
          (Shell.execEach (fun line => call (.line line)) s (linesOf text)).flatMap
            Outcome.events⟩ := by
  rw [body_exec hname hne, hquiet, run_runFile htext, Program.run_execAll hgo, Program.run,
    Outcome.after_after]
  simp [Outcome.after]

/-! ## Typing a text -/

/-- A loop without a prompt runs the lines of a text, if it does not stop behind any of them. -/
theorem Loop.runAll_encode {text : List Char} (hprompt : s.prompt = "") (hs : s.running = true)
    (hgo : ∀ o ∈ Shell.execEach (Shell.exec fs) s (typedLines text), o.halts = false) :
    runAll (Shell.exec fs) s (.ofBytes (Text.Utf8.encode text)) =
      ⟨.ended none,
        { Shell.afterEach (Shell.exec fs) s (typedLines text) with running := false },
        ⟨[], .ends⟩,
        Shell.record .debug "Input loop started" ::
          (Shell.execEach (Shell.exec fs) s (typedLines text)).flatMap Outcome.events ++
          [Shell.record .debug "End of input", Shell.record .debug "Input loop stopped"]⟩ := by
  have hempty : promptEvents s = [] := if_pos hprompt
  have hkept : ∀ line t, (Shell.exec fs line t).shell.prompt = t.prompt :=
    fun line t => (keeps_sameLoop.exec line t).prompt
  have hlines : ∀ t ∈ Input.linesOf text, t ≠ [] := fun _ => Text.splitKeeping_ne_nil
  rw [runAll, start, run_events, Input.ofBytes_encode,
    run_lines_of_go hkept _ hlines hs hgo]
  simp [after, hempty, typedLines]

/-! ## Both -/

namespace Console

/-- The shell that a loop in the caller's place begins with. -/
def started (s : Shell) : Shell := { s with runAsync := false, running := true }

/-- **A file is run as if its text were typed, exactly if no line boundary but line feeds and
carriage returns occurs in it.** That is when the command for files and the loop have the same lines
to run; and then both leave the same variables and commands, and what is seen of them is the same,
one thing after the other: what the lines write, log and call. Handlers are taken not to ask about
the loop, since there is none for the command. -/
theorem file_as_typed (fs : Files) (s : Shell) (params : Params) {path : String}
    {text : List Char} (hunaware : s.Unaware .loop)
    (hname : params.get? "filename" = some path) (hne : path ≠ "")
    (hquiet : saysYes (params.get? "print-lines") false = false)
    (hfile : fs.readBytes path = .ok (Text.Utf8.encode text)) (hprompt : s.prompt = "")
    (hgo : ∀ o ∈ Shell.execEach (Shell.exec fs) (started s) (typedLines text), o.halts = false) :
    let c : Console := ⟨s, .ofBytes (Text.Utf8.encode text), []⟩
    let filed := c.perform fs (.execute .exec params)
    let typed := c.perform fs (.start (some false))
    (Builtin.linesOf text = typedLines text ↔
      ∀ x ∈ text, Text.isBoundary x = true → Text.isLineEnd x = true) ∧
    (Builtin.linesOf text = typedLines text →
      filed.reply = .ok .nothing ∧ typed.reply = .ok .nothing ∧
      filed.console.shell.vars = typed.console.shell.vars ∧
      filed.console.shell.commands = typed.console.shell.commands ∧
      ∃ es, es = (Shell.execEach (Shell.exec fs) (started s) (typedLines text)).flatMap
          Outcome.events ∧
        filed.events = .output s!"Executing file: {path}\n" :: .opened path :: es ∧
        typed.events = Shell.record .debug "Input loop started" :: es ++
          [Shell.record .debug "End of input", Shell.record .debug "Input loop stopped"]) := by
  intro c filed typed
  refine ⟨linesOf_eq_typedLines_iff, fun hlines => ?_⟩
  have hrun : (Builtin.exec.body params).run fs (Shell.callAt fs Shell.maxDepth) (started s) =
      ⟨.ok (), Shell.afterEach (Shell.exec fs) (started s) (Builtin.linesOf text),
        .output s!"Executing file: {path}\n" :: .opened path ::
          (Shell.execEach (Shell.exec fs) (started s) (Builtin.linesOf text)).flatMap
            Outcome.events⟩ :=
    Builtin.run_exec hname hne hquiet (Files.readText_encode hfile)
      fun o ho => Outcome.failure?_of_go (hgo o (hlines ▸ ho))
  -- the command finds the shell as it is, which differs only in what concerns the loop
  have hsame := (Shell.Alike.indistinct fun _ => trivial).run
    ((Shell.Alike.indistinct fun _ => trivial).callAt (Nat.le_refl Shell.maxDepth) (.inr rfl))
    (Builtin.exec.unaware_body params)
    (show (started s).Alike s ∧ (started s).Unaware .loop from ⟨⟨rfl, rfl⟩, hunaware⟩)
    (Outcome.settles_self id fs _)
  rw [hrun, hlines] at hsame
  obtain ⟨hresult, ⟨halike, -⟩, hevents⟩ := hsame
  have hfiled : filed = c.ofOutcome
      ((Builtin.exec.body params).run fs (Shell.callAt fs Shell.maxDepth) s)
      fun _ => .nothing := rfl
  have htyped : typed = runLoop (Shell.exec fs) ⟨started s, c.input, []⟩ := rfl
  have hloop := Loop.runAll_encode (show (started s).prompt = "" from hprompt) rfl hgo
  rw [runLoop, hloop] at htyped
  rw [htyped, hfiled]
  refine ⟨?_, rfl, halike.vars, halike.commands, _, rfl, hevents, rfl⟩
  simp only [ofOutcome, hresult]
  rfl

/-- Files with one file, which holds a text. -/
def withFile (text : String) : Files :=
  (∅ : Files).put ["t"] (.file (Text.Utf8.encode text.toList))

/-- A shell with the built-in commands, and one that notes what it is called with. -/
def noting : Shell := (Shell.standard "" false).register "note" (.recorder .object "" "note")

theorem unaware_noting : noting.Unaware .loop :=
  (Shell.onlyBuiltins_standard "" false).unaware.register "note" fun _ => trivial

/-- A text in which lines end in three ways, one is none of the grammar, and the last has no end. -/
def mixedText : String := "setvar a=1\r\n=\rnote x=[a]\necho"

/-- A text with mixed line ends is run as if it were typed. -/
theorem mixed_as_typed :
    let c : Console := ⟨noting, .ofBytes (Text.Utf8.encode mixedText.toList), []⟩
    let filed := c.perform (withFile mixedText)
      (.execute .exec (Assoc.ofList [("filename", "t")]))
    let typed := c.perform (withFile mixedText) (.start (some false))
    filed.events.filterMap Event.noted? = [.called "note" (Assoc.ofList [("x", "1")])] ∧
      filed.events.filterMap Event.called? = typed.events.filterMap Event.called? ∧
      Event.written filed.events = "Executing file: t\n" ++ Event.written typed.events := by
  intro c filed typed
  have hfile : (withFile mixedText).readBytes "t" =
      .ok (Text.Utf8.encode mixedText.toList) := rfl
  obtain ⟨hiff, hsame⟩ := file_as_typed (withFile mixedText) noting
    (Assoc.ofList [("filename", "t")]) unaware_noting rfl (by decide) (by decide) hfile rfl
    (by decide +kernel)
  have hends : mixedText.toList.all (fun x => !Text.isBoundary x || Text.isLineEnd x) = true := by
    decide +kernel
  have hlines := hiff.2 fun x hx hb => by simpa [hb] using List.all_eq_true.1 hends x hx
  obtain ⟨-, -, -, -, es, hes, hfiled, htyped⟩ := hsame hlines
  rw [show filed.events = _ from hfiled, show typed.events = _ from htyped, hes]
  decide +kernel

/-- A text in which a form feed stands between two commands: one line when it is typed. -/
def fedText : String := "echo text=a\x0cecho text=b\n"

/-- It is not run as if it were typed, although no line stops the shell or fails. -/
theorem fed_not_as_typed :
    let c : Console := ⟨noting, .ofBytes (Text.Utf8.encode fedText.toList), []⟩
    let filed := c.perform (withFile fedText) (.execute .exec (Assoc.ofList [("filename", "t")]))
    let typed := c.perform (withFile fedText) (.start (some false))
    (∀ o ∈ Shell.execEach (Shell.exec (withFile fedText)) (started noting)
        (typedLines fedText.toList ++ Builtin.linesOf fedText.toList), o.halts = false) ∧
      (filed.events.filterMap Event.called?).length = 2 ∧
      (typed.events.filterMap Event.called?).length = 1 ∧
      Event.written filed.events = "Executing file: t\na\nb\n" ∧
      Event.written typed.events = "b\n" := by
  decide +kernel

end Console

end LineShell
