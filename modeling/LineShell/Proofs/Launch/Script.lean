import LineShell.Launch.Program
import LineShell.Proofs.Console.Typed
import LineShell.Proofs.Line.Grammar

/-!
# The script of a configuration, and the same file named in the first line

A configuration can name a script, which is run before any line is read. The line that runs the same
file (`Launch.scriptLine`) can also be typed first. Either way the same lines run on the same
variables and commands. But a script that stops the shell ends the loop only if it is typed: a loop
that is started afterwards sets the shell running again. So the two runs of the program are the same
exactly if the script leaves the shell running, or nothing would be read behind it anyway.

## How the proofs go

* The typed line is read as the parameters of the script (`Launch.parse_scriptLine`), and running it
  is running what the script runs, one level of nesting deeper (`Launch.exec_scriptLine`).
* What runs before the loop then comes to the same, up to whether the shell runs
  (`Launch.runScript_of_typed`).
* If the shell still runs, both loops stand at the same place with the same shell
  (`Launch.Scripted.shell_eq`) and go on in the same way. If it does not, the typed one has ended,
  and the other reads at least one line (`Loop.length_pending_runAll`).
-/

namespace LineShell

variable {fs : Files} {s : Shell} {path : String} {echo : Bool}

/-! ## The line for a script -/

/-- A line of a stream that does not itself end in a line end is run as it is. -/
theorem Loop.lineOf_append {line : String} {front : List Char} {c : Char}
    (hc : Text.isLineEnd c = false) (h : line.toList = front ++ [c]) :
    lineOf (line.toList ++ ['\n']) = line := by
  rw [lineOf, h, Text.dropLineEnd_append hc, ← h, String.ofList_toList]

namespace Launch

/-- How the line for a script ends: it says whether the lines of the script are shown. -/
def echoWord (echo : Bool) : String := if echo then "true" else "false"

/-- The parameters with which a script is run. -/
def scriptParams (path : String) (echo : Bool) : Params :=
  Assoc.ofList [("filename", path), ("print-lines", echoWord echo)]

/-- The line that runs a script when it is typed. -/
def scriptLine (path : String) (echo : Bool) : String :=
  "exec filename=\"" ++ path ++ "\" print-lines=" ++ echoWord echo

/-- The line for a script taken apart. -/
def scriptLayout (path : String) (echo : Bool) (h : '"' ∉ path.toList) : Line.Layout where
  name := ⟨"exec".toList, by decide⟩
  params :=
    [(⟨[' '], by simp [Line.isSpacing]⟩, .quoted ⟨"filename".toList, by decide⟩ ⟨path.toList, h⟩),
      (⟨[' '], by simp [Line.isSpacing]⟩, .bare ⟨"print-lines".toList, by decide⟩
        ⟨(echoWord echo).toList, by cases echo <;> simp [echoWord, Line.isSpacing]⟩)]
  trailing := ⟨[], by simp⟩

theorem toList_scriptLine : (scriptLine path echo).toList =
    "exec filename=\"".toList ++ path.toList ++ "\" print-lines=".toList ++
      (echoWord echo).toList := by
  have happend (a b c d : String) :
      (a ++ b ++ c ++ d).toList = a.toList ++ b.toList ++ c.toList ++ d.toList := by
    simp only [String.toList_append]
  exact happend _ path _ (echoWord echo)

theorem parse_scriptLine (h : '"' ∉ path.toList) :
    Line.parse (scriptLine path echo) =
      ⟨some "exec", scriptParams path echo, (scriptLine path echo).toList.length, none⟩ := by
  have hchars : (scriptLayout path echo h).chars = (scriptLine path echo).toList := by
    rw [toList_scriptLine, List.append_assoc, List.append_assoc]
    simp only [scriptLayout, Line.Layout.chars, Line.Layout.tailChars, List.flatMap_cons,
      List.flatMap_nil, Line.Piece.chars, Line.Piece.key, Line.Piece.tail, List.append_nil,
      List.append_assoc, List.cons_append]
    rfl
  have hpairs : (scriptLayout path echo h).pairs =
      [("filename", path), ("print-lines", echoWord echo)] := by
    simp [scriptLayout, Line.Layout.pairs, Line.Piece.pair, Line.Piece.key, Line.Piece.value]
  rw [Line.parse_of_layout _ hchars, hpairs]
  rfl

/-- The parameters stay as they are, if the path is not the name of a variable. -/
theorem substitute_scriptParams (h : resolve s.vars path = path) :
    s.substitute (scriptParams path echo) = scriptParams path echo := by
  have hword : resolve s.vars (echoWord echo) = echoWord echo := by cases echo <;> rfl
  refine Assoc.ext_entries ?_
  show [("filename", resolve s.vars path), ("print-lines", resolve s.vars (echoWord echo))] = _
  rw [h, hword]
  rfl

/-- The line for a script is read from the stream as it was written. -/
theorem lineOf_scriptLine :
    Loop.lineOf ((scriptLine path echo).toList ++ ['\n']) = scriptLine path echo := by
  obtain ⟨front, hfront⟩ : ∃ front, (echoWord echo).toList = front ++ ['e'] := by
    cases echo
    · exact ⟨"fals".toList, by decide⟩
    · exact ⟨"tru".toList, by decide⟩
  have hline := @toList_scriptLine path echo
  rw [hfront, ← List.append_assoc] at hline
  exact Loop.lineOf_append rfl hline

theorem notMem_scriptLine (h : '\n' ∉ path.toList) : '\n' ∉ (scriptLine path echo).toList := by
  have hword : '\n' ∉ (echoWord echo).toList := by cases echo <;> decide
  rw [toList_scriptLine]
  simp [h, hword]

/-! ## Running it -/

/-- What a script comes to when its line is typed at a shell. That line is itself one level of
nesting. -/
def typedScript (fs : Files) (s : Shell) (path : String) (echo : Bool) : Outcome Unit :=
  (Builtin.exec.body (scriptParams path echo)).run fs (Shell.callAt fs (Shell.maxDepth - 1)) s

/-- What the script of a configuration comes to when its line is the first that is typed. -/
def typedFirst (fs : Files) (c : Config) (path : String) : Outcome Unit :=
  typedScript fs (Console.started c.shellOf) path c.shell.echoScript.holds

/-- To type the line for a script is to call the command with the parameters of the script. -/
theorem exec_scriptLine (hquote : '"' ∉ path.toList) (hname : resolve s.vars path = path)
    (hexec : s.commands.get? "exec" = some Builtin.exec.handler) :
    s.exec fs (scriptLine path echo) =
      ((typedScript fs s path echo).map fun _ => true).after
        [.called "exec" (scriptParams path echo)] := by
  have hvalid : (Line.parse (scriptLine path echo)).isValid = true := by
    rw [parse_scriptLine hquote]
    rfl
  rw [Shell.exec, Shell.maxDepth, Shell.execAt, Shell.callAt, if_pos hvalid,
    parse_scriptLine hquote, Shell.dispatchWith]
  simp only [Option.bind_some, hexec, Option.map_some, substitute_scriptParams hname]
  rfl

/-- What is kept by every line is kept by the script. -/
theorem keeps_runScript {R : Shell → Shell → Prop} (h : Keeps R) (c : Config) (s : Shell) :
    R s (runScript fs c s).shell := by
  unfold runScript
  split
  · exact h.run (h.callAt Shell.maxDepth) _ s
  · exact h.refl s

/-- The shell of a configuration has no commands but built-in ones. -/
theorem onlyBuiltins_shellOf (c : Config) : c.shellOf.OnlyBuiltins := by
  simp only [Config.shellOf]
  split
  · exact Shell.onlyBuiltins_standard _ _
  · exact nofun

/-- Nothing can be told apart by its handlers but commands and variables. -/
theorem indistinct_alike : Indistinct .all fun s t => s.Alike t ∧ s.Unaware .all :=
  Shell.Alike.indistinct fun _ => trivial

/-- The script of a configuration comes to what it comes to when it is typed, up to whether the
shell runs, and up to what is said about it in the log. -/
theorem runScript_of_typed {c : Config} (hscript : c.shell.script = .str path)
    (hrun : (typedFirst fs c path).result = .ok ()) :
    let o := runScript fs c c.shellOf
    let t := typedFirst fs c path
    o.result = .ok () ∧ t.shell.Alike o.shell ∧
      Event.written o.events = Event.written t.events ∧
      o.events.filterMap Event.called? = t.events.filterMap Event.called? := by
  intro o t
  by_cases hempty : path = ""
  · -- there is no script, and the typed line only reports that it names none
    subst hempty
    have ho : o = ⟨.ok (), c.shellOf, []⟩ := by
      simp only [o, runScript, hscript]
      rfl
    rw [ho]
    exact ⟨rfl, ⟨rfl, rfl⟩, rfl, rfl⟩
  · have hholds : (Value.str path).holds = true := by simp [Value.holds, hempty]
    have ho : o = ((Builtin.exec.body (scriptParams path c.shell.echoScript.holds)).run fs
        (Shell.callAt fs Shell.maxDepth) c.shellOf).after
          [.logged ⟨.info, .startup, s!"Running startup script: {path}"⟩] := by
      simp only [o, runScript, hscript, hholds, if_true]
      rfl
    obtain ⟨hresult, ⟨halike, -⟩, hevents⟩ := indistinct_alike.run
      (indistinct_alike.callAt (Nat.sub_le Shell.maxDepth 1) (.inl trivial))
      (Builtin.exec.unaware_body (scriptParams path c.shell.echoScript.holds))
      (show (Console.started c.shellOf).Alike c.shellOf ∧ _ from
        ⟨⟨rfl, rfl⟩, (onlyBuiltins_shellOf c).unaware⟩)
      (Outcome.settles_of_result fs fun hdeep => nomatch hrun.symm.trans hdeep)
    rw [ho]
    refine ⟨hresult.trans hrun, halike, ?_, ?_⟩
    · rw [Outcome.events_after, hevents]
      rfl
    · rw [Outcome.events_after, hevents]
      rfl

end Launch

/-! ## A loop with one more line -/

/-- Reading a line in front of a text leaves the text. -/
theorem Input.next_ofText {line : List Char} (h : '\n' ∉ line) (text : List Char) :
    (Input.ofText (line ++ '\n' :: text)).next = (.line (line ++ ['\n']), .ofText text) := by
  rw [Input.ofText, Text.splitKeeping_append h]
  cases line <;> rfl

namespace Loop

variable {exec : String → Shell → Outcome Bool} {line : String} {text : List Char}

/-- A loop that goes on behind the first of its lines. -/
theorem runAll_of_go (hline : '\n' ∉ line.toList)
    (hread : lineOf (line.toList ++ ['\n']) = line) (hs : s.running = true)
    (hgo : (exec line s).halts = false) :
    runAll exec s (.ofText (line.toList ++ '\n' :: text)) =
      (run exec ⟨.checking, (exec line s).shell, .ofText text, []⟩).after
        (Shell.record .debug "Input loop started" :: promptEvents s ++ (exec line s).events) := by
  rw [runAll, start, run_events,
    run_round hs (Input.next_ofText hline text) (hread.symm ▸ hgo), hread]
  simp [after]

/-- A loop that stops behind the first of its lines: the others are left. -/
theorem runAll_of_halts (hline : '\n' ∉ line.toList)
    (hread : lineOf (line.toList ++ ['\n']) = line) (hs : s.running = true)
    (hstop : (exec line s).halts = true) :
    runAll exec s (.ofText (line.toList ++ '\n' :: text)) =
      ⟨.ended (exec line s).failure?, { (exec line s).shell with running := false }, .ofText text,
        Shell.record .debug "Input loop started" :: promptEvents s ++ (exec line s).events ++
          [Shell.record .debug "Input loop stopped"]⟩ := by
  rw [runAll, start, run_events,
    run_last_round hs (Input.next_ofText hline text) (hread.symm ▸ hstop), hread]
  simp [after]

/-- A loop without anything to read. -/
theorem runAll_nil (hs : s.running = true) :
    runAll exec s (.ofText []) =
      ⟨.ended none, { s with running := false }, .ofText [],
        Shell.record .debug "Input loop started" :: promptEvents s ++
          [Shell.record .debug "End of input", Shell.record .debug "Input loop stopped"]⟩ := by
  have hnext : (Input.ofText []).next = (.ended, .ofText []) := rfl
  rw [runAll, start, run_events, run_checking exec s _ _ hs, run_reading_of_ended exec s _ _ hnext]
  simp [after]

/-- A loop reads at least one line, if there is any. -/
theorem reach_pos {os : List (Outcome Bool)} (h : os ≠ []) : 0 < reach os := by
  have hlength : 0 < os.length := List.length_pos_iff.2 h
  rw [reach]
  omega

/-- A loop on a shell that runs leaves less than the whole text, unless there is none. -/
theorem length_pending_runAll (hp : ∀ line s, (exec line s).shell.prompt = s.prompt)
    (hs : s.running = true) (ht : text ≠ []) :
    (runAll exec s (.ofText text)).input.pending.length < (Input.ofText text).pending.length := by
  have hlines : Text.splitKeeping text ≠ [] := by
    intro h
    have hflat := Text.flatten_splitKeeping text
    rw [h] at hflat
    exact ht hflat.symm
  obtain ⟨l, ls, hl⟩ := List.exists_cons_of_ne_nil hlines
  have hpos : 0 < reach (Shell.execEach exec s ((l :: ls).map lineOf)) := reach_pos nofun
  rw [runAll_ofText, run_lines hp _ (fun _ => Text.splitKeeping_ne_nil) s hs, hl]
  simp only [after, Input.ofText, hl, List.length_map, List.length_drop, List.length_cons]
  omega

end Loop

namespace Console

/-- A loop in the caller's place is a run on the shell that it starts. -/
theorem start_of_sync (exec : String → Shell → Outcome Bool) (i : Input)
    (h : s.runAsync = false) : start exec none ⟨s, i, []⟩ = runLoop exec ⟨started s, i, []⟩ := by
  simp only [start, Option.getD_none, h, Bool.false_eq_true, if_false]
  rfl

end Console

namespace Launch

/-! ## The two runs of the program -/

/-- The console at the end of a run of the program. -/
def consoleAfter (fs : Files) (c : Config) (input : Input) : Console :=
  (Console.start (Shell.exec fs) none ⟨(runScript fs c c.shellOf).shell, input, []⟩).console

/-- The calls of handlers in a run of the program. -/
def callsIn (fs : Files) (c : Config) (input : Input) : List (String × Params) :=
  (runShell fs c input).2.1.filterMap Event.called?

/-- What is seen of a program behind its loop, which has come to this phase. -/
def closing (p : Phase) : List Event :=
  (endingOf "\nShutting down...\n"
    (match p with | .ended (some f) => .error f | _ => .ok .nothing)).2

theorem runAsync_shellOf {c : Config} (h : c.shell.runAsync.holds = false) :
    c.shellOf.runAsync = false := by
  rw [← h, Config.shellOf]
  dsimp only
  split <;> rfl

/-- A script does not change where the loop of its shell runs. -/
theorem runAsync_runScript {c : Config} (h : c.shell.runAsync.holds = false) :
    (runScript fs c c.shellOf).shell.runAsync = false :=
  (keeps_runScript keeps_sameLoop c c.shellOf).runAsync.trans (runAsync_shellOf h)

/-- Behind a script that does not fail comes the loop: what is seen of it, and the console that it
leaves. -/
theorem seen_of_ran {c : Config} {o : Outcome Unit} (hran : runScript fs c c.shellOf = o)
    (hok : o.result = .ok ()) (hasync : o.shell.runAsync = false) (input : Input) :
    let l := Loop.runAll (Shell.exec fs) (Console.started o.shell) input
    (runShell fs c input).2.1 =
        Config.buildEvents c.shellOf ++ o.events ++ l.events ++ closing l.phase ∧
      consoleAfter fs c input = ⟨l.shell, l.input, []⟩ := by
  subst hran
  constructor
  · simp only [runShell, hok, Console.start_of_sync _ _ hasync]
    rfl
  · rw [consoleAfter, Console.start_of_sync _ _ hasync]
    rfl

/-- What the program writes, once it has been set up. -/
theorem output_run {fs files : Files} {args : List String} {c : Config} {st : ConfigStore}
    {es : List Event} (h : Setup.run fs args = ⟨.ok (.ready c st), files, es⟩) (input : Input) :
    (run fs args input).output = Event.written es ++
      if c.console.rank.isOk then Event.written (runShell files c input).2.1 else "" := by
  rw [run, h]
  dsimp only
  cases c.console.rank with
  | error f => exact String.append_empty.symm
  | ok rank => rfl

/-! ## Both -/

section Both

variable {c : Config} {v : Value} {text : List Char}

/-- A configuration with another script, or none. -/
def withScript (c : Config) (v : Value) : Config := { c with shell := { c.shell with script := v } }

/-- Without a script, nothing is run before the loop. -/
theorem runScript_withScript (hnone : v.holds = false) (s : Shell) :
    runScript fs (withScript c v) s = ⟨.ok (), s, []⟩ :=
  if_neg (by simp [withScript, hnone])

/-- The shell of a configuration has the command for files, if it has the built-in commands. -/
theorem getExec_shellOf (h : c.shell.builtins.holds = true) :
    c.shellOf.commands.get? "exec" = some Builtin.exec.handler := by
  simp only [Config.shellOf, h, if_true]
  rfl

theorem prompt_shellOf {prompt : String} (h : c.shell.prompt = .str prompt) :
    c.shellOf.prompt = prompt := by
  simp only [Config.shellOf, h]
  split <;> rfl

theorem worker_shellOf : c.shellOf.worker = none := by
  simp only [Config.shellOf]
  split <;> rfl

/-- A configuration whose script can be named in a line, and whose loop runs in the caller's place
and shows nothing before it reads. -/
structure Scripted (c : Config) (path : String) : Prop where
  script : c.shell.script = .str path
  builtins : c.shell.builtins.holds = true
  sync : c.shell.runAsync.holds = false
  prompt : c.shell.prompt = .str ""
  noQuote : '"' ∉ path.toList
  noNewline : '\n' ∉ path.toList
  noVariable : resolve c.vars path = path

/-- A text behind the line for a script. -/
def behindLine (path : String) (echo : Bool) (text : List Char) : List Char :=
  (scriptLine path echo).toList ++ '\n' :: text

namespace Scripted

/-- The line for the script at the shell that the loop begins with. -/
theorem exec_started (h : Scripted c path) :
    (Console.started c.shellOf).exec fs (scriptLine path c.shell.echoScript.holds) =
      ((typedFirst fs c path).map fun _ => true).after
        [.called "exec" (scriptParams path c.shell.echoScript.holds)] :=
  exec_scriptLine h.noQuote h.noVariable (getExec_shellOf h.builtins)

theorem promptEvents_started (h : Scripted c path) :
    Loop.promptEvents (Console.started c.shellOf) = [] :=
  if_pos (prompt_shellOf h.prompt)

/-- If the script leaves the shell running, its line and its run before the loop leave the same
shell to the loop. -/
theorem shell_eq (h : Scripted c path) (hrun : (typedFirst fs c path).result = .ok ())
    (hgo : (typedFirst fs c path).shell.running = true) :
    Console.started (runScript fs c c.shellOf).shell = (typedFirst fs c path).shell := by
  obtain ⟨-, halike, -, -⟩ := runScript_of_typed h.script hrun
  have hfiled : SameLoop c.shellOf (runScript fs c c.shellOf).shell :=
    keeps_runScript keeps_sameLoop c _
  have htyped : SameLoop (Console.started c.shellOf) (typedFirst fs c path).shell :=
    keeps_sameLoop.run (keeps_sameLoop.callAt _) _ _
  have hnone : (runScript fs c c.shellOf).shell.worker = none :=
    keeps_runScript keeps_noWorker c _ worker_shellOf
  have hnone' : (typedFirst fs c path).shell.worker = none :=
    keeps_noWorker.run (keeps_noWorker.callAt _) _ _ worker_shellOf
  exact Shell.Alike.eq ⟨halike.commands, halike.vars⟩ (hfiled.prompt.trans htyped.prompt.symm)
    htyped.runAsync.symm hgo.symm (hnone.trans hnone'.symm)

/-- Behind the line for its script a loop goes on just if the script leaves the shell running. -/
theorem halts_started (h : Scripted c path) (hrun : (typedFirst fs c path).result = .ok ()) :
    ((Console.started c.shellOf).exec fs (scriptLine path c.shell.echoScript.holds)).halts =
      !(typedFirst fs c path).shell.running := by
  rw [h.exec_started, Outcome.halts, Outcome.failure?, Outcome.result_after, Outcome.map, hrun]
  rfl

/-- If the script leaves the shell running, the loop behind its line goes on as the loop of the
other run does from its beginning. -/
theorem runAll_of_running (h : Scripted c path) (hrun : (typedFirst fs c path).result = .ok ())
    (hgo : (typedFirst fs c path).shell.running = true) :
    Loop.runAll (Shell.exec fs) (Console.started c.shellOf)
        (.ofText (behindLine path c.shell.echoScript.holds text)) =
      (Loop.run (Shell.exec fs)
          ⟨.checking, Console.started (runScript fs c c.shellOf).shell, .ofText text, []⟩).after
        (Shell.record .debug "Input loop started" ::
          .called "exec" (scriptParams path c.shell.echoScript.holds) ::
            (typedFirst fs c path).events) := by
  have hhalts := h.halts_started hrun
  rw [hgo, Bool.not_true] at hhalts
  rw [behindLine, Loop.runAll_of_go (notMem_scriptLine h.noNewline) lineOf_scriptLine rfl hhalts,
    h.promptEvents_started, h.exec_started, h.shell_eq hrun hgo]
  rfl

/-- If the script stops the shell, the loop ends behind its line and leaves the text. -/
theorem runAll_of_stopped (h : Scripted c path) (hrun : (typedFirst fs c path).result = .ok ())
    (hstop : (typedFirst fs c path).shell.running = false) :
    Loop.runAll (Shell.exec fs) (Console.started c.shellOf)
        (.ofText (behindLine path c.shell.echoScript.holds text)) =
      ⟨.ended none, { (typedFirst fs c path).shell with running := false }, .ofText text,
        Shell.record .debug "Input loop started" ::
          .called "exec" (scriptParams path c.shell.echoScript.holds) ::
            (typedFirst fs c path).events ++ [Shell.record .debug "Input loop stopped"]⟩ := by
  have hhalts := h.halts_started hrun
  rw [hstop, Bool.not_false] at hhalts
  rw [behindLine,
    Loop.runAll_of_halts (notMem_scriptLine h.noNewline) lineOf_scriptLine rfl hhalts,
    h.promptEvents_started, h.exec_started, Outcome.failure?, Outcome.result_after, Outcome.map,
    hrun]
  rfl

/-- The two loops come to the same if the script leaves the shell running, or there is no text: the
second one says in between what the script says. -/
theorem loops_of_running_or_nil (h : Scripted c path)
    (hrun : (typedFirst fs c path).result = .ok ())
    (hgo : (typedFirst fs c path).shell.running = true ∨ text = []) :
    let l := Loop.runAll (Shell.exec fs) (Console.started (runScript fs c c.shellOf).shell)
      (.ofText text)
    let l' := Loop.runAll (Shell.exec fs) (Console.started c.shellOf)
      (.ofText (behindLine path c.shell.echoScript.holds text))
    l'.phase = l.phase ∧ l'.shell.vars = l.shell.vars ∧ l'.input = l.input ∧
      Event.written l'.events =
        Event.written (typedFirst fs c path).events ++ Event.written l.events ∧
      l'.events.filterMap Event.called? =
        ("exec", scriptParams path c.shell.echoScript.holds) ::
          ((typedFirst fs c path).events.filterMap Event.called? ++
            l.events.filterMap Event.called?) := by
  intro l l'
  cases hrunning : (typedFirst fs c path).shell.running with
  | true =>
    let r := Loop.run (Shell.exec fs)
      ⟨.checking, Console.started (runScript fs c c.shellOf).shell, .ofText text, []⟩
    have hl : l = r.after [Shell.record .debug "Input loop started"] := by
      simp only [l, r, Loop.runAll, Loop.start, Loop.run_events]
    have hl' : l' = _ := h.runAll_of_running hrun hrunning
    rw [hl, hl']
    refine ⟨rfl, rfl, rfl, ?_, ?_⟩
    · exact Event.written_append (typedFirst fs c path).events r.events
    · exact congrArg (_ :: ·) List.filterMap_append
  | false =>
    obtain rfl : text = [] := hgo.resolve_left (by simp [hrunning])
    have hprompt : Loop.promptEvents (Console.started (runScript fs c c.shellOf).shell) = [] :=
      if_pos ((keeps_runScript keeps_sameLoop c _).prompt.trans (prompt_shellOf h.prompt))
    have hl : l = _ := Loop.runAll_nil rfl
    rw [hprompt] at hl
    have hl' : l' = _ := h.runAll_of_stopped hrun hrunning
    have halike := (runScript_of_typed h.script hrun).2.1
    rw [hl, hl']
    refine ⟨rfl, halike.vars.symm, rfl, ?_, ?_⟩
    · exact Event.written_append (typedFirst fs c path).events _
    · exact congrArg (_ :: ·) List.filterMap_append

/-- The run without the script is its loop alone. -/
theorem seen_withScript (h : Scripted c path) (hnone : v.holds = false) (input : Input) :
    let l := Loop.runAll (Shell.exec fs) (Console.started c.shellOf) input
    (runShell fs (withScript c v) input).2.1 =
        Config.buildEvents c.shellOf ++ [] ++ l.events ++ closing l.phase ∧
      consoleAfter fs (withScript c v) input = ⟨l.shell, l.input, []⟩ :=
  seen_of_ran (runScript_withScript hnone _) rfl (runAsync_shellOf h.sync) input

/-- With the script first, or its line: both runs see and leave the same, if the script leaves the
shell running or there is nothing to read behind it. -/
theorem same_of_running_or_nil (h : Scripted c path)
    (hrun : (typedFirst fs c path).result = .ok ()) (hnone : v.holds = false)
    (hgo : (typedFirst fs c path).shell.running = true ∨ text = []) :
    let i : Input := .ofText text
    let i' : Input := .ofText (behindLine path c.shell.echoScript.holds text)
    Event.written (runShell fs (withScript c v) i').2.1 = Event.written (runShell fs c i).2.1 ∧
      callsIn fs (withScript c v) i' =
        ("exec", scriptParams path c.shell.echoScript.holds) :: callsIn fs c i ∧
      (consoleAfter fs (withScript c v) i').shell.vars = (consoleAfter fs c i).shell.vars ∧
      (consoleAfter fs (withScript c v) i').input = (consoleAfter fs c i).input := by
  obtain ⟨hran, -, hwritten, hcalled⟩ := runScript_of_typed h.script hrun
  obtain ⟨hphase, hvars, hinput, hwrote, hcalls⟩ := h.loops_of_running_or_nil hrun hgo
  intro i i'
  obtain ⟨hseen, hconsole⟩ := seen_of_ran rfl hran (runAsync_runScript h.sync) i
  obtain ⟨hseen', hconsole'⟩ := h.seen_withScript hnone i'
  rw [callsIn, callsIn, hseen, hseen', hconsole, hconsole', hphase]
  refine ⟨?_, ?_, hvars, hinput⟩
  · simp only [Event.written_append, Event.written_nil, String.append_empty, hwritten]
    rw [hwrote]
    simp only [i, String.append_assoc]
  · have hquiet : (Config.buildEvents c.shellOf).filterMap Event.called? = [] := rfl
    simp only [List.filterMap_append, hcalled, hquiet, List.nil_append, List.append_nil]
    rw [hcalls, List.cons_append]

/-- If the script stops the shell, its line leaves the whole text, and the other run does not. -/
theorem input_ne_of_stopped (h : Scripted c path) (hrun : (typedFirst fs c path).result = .ok ())
    (hnone : v.holds = false) (hstop : (typedFirst fs c path).shell.running = false)
    (ht : text ≠ []) :
    (consoleAfter fs (withScript c v)
        (.ofText (behindLine path c.shell.echoScript.holds text))).input ≠
      (consoleAfter fs c (.ofText text)).input := by
  obtain ⟨hran, -, -, -⟩ := runScript_of_typed h.script hrun
  obtain ⟨-, hconsole⟩ := seen_of_ran rfl hran (runAsync_runScript h.sync) (.ofText text)
  obtain ⟨-, hconsole'⟩ := h.seen_withScript hnone
    (.ofText (behindLine path c.shell.echoScript.holds text))
  have hless : (Loop.runAll (Shell.exec fs) (Console.started (runScript fs c c.shellOf).shell)
      (.ofText text)).input.pending.length < (Input.ofText text).pending.length :=
    Loop.length_pending_runAll (fun line s => (keeps_sameLoop.exec line s).prompt) rfl ht
  rw [hconsole, hconsole', h.runAll_of_stopped hrun hstop]
  intro heq
  exact Nat.ne_of_gt hless (congrArg (fun i : Input => i.pending.length) heq)

end Scripted

end Both

/-- **The script of a configuration is run as if its line were typed first, exactly if it leaves the
shell running or there is no text to read.** For two command lines that come to the same
configuration, but for the script that the second one leaves out, and a text behind the line for
that script in the second run: both write the same, make the same calls but for that line, and
leave the same variables and the same part of the text. A script that stops the shell stops only a
loop that is running already, so otherwise the first run goes on to read the text. -/
theorem script_as_typed {fs fs' files : Files} {args args' : List String} {c : Config} {v : Value}
    {st st' : ConfigStore} {es es' : List Event} {path : String}
    (hsetup : Setup.run fs args = ⟨.ok (.ready c st), files, es⟩)
    (hplain : Setup.run fs' args' = ⟨.ok (.ready (withScript c v) st'), files, es'⟩)
    (hes : Event.written es' = Event.written es) (hnone : v.holds = false)
    (h : Scripted c path) (hrun : (typedFirst files c path).result = .ok ()) (text : List Char) :
    let i : Input := .ofText text
    let i' : Input := .ofText (behindLine path c.shell.echoScript.holds text)
    ((run fs' args' i').output = (run fs args i).output ∧
        callsIn files (withScript c v) i' =
          ("exec", scriptParams path c.shell.echoScript.holds) :: callsIn files c i ∧
        (consoleAfter files (withScript c v) i').shell.vars =
          (consoleAfter files c i).shell.vars ∧
        (consoleAfter files (withScript c v) i').input = (consoleAfter files c i).input) ↔
      ((typedFirst files c path).shell.running = true ∨ text = []) := by
  intro i i'
  constructor
  · rintro ⟨-, -, -, hinput⟩
    cases hrunning : (typedFirst files c path).shell.running with
    | true => exact .inl rfl
    | false =>
      refine .inr (Decidable.byContradiction fun ht => ?_)
      exact h.input_ne_of_stopped hrun hnone hrunning ht hinput
  · intro hgo
    obtain ⟨hwritten, hcalls, hvars, hinput⟩ := h.same_of_running_or_nil hrun hnone hgo
    have hrank : (withScript c v).console.rank = c.console.rank := rfl
    refine ⟨?_, hcalls, hvars, hinput⟩
    rw [output_run hsetup, output_run hplain, hes, hrank, hwritten]

/-- Files with one file of lines. -/
def withLines (text : String) : Files :=
  (∅ : Files).put ["s"] (.file (Text.Utf8.encode text.toList))

/-- A configuration that has a script, and else nothing but what it has to have. -/
def scripted : Config := { shell := { prompt := .str "", script := .str "s" } }

theorem scripted_scripted : Scripted scripted "s" :=
  ⟨rfl, rfl, rfl, rfl, by decide, by decide, rfl⟩

/-- Setting up with that script, and without it. -/
theorem run_setup_scripted :
    Setup.run (withLines "setvar a=1\n") ["--prompt", "", "-x", "s"] =
      ⟨.ok (.ready scripted { config := some scripted }), withLines "setvar a=1\n",
        [.logged (ConfigStore.record .info "No config file found, using defaults")]⟩ := rfl

theorem run_setup_plain :
    Setup.run (withLines "setvar a=1\n") ["--prompt", ""] =
      ⟨.ok (.ready (withScript scripted .null) { config := some (withScript scripted .null) }),
        withLines "setvar a=1\n",
        [.logged (ConfigStore.record .info "No config file found, using defaults")]⟩ := rfl

/-- A script that sets a variable, which is shown by the line behind it. -/
theorem assignment_as_typed :
    let fs := withLines "setvar a=1\n"
    let text := "echo text=[a]\n".toList
    let filed := run fs ["--prompt", "", "-x", "s"] (.ofText text)
    let typed := run fs ["--prompt", ""] (.ofText (behindLine "s" false text))
    typed.output = filed.output ∧ filed.output = "Executing file: s\n1\n" := by
  intro fs text filed typed
  obtain ⟨-, hsame⟩ := script_as_typed run_setup_scripted run_setup_plain rfl rfl
    scripted_scripted (by decide +kernel) text
  exact ⟨(hsame (.inl (by decide +kernel))).1, by decide +kernel⟩

/-- A script that stops the shell runs without failing, and the text behind it is read all the same;
behind its line it is not. -/
theorem exit_not_as_typed :
    let fs := withLines "exit\n"
    let text := "echo text=hi\n".toList
    Scripted scripted "s" ∧ (typedFirst fs scripted "s").result = .ok () ∧
      (run fs ["--prompt", "", "-x", "s"] (.ofText text)).output = "Executing file: s\nhi\n" ∧
      (run fs ["--prompt", ""] (.ofText (behindLine "s" false text))).output =
        "Executing file: s\n" :=
  ⟨scripted_scripted, by decide +kernel, by decide +kernel, by decide +kernel⟩

end Launch

end LineShell
