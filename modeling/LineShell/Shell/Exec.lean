import LineShell.Line.Parser
import LineShell.Shell.Basic

/-!
# Running lines

A line is parsed, its command looked up, the variables in its parameters resolved, and the handler
run. A handler may run further lines, or other commands; `depth` bounds how far these calls may
nest, and one that needs more fails with `Failure.tooDeep`.

## Structure

`Program.run` follows the program and is given, as a function, what a call means. It is recursive in
the program alone. `Shell.callAt` is recursive in the depth alone. Neither needs the other to be
unfolded.
-/

namespace LineShell

/-! ## Variables in parameters -/

/-- The name in `[name]`, if a text has this form. -/
def bracketed? (value : String) : Option String :=
  match value.toList with
  | '[' :: rest =>
    if rest.getLast? = some ']' then some (String.ofList rest.dropLast) else none
  | _ => none

/-- The value of the variable, for `[name]` with a variable of that name; else the text itself. What
a variable holds is not looked at again. -/
def resolve (vars : Assoc String String) (value : String) : String :=
  match bracketed? value with
  | some name => (vars.get? name).getD value
  | none => value

/-- Resolves every value. Names stay as they are. -/
def Shell.substitute (s : Shell) (params : Params) : Params :=
  params.mapValues (resolve s.vars)

/-! ## Programs -/

/-- Runs a program on a shell. `call` is what a call of the program comes to. -/
def Program.run (fs : Files) (call : Call → Shell → Outcome Bool) :
    Program → Shell → Outcome Unit
  | .done, s => ⟨.ok (), s, []⟩
  | .fail f, s => ⟨.error f, s, []⟩
  | .write text next, s => (next.run fs call s).after [.output text]
  | .log r next, s => (next.run fs call s).after [.logged r]
  | .note n next, s => (next.run fs call s).after [.noted n]
  | .setVariable name value next, s => next.run fs call (s.setVariable name value)
  | .vars next, s => (next s.vars).run fs call s
  | .commands next, s => (next s.helpTexts).run fs call s
  | .ask q next, s => (next (s.answerTo q)).run fs call s
  | .register name origin help body next, s =>
    next.run fs call (s.register name ⟨origin, help, body⟩)
  | .call c next, s =>
    let o := call c s
    ((next o.result).run fs call o.shell).after o.events
  | .stop next, s => next.run fs call s.stop
  | .readFile path next, s => ((next (fs.readText path)).run fs call s).after [.opened path]

namespace Program

variable {fs : Files} {call : Call → Shell → Outcome Bool} {s : Shell} {line : String}
  {next : Bool → Program}

/-- Behind a line that does not fail, the program goes on. -/
theorem run_exec_of_ok {b : Bool} (h : (call (.line line) s).result = .ok b) :
    (exec line next).run fs call s =
      ((next b).run fs call (call (.line line) s).shell).after (call (.line line) s).events := by
  rw [exec, run, h]
  rfl

/-- If the line fails, that is the end. -/
theorem run_exec_of_error {f : Failure} (h : (call (.line line) s).result = .error f) :
    (exec line next).run fs call s =
      ⟨.error f, (call (.line line) s).shell, (call (.line line) s).events⟩ := by
  rw [exec, run, h, orFail, run, Outcome.after, List.append_nil]

end Program

namespace Shell

/-! ## Lines -/

/-- A record that the shell itself writes. -/
def record (level : Log.Level) (message : String) : Event := .logged ⟨level, .shell, message⟩

/-- Runs the handler of a command. A command that nobody registered is passed over. -/
def dispatchWith (fs : Files) (call : Call → Shell → Outcome Bool) (command : Option String)
    (params : Params) (s : Shell) : Outcome Bool :=
  match command.bind fun name => (s.commands.get? name).map (name, ·) with
  | none => ⟨.ok false, s,
      [record .debug ("Ignoring unknown command '" ++ command.getD "None" ++ "'")]⟩
  | some (name, h) =>
    let params := s.substitute params
    (((h.body params).run fs call s).map fun _ => true).after [.called name params]

/-- Runs a line, or a command; calls may nest `depth` deep. -/
def callAt (fs : Files) : (depth : Nat) → Call → Shell → Outcome Bool
  | 0, _, s => ⟨.error .tooDeep, s, []⟩
  | depth + 1, .line text, s =>
    let p := Line.parse text
    let notes := (p.diagnosis text).toList.map fun m => Event.logged ⟨.debug, .parser, m⟩
    if p.isValid then dispatchWith fs (callAt fs depth) p.command p.params s
    else ⟨.ok false, s, notes ++ [record .warning s!"Invalid command: {p.render}"]⟩
  | depth + 1, .command name params, s => dispatchWith fs (callAt fs depth) name params s

/-- Runs a line; calls may nest `depth` deep. -/
def execAt (fs : Files) (depth : Nat) (line : String) (s : Shell) : Outcome Bool :=
  callAt fs depth (.line line) s

/-- How deep calls may nest. The number stands for the room on the stack of the system, where each
line of a file takes several places, so that files which run files end sooner. No result turns on
how large it is. -/
def maxDepth : Nat := 1000

/-- Runs a line. The result says whether a handler was called. -/
def exec (fs : Files) (line : String) (s : Shell) : Outcome Bool := execAt fs maxDepth line s

/-- Runs the handler of a command with the given parameters. -/
def dispatch (fs : Files) (command : Option String) (params : Params) (s : Shell) :
    Outcome Bool :=
  dispatchWith fs (callAt fs maxDepth) command params s

/-- Runs a program outside of any line. -/
def perform (fs : Files) (p : Program) (s : Shell) : Outcome Unit :=
  p.run fs (callAt fs maxDepth) s

end Shell

end LineShell
