import LineShell.Console.Loop
import LineShell.Shell.Builtin

/-!
# Consoles

A console is a shell at its input, with the loops that were started beside the caller. `Action` is
what can be done with a console, `Console.perform` what comes of it.

A loop that was started beside the caller goes on as far as it can whenever something was done
(`Console.settle`). When several loops wait for a line, the oldest one gets it. The shell remembers
the loop that was started last, until it is stopped; joining waits for that loop and no other.
-/

namespace LineShell

/-- A shell at its input, and the phases of the loops that were started, oldest first. -/
structure Console where
  shell : Shell
  input : Input
  loops : List Phase := []

/-- What can be done with a console. -/
inductive Action where
  | exec (line : String)
  | dispatch (command : Option String) (params : Params)
  | substitute (params : Params)
  | setVariable (name value : String)
  | getVariable (name : String)
  | variableNames
  | commandNames
  | getCommand (name : String)
  | register (names : List String) (handler : Option Handler)
  | execute (builtin : Builtin) (params : Params)
  | script (path : String) (echo : Bool)
  | addBuiltins
  | setInput (input : Input)
  | setPrompt (prompt : String)
  | setRunning (running : Bool)
  | start (runAsync : Option Bool)
  | run
  | stop
  | join
  | feed (line : String)
  /-- Takes all that is left of the input. -/
  | drain

/-- What an action answers. -/
inductive Reply where
  | nothing
  | flag (b : Bool)
  | text (t : Option String)
  | params (p : Params)
  | names (ns : List String)
  | command (h : Option Handler)
  /-- Whether a loop that was started beside the caller is still alive. -/
  | alive (b : Bool)

/-- What comes of an action: a reply or a failure, the console afterwards, what was seen, and the
failures that ended loops beside the caller. -/
structure Answer where
  reply : Except Failure Reply
  console : Console
  events : List Event := []
  crashes : List Failure := []

namespace Console

/-- Whether any loop beside the caller is alive. -/
def isBusy (c : Console) : Bool := c.loops.any (·.isAlive)

/-- Lets the loops with these phases go on, one after the other, as far as they can. -/
def advance (exec : String → Shell → Outcome Bool) (s : Shell) (i : Input) :
    List Phase → Console × List Event × List Failure
  | [] => (⟨s, i, []⟩, [], [])
  | p :: ps =>
    let l := (Loop.mk p s i []).run exec
    let (c, es, fs) := advance exec l.shell l.input ps
    let crash := match p, l.phase with
      | .ended _, _ => []
      | _, .ended f => f.toList
      | _, _ => []
    ({ c with loops := l.phase :: c.loops }, l.events ++ es, crash ++ fs)

/-- Lets all loops go on as far as they can. -/
def settle (exec : String → Shell → Outcome Bool) (c : Console) :
    Console × List Event × List Failure :=
  advance exec c.shell c.input c.loops

/-- An answer that changes nothing. -/
def answer (c : Console) (r : Reply) : Answer := ⟨.ok r, c, [], []⟩

/-- The answer to something that ran on the shell. -/
def ofOutcome {α : Type} (c : Console) (o : Outcome α) (reply : α → Reply) : Answer :=
  ⟨o.result.map reply, { c with shell := o.shell }, o.events, []⟩

/-- Whether somebody will have to feed the input. -/
def isFed (c : Console) : Bool := c.input.tail = .waits

/-- Runs a loop in the caller's place. -/
def runLoop (exec : String → Shell → Outcome Bool) (c : Console) : Answer :=
  let l := Loop.runAll exec c.shell c.input
  let reply := match l.phase with
    | .ended (some f) => .error f
    | _ => .ok .nothing
  ⟨reply, { c with shell := l.shell, input := l.input }, l.events, []⟩

/-- Lets the loops go on, and answers whether one is alive if the input is fed. -/
def settled (exec : String → Shell → Outcome Bool) (c : Console) (es : List Event) : Answer :=
  let (c', es', crashes) := c.settle exec
  ⟨.ok (if c.isFed then .alive c'.isBusy else .nothing), c', es ++ es', crashes⟩

/-- Starts a loop: beside the caller, or in its place. -/
def start (exec : String → Shell → Outcome Bool) (runAsync : Option Bool) (c : Console) : Answer :=
  let s := { c.shell with runAsync := runAsync.getD c.shell.runAsync, running := true }
  if s.runAsync then
    let l := Loop.start { s with worker := some c.loops.length } c.input
    settled exec ⟨l.shell, l.input, c.loops ++ [l.phase]⟩ l.events
  else runLoop exec { c with shell := s }

/-- Does something with a console. -/
def perform (fs : Files) (c : Console) : Action → Answer
  | .exec line => c.ofOutcome (c.shell.exec fs line) .flag
  | .dispatch command params => c.ofOutcome (c.shell.dispatch fs command params) .flag
  | .substitute params => c.answer (.params (c.shell.substitute params))
  | .setVariable name value =>
    answer { c with shell := c.shell.setVariable name value } .nothing
  | .getVariable name => c.answer (.text (c.shell.vars.get? name))
  | .variableNames => c.answer (.names (sortNames c.shell.vars.keys))
  | .commandNames => c.answer (.names (sortNames c.shell.commands.keys))
  | .getCommand name => c.answer (.command (c.shell.commands.get? name))
  | .register names handler =>
    match handler with
    | none => c.answer .nothing
    | some h =>
      answer { c with shell := names.foldl (fun s n => s.register n h) c.shell } .nothing
  | .execute b params => c.ofOutcome (c.shell.perform fs (b.body params)) fun _ => .nothing
  | .script path echo => c.ofOutcome (c.shell.runScript fs path echo) fun _ => .nothing
  | .addBuiltins => answer { c with shell := c.shell.withBuiltins } (.flag true)
  | .setInput input => answer { c with input := input } .nothing
  | .setPrompt prompt => answer { c with shell := { c.shell with prompt := prompt } } .nothing
  | .setRunning running => answer { c with shell := { c.shell with running := running } } .nothing
  | .start runAsync => c.start (Shell.exec fs) runAsync
  | .run => c.runLoop (Shell.exec fs)
  | .stop => answer { c with shell := c.shell.stop } .nothing
  | .join => c.answer .nothing
  | .feed line =>
    settled (Shell.exec fs) { c with input := c.input.feed line.toList } []
  | .drain =>
    let (text, input) := c.input.drain
    ⟨text.map fun t => .text (some t), { c with input := input }, [], []⟩

end Console

end LineShell
