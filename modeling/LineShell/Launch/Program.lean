import LineShell.Launch.Build
import LineShell.Launch.Setup
import LineShell.Shell.Handlers

/-!
# The programs

`Launch.run` is the whole program: set up, make the shell, run the startup script, read lines until
the end. `Launch.demo` is a shell with one more command, for trying things out. Both are functions
of the files, the command line and the input, and give what is written to the output and to the
error channel.

Until the console has been set up, only warnings and worse reach the error channel, and they do so
without level and source.
-/

namespace LineShell.Launch

/-- How a program ends. -/
inductive Ending where
  | status (n : Nat)
  | stopped (s : Options.Stop)
  | config (f : Config.Fault)
  | shell (f : Failure)

/-- What can be seen of a program: how it ends, the files, what it wrote to the output and to the
error channel, and the failures that ended loops beside it. -/
structure Result where
  ending : Ending
  files : Files
  output : String
  errors : String
  crashes : List Failure := []

/-! ## The error channel -/

/-- The log before the console has been set up. -/
def earlyLog (es : List Event) : String :=
  String.join (((Event.records es).filter fun r => Log.Level.warning.rank ≤ r.level.rank).map
    fun r => r.message ++ "\n")

/-- The log from a rank upwards. -/
def logFrom (rank : Nat) (es : List Event) : String :=
  String.join (((Event.records es).filter fun r => rank ≤ r.level.rank).map Log.Record.line)

/-! ## The program -/

/-- How a program ends whose shell was started, and what is seen when somebody interrupts it. -/
def endingOf (interrupted : String) : Except Failure Reply → Ending × List Event
  | .ok _ => (.status 0, [])
  | .error (.interrupt _) => (.status 0, if interrupted.isEmpty then [] else [.output interrupted])
  | .error f => (.shell f, [])

/-- Runs the startup script of a configuration, if it has one. -/
def runScript (fs : Files) (c : Config) (s : Shell) : Outcome Unit :=
  if c.shell.script.holds then
    s.runScript fs c.shell.script.display c.shell.echoScript.holds
  else ⟨.ok (), s, []⟩

/-- Runs the shell that a configuration describes: what is seen, how it ends, and the failures of
loops beside it. -/
def runShell (fs : Files) (c : Config) (input : Input) : Ending × List Event × List Failure :=
  let s := c.shellOf
  let o := runScript fs c s
  let before := Config.buildEvents s ++ o.events
  match o.result with
  | .error f => (.shell f, before, [])
  | .ok () =>
    let a := Console.start (Shell.exec fs) none ⟨o.shell, input, []⟩
    let (ending, after) := endingOf "\nShutting down...\n" a.reply
    (ending, before ++ a.events ++ after, a.crashes)

/-- What is said about the file that a configuration comes from. -/
def sourceEvents (st : ConfigStore) : List Event :=
  match st.source with
  | none => []
  | some p => [.logged ⟨.debug, .startup,
      s!"Configuration loaded from file and CLI overrides: {p.render}"⟩]

/-- Runs the program. -/
def run (fs : Files) (args : List String) (input : Input) : Result :=
  let setup := Setup.run fs args
  let out := Event.written setup.events
  let err := earlyLog setup.events
  let ended (e : Ending) : Result := ⟨e, setup.files, out, err, []⟩
  match setup.result with
  | .error (.stopped s) => ⟨.stopped s, setup.files, out, err ++ s.errors, []⟩
  | .error (.failed f) => ended (.config f)
  | .ok .sampled => ended (.status 0)
  | .ok (.refused _) => ended (.status 1)
  | .ok (.ready c st) =>
    match c.console.rank with
    | .error f => ended (.config f)
    | .ok rank =>
      let (ending, events, crashes) := runShell setup.files c input
      ⟨ending, setup.files, out ++ Event.written events,
        err ++ logFrom rank (sourceEvents st ++ events), crashes⟩

/-! ## The demonstration -/

/-- What the demonstration begins with. -/
def demoHeading : String :=
  let rule := "".pushn '=' 60 ++ "\n"
  rule ++ "  Interactive CLI Demo\n  Type help for commands, exit to quit\n" ++ rule ++ "\n"

/-- The shell of the demonstration. -/
def demoShell : Shell := (Shell.standard "you> " false).register "greet" .greet

/-- Runs the demonstration. -/
def demo (fs : Files) (input : Input) : Result :=
  let a := Console.start (Shell.exec fs) none ⟨demoShell, input, []⟩
  let (ending, _) := endingOf "" a.reply
  let bye := match ending with | .status _ => "\nBye!\n" | _ => ""
  ⟨ending, fs, demoHeading ++ Event.written a.events ++ bye,
    logFrom Log.Level.warning.rank a.events, a.crashes⟩

end LineShell.Launch
