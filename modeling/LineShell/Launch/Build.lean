import LineShell.Config.Check
import LineShell.Console.Basic

/-!
# Shells from configurations

A configuration says which commands and variables a shell has, what it shows before each line, and
where its loop runs. A prompt that is no text makes a shell that cannot be started: its loop fails
when the prompt is first to be shown.
-/

namespace LineShell

/-- Names in a row, each between quotes. -/
def nameList (names : List String) : String :=
  "[" ++ ", ".intercalate (names.map Text.quoted) ++ "]"

/-- The full name of the kind of a value. -/
def Value.fullKind : Value → String
  | .date .. => "datetime.date"
  | .stamp .. => "datetime.datetime"
  | v => v.kind

namespace Config

/-- The shell that a configuration describes; a prompt that is no text is left out. -/
def shellOf (c : Config) : Shell :=
  let prompt := match c.shell.prompt with | .str s => s | _ => ""
  let runAsync := c.shell.runAsync.holds
  let s := if c.shell.builtins.holds then Shell.standard prompt runAsync
    else { prompt := prompt, runAsync := runAsync }
  { s with vars := c.vars }

/-- What is said when a shell has been made. -/
def buildEvents (s : Shell) : List Event :=
  let record (message : String) : Event := .logged ⟨.debug, .startup, message⟩
  [record s!"Shell ready with commands: {nameList (sortNames s.commands.keys)}",
    record s!"Preloaded variables: {nameList (sortNames s.vars.keys)}"]

/-- Why the prompt cannot be shown, if so. -/
def promptFailure? (c : Config) : Option Failure :=
  if c.shell.prompt.isStr || !c.shell.prompt.holds then none
  else some (.other "TypeError" s!"string argument expected, got '{c.shell.prompt.fullKind}'")

/-- Starts the shell that a configuration describes at an input, and waits for its loop. -/
def start (fs : Files) (c : Config) (input : Input) : Answer :=
  match c.promptFailure? with
  | none => Console.start (Shell.exec fs) none ⟨c.shellOf, input, []⟩
  | some f =>
    let l := Loop.start c.shellOf input
    let l' := Loop.finish (some f) c.shellOf input l.events
    ⟨if c.shell.runAsync.holds then .ok .nothing else .error f, ⟨l'.shell, input, []⟩, l'.events,
      if c.shell.runAsync.holds then [f] else []⟩

/-- The variables of a configuration are those of its shell. -/
@[simp] theorem variables_shellOf (c : Config) : c.shellOf.vars = c.vars := rfl

end Config

end LineShell
