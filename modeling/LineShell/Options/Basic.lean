import LineShell.Log

/-!
# Options

The options of the command line: a table of what each is called, what it takes and what it is for
(`Opt.spec`), and the record of what was given (`Options`).
-/

namespace LineShell

/-- An option of the command line. -/
inductive Opt where
  | help
  | config
  | createConfig
  | saveConfig
  | prompt
  | runAsync
  | script
  | printLines
  | noBuiltins
  | definition
  | verbose
  | quiet
  | logLevel
deriving DecidableEq, Repr

namespace Opt

/-- What there is to say about an option. -/
structure Spec where
  /-- Short names first. -/
  names : List String
  /-- What the text that it takes is called, if it takes one. -/
  operand : Option String
  help : String

/-- The names of the levels that can be chosen. -/
def levelNames : List String := Log.Level.all.map Log.Level.name

/-- The table of options. -/
def spec : Opt → Spec
  | help => ⟨["-h", "--help"], none, "show this help message and exit"⟩
  | config => ⟨["-c", "--config"], some "CONFIG", "Configuration file path (YAML format)"⟩
  | createConfig => ⟨["--create-config"], some "FILE",
      "Create sample configuration file and exit"⟩
  | saveConfig => ⟨["--save-config"], some "FILE", "Save current configuration to file"⟩
  | prompt => ⟨["--prompt"], some "PROMPT", "Prompt printed before each input line"⟩
  | runAsync => ⟨["--async"], none, "Run the input loop on a background thread"⟩
  | script => ⟨["-x", "--script"], some "FILE",
      "Execute commands from FILE before reading input"⟩
  | printLines => ⟨["--print-lines"], none, "Echo each startup script line before running it"⟩
  | noBuiltins => ⟨["--no-builtins"], none, "Do not register the built-in commands"⟩
  | definition => ⟨["-D", "--define"], some "NAME=VALUE",
      "Preload a shell variable (repeatable)"⟩
  | verbose => ⟨["-v", "--verbose"], none, "Enable verbose debug output"⟩
  | quiet => ⟨["-q", "--quiet"], none, "Quiet mode (warnings and errors only)"⟩
  | logLevel => ⟨["--log-level"], some ("\x7b" ++ ",".intercalate levelNames ++ "\x7d"),
      "Logging level"⟩

/-- All options, in the order in which they are looked through and listed. -/
def all : List Opt :=
  [help, config, createConfig, saveConfig, prompt, runAsync, script, printLines, noBuiltins,
    definition, verbose, quiet, logLevel]

theorem mem_all (o : Opt) : o ∈ all := by cases o <;> decide

/-- Whether an option takes a text. -/
def takesOperand (o : Opt) : Bool := o.spec.operand.isSome

/-- An option under all its names, for messages. -/
def title (o : Opt) : String := "/".intercalate o.spec.names

/-- Every name with its option. -/
def named : List (String × Opt) := all.flatMap fun o => o.spec.names.map (·, o)

/-- The option of a name. -/
def ofName? (name : String) : Option Opt := (named.find? fun p => p.1 == name).map Prod.snd

/-- An option is found under each of its names. -/
theorem ofName?_of_mem {o : Opt} : ∀ {name : String}, name ∈ o.spec.names →
    ofName? name = some o := by
  intro name h
  have hall : ∀ p ∈ named, ofName? p.1 = some p.2 := by decide
  exact hall (name, o) (List.mem_flatMap.2 ⟨o, mem_all o, List.mem_map.2 ⟨name, h, rfl⟩⟩)

end Opt

/-- What an option was given in the place of a text. -/
inductive Operand where
  | text (s : String)
  /-- Two dashes, which are taken out and leave nothing. -/
  | nothing
deriving DecidableEq, Repr

namespace Operand

/-- What a text is, in the place of an operand. -/
def ofString (s : String) : Operand := if s = "--" then nothing else text s

/-- The text, unless it is empty or there is none. -/
def nonEmpty? : Operand → Option String
  | text s => if s.isEmpty then none else some s
  | nothing => none

end Operand

/-- What was given on the command line. -/
structure Options where
  config : Option Operand := none
  createConfig : Option Operand := none
  saveConfig : Option Operand := none
  prompt : Option Operand := none
  runAsync : Bool := false
  script : Option Operand := none
  printLines : Bool := false
  noBuiltins : Bool := false
  definitions : List Operand := []
  verbose : Bool := false
  quiet : Bool := false
  /-- In upper case. -/
  logLevel : Option Operand := none
deriving DecidableEq, Repr

end LineShell
