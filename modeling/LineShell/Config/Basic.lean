import LineShell.Assoc
import LineShell.Text.LetterCase
import LineShell.Value.Parts
import LineShell.Value.Text

/-!
# Configurations

What a shell is started with: settings of the shell itself, settings of its console, and the
variables that are set before the first line. Settings come from documents, so most of them can hold
any value; only texts that were made texts on the way in are certain to be such.

* `Config.entriesIn` - the entries of a document, ready to be taken apart
* `Config.ofEntries?` - the configuration that a mapping describes; what it leaves out has its
  default, and what has to be a text must be short enough to be written as one
* `Config.toValue` - the mapping that describes a configuration
* `Config.agrees` - whether two configurations say the same
-/

namespace LineShell

/-- The settings of the shell. -/
structure ShellSettings where
  /-- What is written before each line is read. -/
  prompt : Value := .str "> "
  /-- Whether lines are read beside the caller. -/
  runAsync : Value := .bool false
  /-- A file of lines that are run before any is read. -/
  script : Value := .null
  /-- Whether the lines of that file are shown. -/
  echoScript : Value := .bool false
  /-- Whether the shell has the built-in commands. -/
  builtins : Value := .bool true

/-- The settings of the console. -/
structure ConsoleSettings where
  verbose : Value := .bool false
  quiet : Value := .bool false
  /-- The name of the least level that is shown, in upper case. -/
  logLevel : String := "INFO"

/-- A configuration. -/
structure Config where
  shell : ShellSettings := {}
  console : ConsoleSettings := {}
  /-- Set before the first line is run. -/
  vars : Assoc String String := ∅
  version : String := "1.0"
  description : Value := .str "Interactive CLI Configuration"

instance : Inhabited Config := ⟨{}⟩

/-- Entries of a mapping. -/
abbrev Entries := List (Value × Value)

/-! ## Reading -/

namespace ShellSettings

/-- The settings in a mapping. -/
def ofEntries (es : Entries) : ShellSettings :=
  let d : ShellSettings := {}
  let setting (name : String) (default : Value) : Value := (Value.find? name es).getD default
  { prompt := setting "prompt" d.prompt
    runAsync := setting "run_async" d.runAsync
    script := setting "startup_script" d.script
    echoScript := setting "echo_script_lines" d.echoScript
    builtins := setting "builtins" d.builtins }

end ShellSettings

namespace ConsoleSettings

/-- The settings in a mapping. -/
def ofEntries? (es : Entries) : Option ConsoleSettings :=
  let d : ConsoleSettings := {}
  let level := match Value.find? "log_level" es with
    | some v => v.display?
    | none => some d.logLevel
  level.map fun name =>
    { verbose := (Value.find? "verbose" es).getD d.verbose
      quiet := (Value.find? "quiet" es).getD d.quiet
      logLevel := Text.upper name }

end ConsoleSettings

namespace Config

/-- The text that a variable gets from a value. -/
def variableText? : Value → Option String
  | .bool b => some (if b then "true" else "false")
  | .null => some ""
  | v => v.display?

/-- The variable in an entry. -/
def variableOf? (e : Value × Value) : Option (String × String) :=
  match e.1.display?, variableText? e.2 with
  | some name, some value => some (name, value)
  | _, _ => none

/-- The variables in a mapping. Names that look the same are the same. -/
def variablesOf? (es : Entries) : Option (Assoc String String) :=
  (es.mapM variableOf?).map Assoc.ofList

/-- The names under which a mapping can describe a configuration. -/
def knownKeys : List String := ["config_version", "description", "shell", "console", "variables"]

/-- Whether a key is one of them. -/
def isKnownKey : Value → Bool
  | .str s => knownKeys.contains s
  | _ => false

/-- The names of the settings that are mappings themselves, if they do anything. -/
def sectionKeys : List String := ["shell", "console", "variables"]

/-- An entry of a document with its settings by themselves, if it has any. -/
def openSection : Value × Value → Value × Value
  | (.str name, .map l inner) =>
    (.str name, .map l (if sectionKeys.contains name then (Value.map l inner).parts else inner))
  | e => e

/-- The entries of a document and of its sections, each as it is by itself. -/
def entriesIn (document : Value) : Entries := document.parts.map openSection

/-- What a mapping has under a name, if that is a mapping. -/
def section? (name : String) (es : Entries) : Option Entries :=
  match Value.find? name es with
  | some (.map _ inner) => some inner
  | _ => none

/-- The values in the entries of a document of which the text is needed, in the order in which they
are asked for it: keys that mean nothing, the version, the level, and the names and values of
variables. -/
def spelled (es : Entries) : List Value :=
  (es.map Prod.fst).filter (fun k => !isKnownKey k) ++ (Value.find? "config_version" es).toList ++
    ((section? "console" es).bind (Value.find? "log_level")).toList ++
    ((section? "variables" es).getD []).flatMap fun e => [e.1, e.2]

/-- Why the first of these values that has no text has none. -/
def flawIn? (es : Entries) : Option Value.Flaw := (spelled es).findSome? Value.flaw?

/-- The configuration that a mapping describes. -/
def ofEntries? (es : Entries) : Option Config :=
  let d : Config := {}
  let version := match Value.find? "config_version" es with
    | some v => v.display?
    | none => some d.version
  let console := match section? "console" es with
    | some inner => ConsoleSettings.ofEntries? inner
    | none => some d.console
  let vars := match section? "variables" es with
    | some inner => variablesOf? inner
    | none => some d.vars
  match version, console, vars with
  | some version, some console, some vars => some
    { shell := ((section? "shell" es).map ShellSettings.ofEntries).getD d.shell
      console := console
      vars := vars
      version := version
      description := (Value.find? "description" es).getD d.description }
  | _, _, _ => none

end Config

/-! ## Writing -/

namespace ShellSettings

/-- The settings as a mapping. -/
def entries (s : ShellSettings) : Entries :=
  [(.str "prompt", s.prompt), (.str "run_async", s.runAsync), (.str "startup_script", s.script),
    (.str "echo_script_lines", s.echoScript), (.str "builtins", s.builtins)]

/-- The settings are read back from their mapping. -/
@[simp] theorem ofEntries_entries (s : ShellSettings) : ofEntries s.entries = s := rfl

end ShellSettings

namespace ConsoleSettings

/-- The settings as a mapping. -/
def entries (c : ConsoleSettings) : Entries :=
  [(.str "verbose", c.verbose), (.str "quiet", c.quiet), (.str "log_level", .str c.logLevel)]

end ConsoleSettings

namespace Config

/-- The variables as a mapping. -/
def variableEntries (vars : Assoc String String) : Entries :=
  vars.entries.map fun (k, v) => (.str k, .str v)

/-- The configuration as a mapping. -/
def entries (c : Config) : Entries :=
  [(.str "config_version", .str c.version), (.str "description", c.description),
    (.str "shell", .map none c.shell.entries), (.str "console", .map none c.console.entries),
    (.str "variables", .map none (variableEntries c.vars))]

/-- The mapping that describes a configuration. -/
def toValue (c : Config) : Value := .map none c.entries

/-! ## Comparing -/

/-- Whether two configurations say the same: all settings, in whatever order variables came. -/
def agrees (c d : Config) : Bool :=
  let s := c.shell
  let t := d.shell
  Value.sameKey s.prompt t.prompt && Value.sameKey s.runAsync t.runAsync &&
    Value.sameKey s.script t.script && Value.sameKey s.echoScript t.echoScript &&
    Value.sameKey s.builtins t.builtins && Value.sameKey c.console.verbose d.console.verbose &&
    Value.sameKey c.console.quiet d.console.quiet && c.console.logLevel == d.console.logLevel &&
    c.vars.keys.length == d.vars.keys.length &&
    c.vars.entries.all (fun p => d.vars.get? p.1 == some p.2) &&
    c.version == d.version && Value.sameKey c.description d.description

end Config

end LineShell
