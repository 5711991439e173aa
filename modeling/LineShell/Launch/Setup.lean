import LineShell.Config.Store
import LineShell.Shell.Basic

/-!
# Setting up

From the command line to a configuration: read the options, write a sample if that is what is asked
for, else load a configuration, put the options over it, check it, and save it if asked to.
-/

namespace LineShell

/-- What setting up comes to. -/
inductive Setup where
  /-- A sample was written, and that is all. -/
  | sampled
  /-- There is nothing to start: the configuration does not do, or the sample was not written. -/
  | refused (store : ConfigStore)
  | ready (config : Config) (store : ConfigStore)

/-- Why setting up failed. -/
inductive SetupFailure where
  /-- The command line ends the program. -/
  | stopped (s : Options.Stop)
  | failed (f : Config.Fault)

namespace Setup

/-- What setting up gives: what it comes to or why it failed, the files, and what was seen. -/
structure Result where
  result : Except SetupFailure Setup
  files : Files
  events : List Event

/-- A line that is written. -/
def line (text : String) : Event := .output (text ++ "\n")

/-- Records as events. -/
def logged (log : List Log.Record) : List Event := log.map .logged

/-- Writes a sample. -/
def sample (fs : Files) (name : String) : Result :=
  let a := ConfigStore.writeSample fs (some name) {}
  match a.result with
  | .error f => ⟨.error (.failed f), a.files, logged a.log⟩
  | .ok true => ⟨.ok .sampled, a.files, logged a.log ++
      [line s!"Sample configuration created: {name}",
        line s!"Edit the file and run again with: -c {name}"]⟩
  | .ok false => ⟨.ok (.refused a.store), a.files, logged a.log ++
      [line s!"Could not create sample configuration: {name}"]⟩

/-- The text of an operand. -/
def operandText : Option Operand → Option String
  | some o => o.nonEmpty?
  | none => none

/-- Saves a configuration that has passed, if that is asked for. -/
def saveTo (file : Option String) (c : Config) (st : ConfigStore) (fs : Files)
    (events : List Event) : Result :=
  match file with
  | none => ⟨.ok (.ready c st), fs, events⟩
  | some name =>
    let a := st.save fs (some name)
    match a.result with
    | .error f => ⟨.error (.failed f), a.files, events ++ logged a.log⟩
    | .ok saved => ⟨.ok (.ready c a.store), a.files, events ++ logged a.log ++
        if saved then [line s!"Configuration saved to: {name}"] else []⟩

/-- Loads, overrides, checks and saves a configuration. -/
def configure (fs : Files) (o : Options) : Result :=
  let loaded := ConfigStore.load fs (operandText o.config) {}
  let events := logged loaded.log
  let failed (f : Config.Fault) : Result := ⟨.error (.failed f), fs, events⟩
  match loaded.result with
  | .error f => failed f
  | .ok _ =>
    let a := loaded.store.override fs o
    match a.result, a.store.check fs with
    | .error f, _ => failed f
    | _, .error f => failed f
    | .ok c, .ok [] => saveTo (operandText o.saveConfig) c a.store fs events
    | .ok _, .ok objections => ⟨.ok (.refused a.store), fs, events ++
        line "Configuration errors:" :: objections.map fun o => line s!"  ✗ {o.message}"⟩

/-- Sets up from the command line. -/
def run (fs : Files) (args : List String) : Result :=
  match Options.parse args with
  | .error s => ⟨.error (.stopped s), fs, if s.output.isEmpty then [] else [.output s.output]⟩
  | .ok o =>
    match operandText o.createConfig with
    | some name => sample fs name
    | none => configure fs o

/-- The paths that setting up looks at, as far as the files show. A script that is named in a
configuration counts once that configuration is among the files. -/
def paths (fs : Files) (args : List String) : List String :=
  match Options.parse args with
  | .error _ => []
  | .ok o =>
    let named := [o.config, o.createConfig, o.saveConfig].filterMap operandText
    let store := ((ConfigStore.load fs (operandText o.config) {}).store.override fs o).store
    let script := match store.config.map fun c => c.shell.script with
      | some (.str s) => [s]
      | _ => []
    named ++ (ConfigStore.places fs).map Path.render ++ script

end Setup

end LineShell
