import LineShell.Config.Override
import LineShell.Config.Sample
import LineShell.Text.Lines
import LineShell.Yaml.Reading
import LineShell.Yaml.Writing

/-!
# Where configurations are kept

A `ConfigStore` holds the present configuration and remembers the file it came from. It loads one
from a file that is named, or else from the first of the usual places where there is a file; it
writes one back; and it writes a sample. What goes wrong with a file is logged and leaves the
default configuration, unless the file has contents that cannot even be called a document.
-/

namespace LineShell

/-- A configuration and where it comes from. -/
structure ConfigStore where
  /-- The file to load when no other is named. -/
  preferred : Option String := none
  config : Option Config := some {}
  /-- The file that was loaded last. -/
  source : Option Path := none

namespace ConfigStore

/-- What an operation gives. -/
structure Answer (α : Type) where
  result : Except Config.Fault α
  store : ConfigStore
  files : Files
  log : List Log.Record := []

/-- A record that operations on configurations write. -/
def record (level : Log.Level) (message : String) : Log.Record := ⟨level, .config, message⟩

/-- A text, if there is one that is not empty. -/
def nonEmpty (s : Option String) : Option String := s.filter fun t => !t.isEmpty

/-! ## Loading -/

/-- Reads the document in a file. -/
def readFile (fs : Files) (path : String) : Except Config.Fault Value :=
  match fs.readBytes path with
  | .error e => .error (.file e)
  | .ok bytes => (Yaml.readDocument (Yaml.Source.ofBytes bytes)).mapError .document

/-- Whether a fault is reported, and the default taken, instead of the whole failing. -/
def isReported : Config.Fault → Bool
  | .file (.refused ..) => true
  | .file (.brokenOff _) => true
  | .document .malformed => true
  | _ => false

/-- The warnings about keys that mean nothing, up to the first of them that has no text. -/
def unknownKeys (path : String) : Entries → List Log.Record
  | [] => []
  | e :: es =>
    if Config.isKnownKey e.1 then unknownKeys path es
    else match e.1.display? with
      | none => []
      | some key =>
        record .warning ("Unknown config key '" ++ key ++ "' in " ++ path) :: unknownKeys path es

/-- The configuration in a document, and what is to be said about it. A document that is empty or
says no describes the default. -/
def ofDocument (path : String) (v : Value) : Except Config.Fault Config × List Log.Record :=
  if v.holds then
    match v with
    | .map .. =>
      let es := Config.entriesIn v
      (match Config.flawIn? es, Config.ofEntries? es with
        | some w, _ => .error (.unshown w)
        | none, some c => .ok c
        -- where all have a text, there is a configuration
        | none, none => .ok {}, unknownKeys path es)
    | _ => (.ok {}, [record .error s!"Config file {path} is not a YAML mapping"])
  else (.ok {}, [])

/-- The configuration in a file, and what is to be said about it. -/
def loadFile (fs : Files) (path : String) : Except Config.Fault Config × List Log.Record :=
  match readFile fs path with
  | .ok v => ofDocument path v
  | .error f =>
    if isReported f then
      (.ok {}, [record .error s!"Error loading config file {path}: {f.message}"])
    else (.error f, [])

/-- The usual places, in the order in which they are looked at. -/
def places (fs : Files) : List Path :=
  let cwd := Files.absolute fs.cwd
  let home := Files.absolute fs.home
  [cwd.child "interactive_cli.yaml", (cwd.child "config").child "interactive_cli.yaml",
    ((home.child ".config").child "interactive_cli").child "config.yaml",
    ⟨"/", ["etc", "interactive_cli", "config.yaml"]⟩]

/-- The first path where there is something. -/
def firstPresent (fs : Files) : List Path → Except FileError (Option Path)
  | [] => .ok none
  | p :: ps =>
    match fs.present p.render with
    | .error e => .error e
    | .ok true => .ok (some p)
    | .ok false => firstPresent fs ps

/-- Takes the configuration of a file; `words` say so in the log. -/
def take (fs : Files) (words : String) (p : Path) (st : ConfigStore) : Answer Config :=
  match loadFile fs p.render with
  | (.error f, log) => ⟨.error f, st, fs, log⟩
  | (.ok c, log) =>
    ⟨.ok c, { st with config := some c, source := some p }, fs,
      log ++ [record .info s!"{words}: {p.render}"]⟩

/-- Loads a configuration: from the file that is named, else from the preferred one, else from one
of the usual places. Without a file, it is the default. -/
def load (fs : Files) (file : Option String) (st : ConfigStore) : Answer Config :=
  let st := { st with config := some {} }
  match (nonEmpty file).or (nonEmpty st.preferred) with
  | some name =>
    let p := Path.ofString name
    match fs.present p.render with
    | .error e => ⟨.error (.file e), st, fs, []⟩
    | .ok true => take fs "Loaded config from" p st
    | .ok false => ⟨.ok {}, st, fs, [record .warning s!"Config file not found: {p.render}",
        record .info "Using default configuration"]⟩
  | none =>
    match firstPresent fs (places fs) with
    | .error e => ⟨.error (.file e), st, fs, []⟩
    | .ok (some p) => take fs "Auto-discovered config" p st
    | .ok none => ⟨.ok {}, st, fs, [record .info "No config file found, using defaults"]⟩

/-! ## Changing and checking -/

/-- Puts options over the configuration. -/
def override (fs : Files) (o : Options) (st : ConfigStore) : Answer Config :=
  let (c, fault) := (st.config.getD {}).override o
  ⟨match fault with | none => .ok c | some f => .error f, { st with config := some c }, fs, []⟩

/-- The configuration, of which a part is wanted. -/
def require (part : String) (st : ConfigStore) : Except Config.Fault Config :=
  match st.config with
  | none => .error (.absent part)
  | some c => .ok c

/-- Checks the configuration. -/
def check (fs : Files) (st : ConfigStore) : Except Config.Fault (List Config.Objection) :=
  (st.require "shell").bind (Config.check fs)

/-! ## Saving -/

/-- The bytes of a text. -/
def bytesOf (s : String) : List UInt8 := s.toUTF8.data.toList

/-- What a saved configuration begins with. -/
def saveHeading : String := "# Interactive CLI Configuration\n# Generated configuration file\n"

/-- The line of a saved configuration that names its version. -/
def versionLine (c : Config) : String := s!"# Version: {c.version}\n\n"

/-- A saved configuration. If it cannot be written, only the remarks in front get into the file. -/
def savedText (c : Config) : String :=
  saveHeading ++ versionLine c ++
    (if (Yaml.writeFlaw? c.toValue).isNone then String.ofList (Yaml.writeDocument c.toValue)
      else "")

/-- The fault of saving what cannot be written. -/
def writeFault : Value.Flaw → Config.Fault
  | .longNumber => .unshown .longNumber
  | .tooDeep => .document .tooDeep

/-- Why a configuration has not been saved as a whole, if so. -/
def saveFault? : Option Config → Option Config.Fault
  | none => some (.absent "config_version")
  | some c => (Yaml.writeFlaw? c.toValue).map writeFault

/-- Where a configuration is saved: the file that is named, else the one that it came from. -/
def target (file : Option String) (st : ConfigStore) : Path :=
  match nonEmpty file with
  | some name => Path.ofString name
  | none => st.source.getD (Path.ofString "interactive_cli.yaml")

/-- Reports that something could not be written. A path that is none is not a matter of writing. -/
def reportWrite (message : String) (u : Files.Unfinished) (st : ConfigStore) : Answer Bool :=
  match u.error with
  | .nullInPath => ⟨.error (.file .nullInPath), st, u.files, []⟩
  | e => ⟨.ok false, st, u.files, [record .error s!"{message}: {e.message}"]⟩

/-- Saves the configuration, and makes the directories that the file needs. Without a
configuration, nothing but the heading gets into the file. -/
def save (fs : Files) (file : Option String) (st : ConfigStore) : Answer Bool :=
  let p := st.target file
  let failed (u : Files.Unfinished) : Answer Bool :=
    reportWrite s!"Error saving config to {p.render}" u st
  match fs.makeDirs p.parent with
  | .error u => failed u
  | .ok fs =>
    match fs.write p.render (bytesOf ((st.config.map savedText).getD saveHeading)) with
    | .error u => failed u
    | .ok fs =>
      match saveFault? st.config with
      | some f => ⟨.error f, st, fs, []⟩
      | none => ⟨.ok true, st, fs, [record .info s!"Configuration saved to: {p.render}"]⟩

/-- Writes the sample. -/
def writeSample (fs : Files) (file : Option String) (st : ConfigStore) : Answer Bool :=
  let name := file.getD "interactive_cli_sample.yaml"
  match fs.write name (bytesOf Config.sampleText) with
  | .error u => reportWrite "Error creating sample config" u st
  | .ok fs => ⟨.ok true, st, fs, [record .info s!"Sample configuration created: {name}"]⟩

end ConfigStore

end LineShell
