import LineShell.Config.Basic
import LineShell.Files.Tree
import LineShell.Line.Basic
import LineShell.Log
import LineShell.Yaml.Fault

/-!
# Checking configurations

A configuration may hold anything. Before a shell is started with it, it is checked: `Config.check`
lists what is wrong (`Objection`), in a fixed order. Some configurations cannot even be checked, or
have a console that cannot be set up; these fail (`Config.Fault`).
-/

namespace LineShell.Config

/-! ## Faults -/

/-- Why something could not be done with a configuration. -/
inductive Fault where
  /-- A file could not be used. -/
  | file (e : FileError)
  /-- A document has a scalar that is not what its tag says. -/
  | document (f : Yaml.Fault)
  /-- There is no configuration to take a part from. -/
  | absent (part : String)
  /-- A value of this kind is no path. -/
  | notPath (kind : String)
  /-- A value has no text to be shown as. -/
  | unshown (w : Value.Flaw)
  /-- There is no text to define a variable. -/
  | noDefinition
  /-- The name of a level names something else, with this text. -/
  | levelText (text : String)
  /-- The name of a level names something else, which is no text. -/
  | levelTable
  /-- A value of this kind is no name of a level. -/
  | levelKind (kind : String)
deriving DecidableEq, Repr

namespace Fault

/-- The table of styles that a level name can hit upon. -/
def styleTable : String :=
  "\x7b'%': (<class 'logging.PercentStyle'>, '%(levelname)s:%(name)s:%(message)s'), " ++
  "'\x7b': (<class 'logging.StrFormatStyle'>, '\x7blevelname\x7d:\x7bname\x7d:\x7bmessage\x7d'), " ++
  "'$': (<class 'logging.StringTemplateStyle'>, " ++
  "'$\x7blevelname\x7d:$\x7bname\x7d:$\x7bmessage\x7d')\x7d"

/-- The fault in words. -/
def message : Fault → String
  | file e => e.message
  | document f => f.message
  | absent part => "'NoneType' object has no attribute " ++ Text.quoted part
  | notPath kind =>
    if kind = "bytes" then
      "argument should be a str object or an os.PathLike object returning str, " ++
        "not <class 'bytes'>"
    else s!"expected str, bytes or os.PathLike object, not {kind}"
  | unshown .longNumber =>
    s!"Exceeds the limit ({Decimal.maxDigits} digits) for integer string conversion; " ++
      "use sys.set_int_max_str_digits() to increase the limit"
  | unshown .tooDeep =>
    "maximum recursion depth exceeded while getting the repr of an object"
  | noDefinition => "'list' object has no attribute 'partition'"
  | levelText text => "Unknown level: " ++ Text.quoted text
  | levelTable => "Level not an integer or a valid string: " ++ styleTable
  | levelKind kind => s!"'{kind}' object has no attribute 'upper'"

end Fault

/-! ## The least level shown -/

/-- The rank that the name of a level stands for. A name that stands for none means `INFO`, except
for two names that stand for something else altogether. -/
def rankOfName (name : String) : Except Fault Nat :=
  match name with
  | "NOTSET" => .ok 0
  | "WARN" => .ok 30
  | "FATAL" => .ok 50
  | "BASIC_FORMAT" => .error (.levelText "%(levelname)s:%(name)s:%(message)s")
  | "_STYLES" => .error .levelTable
  | name => .ok ((Log.Level.ofName? name).getD .info).rank

/-- The rank of the least level that is shown with these settings. The name of the level is wanted
only if nothing else decides. -/
def rankOf (verbose quiet level : Value) : Except Fault Nat :=
  if verbose.holds then .ok Log.Level.debug.rank
  else if quiet.holds then .ok Log.Level.warning.rank
  else match level with
    | .str name => rankOfName (Text.upper name)
    | v => .error (.levelKind v.kind)

end Config

/-- The rank of the least level that a console shows. -/
def ConsoleSettings.rank (c : ConsoleSettings) : Except Config.Fault Nat :=
  Config.rankOf c.verbose c.quiet (.str c.logLevel)

namespace Config

/-! ## Objections -/

/-- What can be wrong with a configuration. -/
inductive Objection where
  /-- The prompt is no text. -/
  | prompt (literal : String)
  /-- There is no such level. -/
  | level (name : String)
  /-- The console is to show more and less. -/
  | loudAndQuiet
  /-- A variable has a name that no parameter can have. -/
  | name (n : String)
  /-- There is no such file. -/
  | script (path : String)
deriving DecidableEq, Repr

/-- The objection in words. -/
def Objection.message : Objection → String
  | prompt literal => s!"Prompt must be a string, got: {literal}"
  | level l => s!"Invalid log_level: {l}. Must be one of " ++
      ", ".intercalate (Log.Level.all.map Log.Level.name)
  | loudAndQuiet => "Verbose and quiet cannot both be enabled"
  | name n => "Invalid variable name: " ++ Text.quoted n
  | script path => s!"Startup script not found: {path}"

/-- Whether a name of a variable passes: a name, or a name and a line feed. -/
def isVariableName (name : String) : Bool :=
  match name.toList.reverse with
  | '\n' :: rest => Line.isName rest.reverse
  | _ => Line.isName name.toList

/-- The objections to a list of settings, each with whether it applies. -/
def applying (os : List (Bool × Objection)) : List Objection :=
  os.filterMap fun (applies, o) => if applies then some o else none

/-- Whether a value is a path, and there is a file. -/
def isFileAt (fs : Files) : Value → Except Fault Bool
  | .str s => (fs.isFile (Path.ofString s).render).mapError .file
  | v => .error (.notPath v.kind)

/-- Everything that is wrong with a configuration. -/
def check (fs : Files) (c : Config) : Except Fault (List Objection) :=
  let settings := applying
    [(!c.shell.prompt.isStr, .prompt c.shell.prompt.literal),
      ((Log.Level.ofName? c.console.logLevel).isNone, .level c.console.logLevel),
      (c.console.verbose.holds && c.console.quiet.holds, .loudAndQuiet)]
  let names := (c.vars.keys.filter fun n => !isVariableName n).map Objection.name
  match c.shell.prompt.flaw? with
  | some w => .error (.unshown w)
  | none =>
    if c.shell.script.holds then
      (isFileAt fs c.shell.script).map fun found =>
        settings ++ names ++ applying [(!found, .script c.shell.script.display)]
    else .ok (settings ++ names)

end LineShell.Config
