import LineShell.Shell.Exec
import LineShell.Text.Blank
import LineShell.Text.Lines

/-!
# The built-in commands

    exit                                   stop reading input
    echo text=<text>                       print text, or an empty line
    help                                   list the registered commands
    setvar <name>=<value> ...              set variables
    printvar [<name> ...]                  print variables, all if none is named
    exec filename=<path> [print-lines]     run each line of a file

Listings are sorted by code points. A file that cannot be read is reported and runs no line at all,
since it is read as a whole before the first line is run.
-/

namespace LineShell

/-! ## Yes and no -/

/-- The words for yes. -/
def trueWords : List String := ["true", "yes", "1", "on"]

/-- Whether a parameter says yes, in any case and between any blanks. Only ASCII letters are
lowered: no other character is the capital of a letter that occurs in a word for yes. -/
def saysYes (value : Option String) (default : Bool) : Bool :=
  match value with
  | none => default
  | some v =>
    trueWords.contains (String.ofList ((Text.trimBlank v.toList).map Char.toLower))

/-- Sorts names by their code points. -/
def sortNames (names : List String) : List String := names.mergeSort fun a b => decide (a ≤ b)

theorem mem_sortNames {names : List String} {n : String} : n ∈ sortNames names ↔ n ∈ names :=
  List.mem_mergeSort

namespace Program

/-- Writes several texts, one after the other. -/
def writeAll (texts : List String) (next : Program) : Program := texts.foldr write next

/-- Runs several lines, one after the other; each is shown first if `echo` is set. -/
def execAll (echo : Bool) (lines : List String) (next : Program) : Program :=
  lines.foldr (fun line next =>
    let run := exec line fun _ => next
    if echo then write s!"// {line}\n" run else run) next

end Program

namespace Builtin

/-- All built-in commands, in the order in which they are registered. -/
def all : List Builtin := [exit, echo, help, setvar, printvar, exec]

theorem mem_all (b : Builtin) : b ∈ all := by cases b <;> decide

/-- The name of a built-in command. -/
def name : Builtin → String
  | exit => "exit"
  | echo => "echo"
  | help => "help"
  | setvar => "setvar"
  | printvar => "printvar"
  | exec => "exec"

/-- What `help` says about it. -/
def helpText : Builtin → String
  | exit => "Stop reading input"
  | echo => "Print text (usage: echo text=<text>)"
  | help => "List available commands"
  | setvar => "Set variables (usage: setvar <name>=<value> ...)"
  | printvar => "Print variables, all if none named (usage: printvar [<name> ...])"
  | exec => "Run commands from a file (usage: exec filename=<path> [print-lines])"

/-- The built-in command of a name. -/
def ofName? (n : String) : Option Builtin := all.find? fun b => b.name == n

theorem ofName?_name (b : Builtin) : ofName? b.name = some b := by cases b <;> decide

/-! ## Listings -/

/-- The lines that `help` prints for the commands with these help texts. -/
def helpLines (texts : Assoc String String) : List String :=
  "Commands:\n" ::
    (sortNames texts.keys).map (fun n =>
      match texts.get? n with
      | none | some "" => s!"\t-{n}\n"
      | some t => s!"\t-{n} - {t}\n") ++
    [".\n"]

/-- The lines that `printvar` prints for these names. -/
def variableLines (vars : Assoc String String) (names : List String) : List String :=
  "Variables:\n" ::
    names.map (fun n => "\t" ++ n ++ ": " ++ (vars.get? n).getD "None" ++ "\n") ++
    [".\n"]

/-! ## Running files -/

/-- The lines of a file: a line ends at any line boundary, after newlines have been made one. -/
def linesOf (text : List Char) : List String :=
  (Text.splitLines (Text.unifyNewlines text)).map String.ofList

/-- The text that reports why a file could not be run. -/
def fileReport (path : String) : FileError → String
  | .undecodable u =>
    s!"Can't execute the specified file: {path} is not valid UTF-8 ({u.message})"
  | .refused cause q =>
    if cause.isMissing then s!"Can't execute the specified file: {path} not found"
    else s!"Can't execute the specified file: {(FileError.refused cause q).message}"
  | e => s!"Can't execute the specified file: {e.message}"

/-- Reports on a file or on a missing name. -/
def report (message : String) : Program := .log ⟨.error, .builtins, message⟩ .done

/-- Runs the lines of a file. A name with a null character in it is no name of a file at all, which
is not a matter of reading. -/
def runFile (path : String) (echo : Bool) : Program :=
  .write s!"Executing file: {path}\n" <|
    .readFile path fun r =>
      match r with
      | .ok text => .execAll echo (linesOf text) .done
      | .error .nullInPath => .fail (.file .nullInPath)
      | .error e => report (fileReport path e)

/-! ## The commands -/

/-- What a built-in command does with its parameters. -/
def body : Builtin → Params → Program
  | exit, _ => .stop .done
  | echo, params => .write ((params.get? "text").getD "" ++ "\n") .done
  | help, _ => .commands fun texts => .writeAll (helpLines texts) .done
  | setvar, params => params.entries.foldr (fun p next => .setVariable p.1 p.2 next) .done
  | printvar, params => .vars fun vars =>
    let names := if params.keys.isEmpty then sortNames vars.keys else params.keys
    .writeAll (variableLines vars names) .done
  | exec, params =>
    match params.get? "filename" with
    | none | some "" => report "Can't execute file: no filename given"
    | some path => runFile path (saysYes (params.get? "print-lines") false)

/-- The handler of a built-in command. -/
def handler (b : Builtin) : Handler := ⟨.builtin b, b.helpText, b.body⟩

end Builtin

namespace Shell

/-- Registers all built-in commands. -/
def withBuiltins (s : Shell) : Shell :=
  Builtin.all.foldl (fun s b => s.register b.name b.handler) s

/-- A new shell with all built-in commands. -/
def standard (prompt : String) (runAsync : Bool) : Shell :=
  withBuiltins { prompt := prompt, runAsync := runAsync }

/-- Runs the file that a shell is started with. -/
def runScript (fs : Files) (path : String) (echo : Bool) (s : Shell) : Outcome Unit :=
  let params := Assoc.ofList [("filename", path), ("print-lines", if echo then "true" else "false")]
  (s.perform fs (Builtin.exec.body params)).after
    [.logged ⟨.info, .startup, s!"Running startup script: {path}"⟩]

end Shell

end LineShell
