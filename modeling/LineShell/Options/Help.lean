import LineShell.Options.Basic

/-!
# What the command line tells about itself

The summary and the help text, made from the table of options. The summary is broken into lines
between options; in the help text, an option whose names leave no room for a blank has its
explanation on a line of its own.
-/

namespace LineShell.Options

/-- The name of the program. -/
def programName : String := "interactive-cli"

/-- How wide lines may get. -/
def lineWidth : Nat := 78

/-- Where explanations begin. -/
def helpColumn : Nat := 24

/-- A text of blanks. -/
def blanks (n : Nat) : String := "".pushn ' ' n

/-! ## The summary -/

/-- An option in the summary, under its first name. -/
def summaryOf (o : Opt) : String :=
  "[" ++ o.spec.names.headD "" ++ ((o.spec.operand.map (" " ++ ·)).getD "") ++ "]"

/-- Fills lines with words; `line` holds the words of the current one and `width` its width. -/
def fill (indent limit : Nat) (line : List String) (width : Nat) : List String → List (List String)
  | [] => if line.isEmpty then [] else [line]
  | w :: ws =>
    if limit < width + 1 + w.length && !line.isEmpty then
      line :: fill indent limit [w] (indent + w.length) ws
    else fill indent limit (line ++ [w]) (width + 1 + w.length) ws

/-- Filling lines loses no word and keeps the order. -/
theorem flatten_fill (indent limit : Nat) (line : List String) (width : Nat) (ws : List String) :
    (fill indent limit line width ws).flatten = line ++ ws := by
  induction ws generalizing line width with
  | nil => cases line <;> simp [fill]
  | cons w ws ih => simp only [fill]; split <;> simp [ih]

/-- The summary. -/
def usage : String :=
  let head := s!"usage: {programName} "
  let lines := fill (head.length - 1) lineWidth [] (head.length - 1) (Opt.all.map summaryOf)
  head ++ ("\n" ++ blanks head.length).intercalate (lines.map (" ".intercalate ·)) ++ "\n"

/-! ## The help text -/

/-- An option under all its names, each with what it takes. -/
def heading (o : Opt) : String :=
  let operand := (o.spec.operand.map (" " ++ ·)).getD ""
  ", ".intercalate (o.spec.names.map (· ++ operand))

/-- The lines for an option. -/
def optionText (o : Opt) : String :=
  let h := "  " ++ heading o
  if h.length + 2 ≤ helpColumn then
    h ++ blanks (helpColumn - h.length) ++ o.spec.help ++ "\n"
  else h ++ "\n" ++ blanks helpColumn ++ o.spec.help ++ "\n"

/-- The options under their headings. -/
def groups : List (String × List Opt) :=
  [("options", [.help]),
    ("Configuration", [.config, .createConfig, .saveConfig]),
    ("Shell Settings", [.prompt, .runAsync, .script, .printLines, .noBuiltins, .definition]),
    ("Debug Options", [.verbose, .quiet, .logLevel])]

/-- Every option stands under one heading. -/
theorem groups_all : groups.flatMap Prod.snd = Opt.all := by decide

/-- A heading and its options. -/
def groupText (g : String × List Opt) : String :=
  s!"{g.1}:\n" ++ String.join (g.2.map optionText) ++ "\n"

/-- How the program is used. -/
def examples : List (String × String) :=
  [("", "Read commands from the terminal"),
    (" -x setup.txt", "Run setup.txt first, then read the terminal"),
    (" -D who=Alice", "Preload variable 'who'"),
    (" --prompt \"cli> \" -v", "Custom prompt, debug logging"),
    (" -c my_config.yaml", "Use specific config file"),
    (" --create-config sample.yaml", "Create sample config file")]

/-- One example. -/
def exampleText (e : String × String) : String :=
  s!"  {programName}" ++ e.1 ++ blanks (33 - e.1.length) ++ "# " ++ e.2 ++ "\n"

/-- Where configurations come from. -/
def sourcesText : String :=
  "Configuration:\n" ++
  "  Configuration is loaded in this order (later overrides earlier):\n" ++
  "  1. Built-in defaults\n" ++
  "  2. Configuration file (YAML)\n" ++
  "  3. Command line arguments\n" ++
  "\n" ++
  "  Config file search order:\n" ++
  "  - interactive_cli.yaml (current directory)\n" ++
  "  - config/interactive_cli.yaml\n" ++
  "  - ~/.config/interactive_cli/config.yaml\n" ++
  "  - /etc/interactive_cli/config.yaml\n" ++
  "\t\t\n"

/-- The help text. -/
def helpText : String :=
  usage ++ "\nInteractive command shell\n\n" ++ String.join (groups.map groupText) ++
    "Examples:\n" ++ String.join (examples.map exampleText) ++ "\n" ++ sourcesText

end LineShell.Options
