import LineShell.Config.Check
import LineShell.Options.Parser

/-!
# Options over configurations

What was given on the command line goes before what a file says. Options can only raise flags, not
lower them, and an empty text counts as given for the prompt alone.
-/

namespace LineShell

/-- The variable that a definition defines: its name ends at the first equals sign. -/
def Operand.definition? : Operand → Option (String × String)
  | text s =>
    let (name, value) := Options.cutAtEquals s.toList
    some (String.ofList name, String.ofList (value.getD []))
  | nothing => none

namespace Config

/-- The value of an operand. -/
def operandValue : Operand → Value
  | .text s => .str s
  | .nothing => .list none []

/-- A flag that an option may raise. -/
def raise (given : Bool) (v : Value) : Value := if given then .bool true else v

/-- The settings of the shell with options over them. -/
def overrideShell (o : Options) (s : ShellSettings) : ShellSettings where
  prompt := (o.prompt.map operandValue).getD s.prompt
  runAsync := raise o.runAsync s.runAsync
  script := ((o.script.bind Operand.nonEmpty?).map Value.str).getD s.script
  echoScript := raise o.printLines s.echoScript
  builtins := if o.noBuiltins then .bool false else s.builtins

/-- The settings of the console with options over them. -/
def overrideConsole (o : Options) (c : ConsoleSettings) : ConsoleSettings where
  verbose := raise o.verbose c.verbose
  quiet := raise o.quiet c.quiet
  logLevel := ((o.logLevel.bind Operand.nonEmpty?).map Text.upper).getD c.logLevel

/-- Defines variables, one after the other, up to the first definition that has no text. The flag
says whether all were defined. -/
def define (vars : Assoc String String) : List Operand → Assoc String String × Bool
  | [] => (vars, true)
  | d :: ds =>
    match d.definition? with
    | some (name, value) => define (vars.insert name value) ds
    | none => (vars, false)

/-- A configuration with options over it. If a definition has no text, the options that are looked
at after it are left out. -/
def override (c : Config) (o : Options) : Config × Option Fault :=
  let (vars, complete) := define c.vars o.definitions
  let c := { c with shell := overrideShell o c.shell, vars := vars }
  if complete then ({ c with console := overrideConsole o c.console }, none)
  else (c, some .noDefinition)

/-- Without options, a configuration stays as it is. -/
theorem override_none (c : Config) : c.override {} = (c, none) := rfl

end Config

end LineShell
