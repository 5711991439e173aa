/-!
# The log

A record has a level, the part of the program that wrote it, and a text. A log is read from a level
upwards (`Level.rank`).
-/

namespace LineShell.Log

/-- How much a record matters. -/
inductive Level where
  | debug
  | info
  | warning
  | error
  | critical
deriving DecidableEq, Repr

namespace Level

/-- The rank of a level. -/
def rank : Level → Nat
  | debug => 10
  | info => 20
  | warning => 30
  | error => 40
  | critical => 50

/-- The name of a level. -/
def name : Level → String
  | debug => "DEBUG"
  | info => "INFO"
  | warning => "WARNING"
  | error => "ERROR"
  | critical => "CRITICAL"

/-- All levels, the least first. -/
def all : List Level := [debug, info, warning, error, critical]

/-- The level of a name. -/
def ofName? (s : String) : Option Level := all.find? fun l => l.name == s

/-- A level is found under its own name. -/
theorem ofName?_name (l : Level) : ofName? l.name = some l := by cases l <;> decide

end Level

/-- The part of the program that writes a record. -/
inductive Source where
  | parser
  | shell
  | builtins
  | config
  | startup
deriving DecidableEq, Repr

/-- The name under which a part writes. -/
def Source.name : Source → String
  | parser => "cli_commands.parser"
  | shell => "cli_commands.dispatcher"
  | builtins => "cli_commands.builtins"
  | config => "config_manager"
  | startup => "interactive_cli"

/-- One entry of the log. -/
structure Record where
  level : Level
  source : Source
  message : String
deriving DecidableEq, Repr

/-- The record as a line of text. -/
def Record.line (r : Record) : String := s!"{r.level.name} {r.source.name}: {r.message}\n"

end LineShell.Log
