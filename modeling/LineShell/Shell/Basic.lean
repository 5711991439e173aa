import LineShell.Files.Tree
import LineShell.Line.Basic
import LineShell.Log

/-!
# The shell and its handlers

A shell keeps commands and variables, both by name. What a command does is a `Handler`: from the
parameters of a line it makes a `Program`, a tree of the things that a handler can do with its
shell. Handlers know nothing else of the world, so a run is determined by the shell, the files and
the lines that are typed.

Three things that a handler could do with its shell are no part of a program: to start a loop, to
run one in its own place, and to wait for one. They concern the input of the shell and its other
loops, of which a program knows nothing.

* `Failure` - what can end a run before its time
* `Question`, `Call` - what a handler can ask its shell, and have it run
* `Program`, `Handler` - what commands do
* `Shell` - the state; `Event` - what can be seen from outside
* `Outcome` - what a part of a run gives
-/

namespace LineShell

/-! ## Failures -/

/-- What can end a run before its time. -/
inductive Failure where
  /-- A file could not be used. -/
  | file (e : FileError)
  /-- Reading or writing failed. -/
  | io (message : String)
  /-- A value was not fit for its use. -/
  | value (message : String)
  /-- Nothing was found under a key. -/
  | lookup (key : String)
  /-- Somebody asked the program to stop. -/
  | interrupt (message : String)
  /-- Lines ran lines that ran lines, beyond the limit. -/
  | tooDeep
  /-- A failure that only the handler who raises it knows, by kind and text. -/
  | other (kind message : String)
deriving DecidableEq, Repr

namespace Failure

/-- The failure in words. -/
def message : Failure → String
  | file e => e.message
  | io m => m
  | value m => m
  | lookup key => Text.quoted key
  | interrupt m => m
  | tooDeep => "maximum recursion depth exceeded"
  | other _ m => m

/-- Whether a failure to read a line is the end of the input, and no more than that. -/
def endsInput : Failure → Bool
  | file _ => true
  | io _ => true
  | value _ => true
  | _ => false

end Failure

/-! ## Handlers -/

/-- The commands that every shell can have. -/
inductive Builtin where
  | exit
  | echo
  | help
  | setvar
  | printvar
  | exec
deriving DecidableEq, Repr

/-- What a handler tells whoever registered it. -/
inductive Note where
  | called (tag : String) (params : Params)
  | ran (tag : String) (results : List Bool)
deriving DecidableEq

/-- Where a handler comes from. -/
inductive Origin where
  | builtin (b : Builtin)
  | function (name : Option String)
  | object
deriving DecidableEq, Repr

/-- What a handler can ask about the loop of its shell. -/
inductive Question where
  /-- Whether the loop goes on. -/
  | running
  /-- Whether it is started beside its caller. -/
  | async
deriving DecidableEq, Repr

/-- What a handler can have its shell run. -/
inductive Call where
  | line (text : String)
  /-- A command with parameters, as if a line had been read already. -/
  | command (name : Option String) (params : Params)

/-- What a handler does with its shell, one thing after the other. -/
inductive Program where
  | done
  | fail (f : Failure)
  | write (text : String) (next : Program)
  | log (r : Log.Record) (next : Program)
  | note (n : Note) (next : Program)
  | setVariable (name value : String) (next : Program)
  | vars (next : Assoc String String → Program)
  /-- The registered names, each with the help text of its handler. -/
  | commands (next : Assoc String String → Program)
  | ask (q : Question) (next : Bool → Program)
  | register (name : String) (origin : Origin) (help : String) (body : Params → Program)
      (next : Program)
  /-- What comes of it may be a failure: the handler can go on all the same. -/
  | call (c : Call) (next : Except Failure Bool → Program)
  | stop (next : Program)
  | readFile (path : String) (next : Except FileError (List Char) → Program)

namespace Program

/-- Goes on with a result, or fails with the failure. -/
def orFail (next : Bool → Program) : Except Failure Bool → Program
  | .ok b => next b
  | .error f => fail f

/-- Runs a line, and fails if that does. -/
def exec (line : String) (next : Bool → Program) : Program := call (.line line) (orFail next)

end Program

/-- What is registered under the name of a command. -/
structure Handler where
  origin : Origin
  help : String
  body : Params → Program

/-! ## Shells -/

/-- The state of a shell. -/
structure Shell where
  commands : Assoc String Handler := ∅
  vars : Assoc String String := ∅
  /-- Whether the loop that reads lines goes on. -/
  running : Bool := false
  /-- Whether that loop is started beside its caller. -/
  runAsync : Bool := false
  /-- What is written before each line is read. -/
  prompt : String := ""
  /-- The loop that was started last beside its caller, until the shell is stopped. -/
  worker : Option Nat := none

/-- What can be seen of a run from outside. That a command is registered is written to the log as
well, with the place of its handler in memory; that one record is left out. -/
inductive Event where
  | output (text : String)
  | logged (r : Log.Record)
  | noted (n : Note)
  /-- A handler was called, under this name and with these parameters. -/
  | called (name : String) (params : Params)
  /-- A file was to be read. -/
  | opened (path : String)
deriving DecidableEq

namespace Event

/-- What a run wrote. -/
def output? : Event → Option String
  | output text => some text
  | _ => none

/-- What a run logged. -/
def logged? : Event → Option Log.Record
  | logged r => some r
  | _ => none

/-- What handlers noted in a run. -/
def noted? : Event → Option Note
  | noted n => some n
  | _ => none

/-- The calls of handlers in a run. -/
def called? : Event → Option (String × Params)
  | called name params => some (name, params)
  | _ => none

/-- The files that a run wanted to read. -/
def opened? : Event → Option String
  | opened path => some path
  | _ => none

/-- All that a run wrote. -/
def written (es : List Event) : String := String.join (es.filterMap output?)

/-- All that a run logged. -/
def records (es : List Event) : List Log.Record := es.filterMap logged?

@[simp] theorem records_append (es es' : List Event) :
    records (es ++ es') = records es ++ records es' := List.filterMap_append

@[simp] theorem written_nil : written [] = "" := rfl

@[simp] theorem written_append (es es' : List Event) :
    written (es ++ es') = written es ++ written es' := by
  rw [written, List.filterMap_append, String.join_append, written, written]

end Event

/-- What a part of a run gives: a result or a failure, the shell afterwards, and what was seen. -/
structure Outcome (α : Type) where
  result : Except Failure α
  shell : Shell
  events : List Event

namespace Outcome

variable {α β : Type}

/-- Puts earlier events in front. -/
def after (es : List Event) (o : Outcome α) : Outcome α := { o with events := es ++ o.events }

/-- Changes the result. -/
def map (f : α → β) (o : Outcome α) : Outcome β := { o with result := o.result.map f }

@[simp] theorem result_after (es : List Event) (o : Outcome α) :
    (o.after es).result = o.result := rfl

@[simp] theorem shell_after (es : List Event) (o : Outcome α) : (o.after es).shell = o.shell := rfl

@[simp] theorem events_after (es : List Event) (o : Outcome α) :
    (o.after es).events = es ++ o.events := rfl

@[simp] theorem after_nil (o : Outcome α) : o.after [] = o := rfl

theorem after_after (es es' : List Event) (o : Outcome α) :
    (o.after es').after es = o.after (es ++ es') := by
  simp [after, List.append_assoc]

@[simp] theorem shell_map (f : α → β) (o : Outcome α) : (o.map f).shell = o.shell := rfl

@[simp] theorem events_map (f : α → β) (o : Outcome α) : (o.map f).events = o.events := rfl

end Outcome

namespace Shell

/-- Gives a variable a value. -/
def setVariable (s : Shell) (name value : String) : Shell :=
  { s with vars := s.vars.insert name value }

/-- Puts a handler under a name, in place of any other. -/
def register (s : Shell) (name : String) (h : Handler) : Shell :=
  { s with commands := s.commands.insert name h }

/-- Asks the loop to end, and forgets it. -/
def stop (s : Shell) : Shell := { s with running := false, worker := none }

/-- The answer to a question. -/
def answerTo (s : Shell) : Question → Bool
  | .running => s.running
  | .async => s.runAsync

/-- The registered names with the help texts of their handlers. -/
def helpTexts (s : Shell) : Assoc String String := s.commands.mapValues Handler.help

end Shell

end LineShell
