import LineShell.Assoc
import LineShell.Text.Quoted

/-!
# Parsed lines

A line of input names a command and gives it parameters:

    line       := name (blanks parameter)* blanks?
    parameter  := name | name=bare | name="quoted"

A name is a non-empty run of ASCII letters, digits and `_`, `.`, `:`, `-`. Blanks are spaces and
tabs. A bare value runs to the next blank and may be empty; a quoted one holds anything but a
double quote. A parameter without a value has the value `true`.

* `Params` - parameters by name, in the order in which they came
* `Fault` - why a line is no line of the grammar
* `Parsed` - what reading a line gives, for good and bad lines alike
-/

namespace LineShell

/-- Parameters by name. A name that is given twice keeps its first place and its last value. -/
abbrev Params := Assoc String String

namespace Line

/-! ## Characters -/

/-- Whether a character may stand in a name. -/
def isNameChar (c : Char) : Bool :=
  c.isAlphanum || c == '_' || c == '.' || c == ':' || c == '-'

/-- Whether a character separates parameters. -/
def isSpacing (c : Char) : Bool := c == ' ' || c == '\t'

/-- Whether a text is a name: not empty, and of name characters only. -/
def isName (cs : List Char) : Bool := !cs.isEmpty && cs.all isNameChar

/-- The value of a parameter that is given by its name alone. -/
def flagValue : List Char := ['t', 'r', 'u', 'e']

/-- No name character separates parameters. -/
theorem isSpacing_of_isNameChar {c : Char} (h : isNameChar c = true) : isSpacing c = false := by
  cases hs : isSpacing c with
  | false => rfl
  | true =>
    simp only [isSpacing, Bool.or_eq_true, beq_iff_eq] at hs
    rcases hs with rfl | rfl <;> revert h <;> decide

/-! ## Results -/

/-- What a blank was expected behind. -/
inductive Place where
  | command
  | parameter (name : String)
deriving DecidableEq, Repr

/-- Why a line is no line of the grammar. -/
inductive Fault where
  /-- The line does not begin with a name. -/
  | noCommand
  /-- Something other than a name stands where a parameter begins. -/
  | noName
  /-- A quoted value has no closing quote. -/
  | unterminated
  /-- Something other than a blank follows the command or a parameter. -/
  | unseparated (after : Place) (found : Char)
deriving DecidableEq, Repr

/-- What reading a line gives. For a bad line, `params` holds what was read before the fault. -/
structure Parsed where
  command : Option String
  params : Params
  /-- How many characters were read. -/
  cursor : Nat
  fault : Option Fault
deriving DecidableEq

namespace Parsed

/-- Whether the whole line is a line of the grammar. -/
def isValid (p : Parsed) : Bool := p.fault.isNone

/-- A command and its parameters on one line, for messages. Quotes are not put back. -/
def render (p : Parsed) : String :=
  let pairs := p.params.entries.map fun (k, v) => s!"{k}: {v}"
  "Command: " ++ p.command.getD "None" ++ " \x7b" ++ ", ".intercalate pairs ++ "\x7d"

end Parsed

namespace Place

/-- The place in words. -/
def words : Place → String
  | command => "command"
  | parameter name => s!"parameter '{name}'"

end Place

namespace Fault

/-- The fault in words. -/
def words : Fault → String
  | noCommand => "expected a command name"
  | noName => "expected a parameter name"
  | unterminated => "unterminated quoted value"
  | unseparated after found =>
    s!"expected whitespace after {after.words}, got {Text.quoted (String.singleton found)}"

end Fault

/-- The note that a bad line leaves in the log, if the line is bad. -/
def Parsed.diagnosis (line : String) (p : Parsed) : Option String :=
  match p.fault with
  | none => none
  | some .noCommand => some s!"No command identifier at start of {Text.quoted line}"
  | some f => some s!"Parse failed at column {p.cursor} of {Text.quoted line}: {f.words}"

end Line

end LineShell
