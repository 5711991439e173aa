import LineShell.Calendar
import LineShell.Decimal.Reading
import LineShell.Text.Quoted
import LineShell.Text.Utf8

/-!
# What can be wrong with a document

Most faults make a text no document at all (`Fault.malformed`). Others lie in single scalars whose
tag promises something that their text does not keep, in bytes that are no text, or in nodes that
lie too deep; these are told apart, because they are not faults of the form.
-/

namespace LineShell.Yaml

/-- What can be wrong with a document. -/
inductive Fault where
  /-- The text is not well formed, or its nodes make no value. -/
  | malformed
  /-- The nodes lie deeper than can be followed. -/
  | tooDeep
  /-- The bytes are no text. -/
  | undecodable (f : Text.Utf8.Fault)
  /-- An escape names a code point beyond the last one; `huge` ones are no numbers at all. -/
  | codePoint (huge : Bool)
  /-- A whole number has a text that is none, in its base. -/
  | whole (base : Nat) (text : String)
  /-- A whole number has more digits than are read. -/
  | digits (count : Nat)
  /-- A float has a text that is none. -/
  | float (text : String)
  /-- A float is written in sixtieths, so many that their weight is no float. -/
  | weight
  /-- A number has no text. -/
  | emptyNumber
  /-- A truth value has a text that is none. -/
  | truth (text : String)
  /-- A time has a text that is none. -/
  | time
  /-- A time is a mapping. -/
  | timeOfMapping
  /-- A time has numbers that make none. -/
  | calendar (f : CalendarFault)
deriving DecidableEq, Repr

/-- The most characters of a text that are shown when it is no whole number. -/
def maxShown : Nat := 200

/-- The fault in words. -/
def Fault.message : Fault → String
  | malformed => "<yaml error>"
  | tooDeep => "maximum recursion depth exceeded"
  | undecodable f => f.message
  | codePoint huge =>
    if huge then "Python int too large to convert to C int"
    else "chr() arg not in range(0x110000)"
  | whole base text =>
    s!"invalid literal for int() with base {base}: " ++
      String.ofList ((Text.quote text.toList).take maxShown)
  | digits count =>
    s!"Exceeds the limit ({Decimal.maxDigits} digits) for integer string conversion: " ++
      s!"value has {count} digits; use sys.set_int_max_str_digits() to increase the limit"
  | float text => s!"could not convert string to float: {Text.quoted text}"
  | weight => "int too large to convert to float"
  | emptyNumber => "string index out of range"
  | truth text => Text.quoted text
  | time => "'NoneType' object has no attribute 'groupdict'"
  | timeOfMapping => "expected string or bytes-like object, got 'list'"
  | calendar f => f.message

end LineShell.Yaml
