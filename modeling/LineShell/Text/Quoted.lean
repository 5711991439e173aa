import LineShell.Text.Printable

/-!
# Quoted text

A text as it is shown inside a message: between quotes, with everything that cannot be printed
spelled as an escape. The quotes are single, unless the text holds a single quote and no double
one. Escapes use the shortest of `\xHH`, `\uHHHH` and `\UHHHHHHHH`; tab, line feed and carriage
return have letters of their own.
-/

namespace LineShell.Text

/-- The digit for a value below sixteen, in lower case. -/
def hexDigit (n : Nat) : Char :=
  if n < 10 then Char.ofNat (0x30 + n) else Char.ofNat (0x61 + n - 10)

/-- The last `width` hexadecimal digits of a number, in lower case. -/
def hexDigits : (width : Nat) → Nat → List Char
  | 0, _ => []
  | w + 1, n => hexDigits w (n / 16) ++ [hexDigit (n % 16)]

@[simp] theorem length_hexDigits (w n : Nat) : (hexDigits w n).length = w := by
  induction w generalizing n with
  | zero => rfl
  | succ w ih => simp [hexDigits, ih]

/-- The escape for a character that cannot be printed. -/
def escape (c : Char) : List Char :=
  let n := c.toNat
  if n < 0x100 then '\\' :: 'x' :: hexDigits 2 n
  else if n < 0x10000 then '\\' :: 'u' :: hexDigits 4 n
  else '\\' :: 'U' :: hexDigits 8 n

/-- The quote for a text: double only where that saves an escape. -/
def quoteFor (cs : List Char) : Char :=
  if cs.contains '\'' && !cs.contains '"' then '"' else '\''

/-- One character between the given quotes. -/
def quoteChar (quote c : Char) : List Char :=
  if c == quote || c == '\\' then ['\\', c]
  else if c == '\t' then ['\\', 't']
  else if c == '\n' then ['\\', 'n']
  else if c == '\r' then ['\\', 'r']
  else if isPrintable c then [c]
  else escape c

/-- A text between quotes. -/
def quote (cs : List Char) : List Char :=
  let q := quoteFor cs
  q :: cs.flatMap (quoteChar q) ++ [q]

/-- A text between quotes. -/
def quoted (s : String) : String := String.ofList (quote s.toList)

/-- One byte inside the quoted form of a byte string. -/
def quoteByte (quote : Char) (b : UInt8) : List Char :=
  let c := Char.ofNat b.toNat
  if c == quote || c == '\\' then ['\\', c]
  else if c == '\t' then ['\\', 't']
  else if c == '\n' then ['\\', 'n']
  else if c == '\r' then ['\\', 'r']
  else if 0x20 ≤ b.toNat && b.toNat < 0x7F then [c]
  else '\\' :: 'x' :: hexDigits 2 b.toNat

/-- A byte string between quotes, behind the letter that marks bytes. -/
def quotedBytes (bs : List UInt8) : String :=
  let q := quoteFor (bs.map fun b => Char.ofNat b.toNat)
  String.ofList ('b' :: q :: bs.flatMap (quoteByte q) ++ [q])

/-- A printable character that is no quote and no backslash is shown as itself. -/
theorem quoteChar_of_isPrintable {q c : Char} (hp : isPrintable c = true) (hq : c ≠ q)
    (hb : c ≠ '\\') : quoteChar q c = [c] := by
  have ht : c ≠ '\t' := by rintro rfl; simp [isPrintable] at hp
  have hn : c ≠ '\n' := by rintro rfl; simp [isPrintable] at hp
  have hr : c ≠ '\r' := by rintro rfl; simp [isPrintable] at hp
  simp [quoteChar, hp, hq, hb, ht, hn, hr]

end LineShell.Text
