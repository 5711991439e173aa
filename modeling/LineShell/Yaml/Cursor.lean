import LineShell.Yaml.Fault

/-!
# A place in a text

A cursor knows what is left of a text, and the column where it stands. Lines end at line feeds, next
lines, line separators and paragraph separators, and at carriage returns that no line feed follows;
the byte order mark takes no column. How far one place lies behind another, and whether a line ends
between them, is seen from what is left at each (`Cursor.passed`, `crossesLine`).

Loops over a cursor end because each round leaves less of the text. Where the length of the rest
does not show it, the loop looks (`Cursor.shorter`) and stops.
-/

namespace LineShell.Yaml

/-- Whether a character ends a line. -/
def isBreak (c : Char) : Bool :=
  c == '\n' || c == '\r' || c == Char.ofNat 0x85 || c == Char.ofNat 0x2028 ||
    c == Char.ofNat 0x2029

/-- Whether a character is a space or a tab. -/
def isWhite (c : Char) : Bool := c == ' ' || c == '\t'

/-- Whether nothing but the end of a line, or of the text, is here. -/
def atBreak : Option Char → Bool
  | none => true
  | some c => isBreak c

/-- Whether a blank or nothing at all is here. -/
def atBlank : Option Char → Bool
  | none => true
  | some c => isBreak c || isWhite c

/-- Whether a space, the end of a line or nothing at all is here. -/
def atSpace : Option Char → Bool
  | none => true
  | some c => isBreak c || c == ' '

/-- Whether a line ends with this character, if `next` follows. -/
def endsLine (c : Char) (next : Option Char) : Bool :=
  c == '\n' || c == Char.ofNat 0x85 || c == Char.ofNat 0x2028 || c == Char.ofNat 0x2029 ||
    (c == '\r' && next != some '\n')

/-- Whether a line ends within the first `n` characters. -/
def crossesLine : (n : Nat) → List Char → Bool
  | 0, _ => false
  | _, [] => false
  | n + 1, c :: rest => endsLine c rest.head? || crossesLine n rest

/-- A fault. -/
structure Stop where
  fault : Fault
  /-- Whether the end of the text had to be looked beyond to find it. -/
  beyond : Bool
deriving DecidableEq, Repr

/-- A place in a text. -/
structure Cursor where
  rest : List Char
  column : Nat := 0

namespace Cursor

/-- The next character. -/
def peek (c : Cursor) : Option Char := c.rest.head?

/-- The character that is `k` further on. -/
def peekAt (c : Cursor) (k : Nat) : Option Char := c.rest[k]?

/-- Goes on by one character. -/
def step (c : Cursor) : Cursor :=
  match c.rest with
  | [] => c
  | x :: rest =>
    if endsLine x rest.head? then ⟨rest, 0⟩
    else ⟨rest, if x.toNat == 0xFEFF then c.column else c.column + 1⟩

/-- Goes on by several characters. -/
def skip (c : Cursor) : Nat → Cursor
  | 0 => c
  | n + 1 => c.step.skip n

theorem length_step_le (c : Cursor) : c.step.rest.length ≤ c.rest.length := by
  unfold step
  split
  · exact Nat.le_refl _
  · next h =>
    rw [h]
    split <;> exact Nat.le_succ _

/-- No more of the text is left further on. -/
theorem length_skip_le (c : Cursor) (n : Nat) : (c.skip n).rest.length ≤ c.rest.length := by
  induction n generalizing c with
  | zero => exact Nat.le_refl _
  | succ n ih => exact Nat.le_trans (ih c.step) c.length_step_le

/-- Goes on while a condition holds. -/
def skipWhile (c : Cursor) (p : Char → Bool) : Cursor := c.skip (c.rest.takeWhile p).length

/-- What lies before the first character that does not fulfil a condition. -/
def takeWhile (c : Cursor) (p : Char → Bool) : List Char := c.rest.takeWhile p

/-- Gives up with a fault, when `ahead` characters from this place on have been looked at. -/
def stop {α : Type} (c : Cursor) (f : Fault) (ahead : Nat) : Except Stop α :=
  .error ⟨f, c.rest.length < ahead⟩

/-- Gives up, when `ahead` characters from this place on have been looked at. -/
def fail {α : Type} (c : Cursor) (ahead : Nat) : Except Stop α := c.stop .malformed ahead

/-- How many characters lie between an earlier place, where `text` was left, and this one. -/
def passed (c : Cursor) (text : List Char) : Nat := text.length - c.rest.length

/-- Whether this place lies behind another in the same text. -/
def shorter (c d : Cursor) : Prop := c.rest.length < d.rest.length

instance (c d : Cursor) : Decidable (shorter c d) := inferInstanceAs (Decidable (_ < _))

/-- Reads the end of a line, if it is here. All but the two separators count as line feeds. -/
def lineBreak (c : Cursor) : Option (Char × Cursor) :=
  match c.rest with
  | '\r' :: '\n' :: _ => some ('\n', c.skip 2)
  | x :: _ =>
    if x == '\n' || x == '\r' || x == Char.ofNat 0x85 then some ('\n', c.step)
    else if isBreak x then some (x, c.step)
    else none
  | [] => none

/-- Whether a document marker stands here. -/
def atMarker (c : Cursor) : Bool :=
  (c.rest.take 3 == ['-', '-', '-'] || c.rest.take 3 == ['.', '.', '.']) && atBlank (c.peekAt 3)

/-- Skips a comment, if one is here. -/
def skipComment (c : Cursor) : Cursor :=
  if c.peek == some '#' then c.skipWhile (!isBreak ·) else c

theorem length_skipComment_le (c : Cursor) : c.skipComment.rest.length ≤ c.rest.length := by
  unfold skipComment
  split
  · exact c.length_skip_le _
  · exact Nat.le_refl _

end Cursor

end LineShell.Yaml
