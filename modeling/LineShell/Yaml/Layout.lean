import LineShell.Yaml.Cursor
import LineShell.Yaml.Tag

/-!
# Laying out scalars

A `Pen` writes text from left to right and knows where it stands: in which column, whether a blank
has just been written, and whether the line holds nothing but indentation so far. Scalars are
written in the plainest style that their text allows (`Style.choose`); long ones are broken at
spaces, once a line is longer than `width`.
-/

namespace LineShell.Yaml

/-- Lines are broken when they are longer than this. -/
def width : Nat := 80

/-- How far a level is indented. -/
def indentStep : Nat := 2

/-! ## The pen -/

/-- A text that is being written, and where it has got to. -/
structure Pen where
  /-- What has been written, last character first. -/
  written : List Char := []
  column : Nat := 0
  /-- Whether no blank is needed in front of a mark. -/
  blank : Bool := true
  /-- Whether the line holds nothing but indentation and marks that count as such. -/
  indenting : Bool := true

namespace Pen

/-- Writes characters that stay on the line. -/
def write (p : Pen) (cs : List Char) : Pen :=
  { p with written := cs.reverseAux p.written, column := p.column + cs.length }

/-- Ends the line. -/
def newline (p : Pen) (b : Char) : Pen :=
  { p with written := b :: p.written, column := 0, blank := true, indenting := true }

/-- Goes to the beginning of an indented line, if not there already. -/
def toIndent (p : Pen) (indent : Nat) : Pen :=
  let q := if !p.indenting || indent < p.column || (p.column == indent && !p.blank)
    then p.newline '\n' else p
  if q.column < indent then
    { q.write (List.replicate (indent - q.column) ' ') with blank := true }
  else q

/-- Writes a mark, with a blank in front if it needs one. -/
def mark (p : Pen) (cs : List Char) (spaced blank indenting : Bool) : Pen :=
  let q := p.write (if p.blank || !spaced then cs else ' ' :: cs)
  { q with blank := blank, indenting := p.indenting && indenting }

/-- Text follows directly. -/
def inText (p : Pen) : Pen := { p with blank := false, indenting := false }

/-- What has been written. -/
def text (p : Pen) : List Char := p.written.reverse

end Pen

/-! ## Styles -/

/-- The ways to write a scalar. -/
inductive Style where
  | plain
  | single
  | double
  | literal
deriving DecidableEq, Repr

/-- Whether a character ends a line of a scalar. A carriage return does not. -/
def isLineEnd (c : Char) : Bool := isBreak c && c != '\r'

/-- Whether a character is written as it is: line feeds and what ASCII prints. -/
def isOrdinary (c : Char) : Bool := c == '\n' || (0x20 ≤ c.toNat && c.toNat ≤ 0x7E)

/-- Whether nothing, a blank or the end of a line is here. -/
def isGap : Option Char → Bool
  | none => true
  | some c => isWhite c || isBreak c || c == '\x00'

/-- Whether a blank or the end of a line stands before. -/
def isGapBefore : Option Char → Bool
  | none => true
  | some c => isGap (some c)

/-- Whether a text, with `before` in front, has a mark that a reader would take for structure. -/
def hasMark (before : Option Char) : List Char → Bool
  | [] => false
  | c :: rest =>
    let here :=
      if before.isNone then
        "#,[]\x7b\x7d&*!|>'\"%@`".toList.contains c ||
          ((c == '?' || c == ':' || c == '-') && isGap rest.head?)
      else (c == ':' && isGap rest.head?) || (c == '#' && isGapBefore before)
    here || hasMark (some c) rest

/-- Whether a text has two characters next to each other that fulfil two conditions. -/
def hasPair (p q : Char → Bool) : List Char → Bool
  | a :: b :: rest => (p a && q b) || hasPair p q (b :: rest)
  | _ => false

/-- What there is to know about a text before it is written. -/
structure Analysis where
  multiline : Bool
  plain : Bool
  single : Bool
  block : Bool

/-- Looks a text over. Text that could be taken for structure, or that has blanks at its ends or
several lines, is not written plainly; blanks after a line end need double quotes or a block, blanks
before one and characters outside of ASCII need double quotes. -/
def Analysis.of (text : List Char) : Analysis :=
  let special := text.any (!isOrdinary ·)
  let multiline := text.any isLineEnd
  let edge (c : Option Char) : Bool := match c with
    | some c => c == ' ' || isLineEnd c
    | none => false
  let marker := ['-', '-', '-'].isPrefixOf text || ['.', '.', '.'].isPrefixOf text
  let spaceBreak := hasPair (· == ' ') isLineEnd text
  let breakSpace := hasPair isLineEnd (· == ' ') text
  let quotable := !spaceBreak && !special
  { multiline := multiline
    plain := quotable && !breakSpace && !multiline && !edge text.head? && !edge text.getLast? &&
      !marker && !hasMark none text
    single := quotable && !breakSpace
    block := !text.isEmpty && quotable && text.getLast? != some ' ' }

/-- The style of a scalar: `isPlain` says whether its text would be read as what it is without any
quotes, `isBlock` whether it asks for a block. A key that stands on one line with its value is never
empty or of several lines. -/
def Style.choose (text : List Char) (isPlain isBlock key : Bool) : Style :=
  let a := Analysis.of text
  if isBlock then (if !key && a.block then .literal else .double)
  else if isPlain && a.plain && !(key && (text.isEmpty || a.multiline)) then .plain
  else if a.single && !(key && a.multiline) then .single
  else .double

/-! ## Writing text -/

/-- A part of a text that is written as a whole. -/
inductive Piece where
  | spaces (count : Nat)
  | breaks (cs : List Char)
  | run (cs : List Char)

/-- Cuts a text into runs of spaces, of line ends, and of all else. -/
def pieces : List Char → List Piece
  | [] => []
  | c :: rest =>
    let more := pieces rest
    if c == ' ' then
      match more with
      | .spaces n :: ps => .spaces (n + 1) :: ps
      | ps => .spaces 1 :: ps
    else if isLineEnd c then
      match more with
      | .breaks cs :: ps => .breaks (c :: cs) :: ps
      | ps => .breaks [c] :: ps
    else
      match more with
      | .run cs :: ps => .run (c :: cs) :: ps
      | ps => .run [c] :: ps

namespace Pen

/-- Whether the line is too long already. -/
def isFull (p : Pen) : Bool := width < p.column

/-- Writes line ends: the first one twice if it is a line feed, since a single one would be read as
a space. -/
def writeBreaks (p : Pen) (indent : Nat) (cs : List Char) : Pen :=
  let q := if cs.head? == some '\n' then p.newline '\n' else p
  (cs.foldl newline q).toIndent indent

/-- Writes pieces between single quotes. A single space that is not at either end may be replaced by
a line end. -/
def singlePieces (indent : Nat) (split first : Bool) (p : Pen) : List Piece → Pen
  | [] => p
  | .spaces n :: rest =>
    let q := if n == 1 && p.isFull && split && !first && !rest.isEmpty then p.toIndent indent
      else p.write (List.replicate n ' ')
    singlePieces indent split false q rest
  | .breaks cs :: rest => singlePieces indent split false (p.writeBreaks indent cs) rest
  | .run cs :: rest =>
    singlePieces indent split false
      (p.write (cs.flatMap fun c => if c == '\'' then ['\'', '\''] else [c])) rest

/-- Writes a text between single quotes. -/
def single (p : Pen) (indent : Nat) (split : Bool) (text : List Char) : Pen :=
  (singlePieces indent split true (p.mark ['\''] true false false) (pieces text)).mark ['\'']
    false false false

/-- Writes pieces without quotes. -/
def plainPieces (indent : Nat) (split : Bool) (p : Pen) : List Piece → Pen
  | [] => p
  | .spaces n :: rest =>
    let q := if n == 1 && p.isFull && split then (p.toIndent indent).inText
      else p.write (List.replicate n ' ')
    plainPieces indent split q rest
  | .breaks cs :: rest => plainPieces indent split (p.writeBreaks indent cs) rest
  | .run cs :: rest => plainPieces indent split (p.write cs) rest

/-- Writes a text without quotes. -/
def plain (p : Pen) (indent : Nat) (split : Bool) (text : List Char) : Pen :=
  if text.isEmpty then p
  else plainPieces indent split ((if p.blank then p else p.write [' ']).inText) (pieces text)

/-- A number with upper case hexadecimal digits. -/
def upperHex : (digits : Nat) → Nat → List Char
  | 0, _ => []
  | d + 1, n =>
    upperHex d (n / 16) ++ [Char.ofNat (if n % 16 < 10 then 0x30 + n % 16 else 0x37 + n % 16)]

/-- The letters for characters that have one behind a backslash. -/
def escapeLetters : List (Nat × Char) := [(0, '0'), (7, 'a'), (8, 'b'), (9, 't'), (10, 'n'),
  (11, 'v'), (12, 'f'), (13, 'r'), (27, 'e'), (0x22, '"'), (0x5C, '\\'), (0x85, 'N'), (0xA0, '_'),
  (0x2028, 'L'), (0x2029, 'P')]

/-- The escape for a character between double quotes; `none` if it stands for itself. -/
def escape? (c : Char) : Option (List Char) :=
  let n := c.toNat
  if c != '"' && c != '\\' && 0x20 ≤ n && n ≤ 0x7E then none
  else match escapeLetters.lookup n with
    | some l => some ['\\', l]
    | none =>
      if n ≤ 0xFF then some ('\\' :: 'x' :: upperHex 2 n)
      else if n ≤ 0xFFFF then some ('\\' :: 'u' :: upperHex 4 n)
      else some ('\\' :: 'U' :: upperHex 8 n)

/-- Breaks a line between double quotes. A space that follows is marked, since it would be lost. -/
def foldDouble (p : Pen) (indent : Nat) (following : Option Char) : Pen :=
  let q := ((p.write ['\\']).toIndent indent).inText
  if following == some ' ' then q.write ['\\'] else q

/-- Writes the rest of a text between double quotes. `held` are characters that stand for themselves
and are not written yet, last first; `inner` says that this is not the first character. -/
def doubleRest (indent : Nat) (split inner : Bool) (held : List Char) (p : Pen) :
    List Char → Pen
  | [] => p.write held.reverse
  | c :: rest =>
    let foldable := split && inner && !rest.isEmpty
    match escape? c with
    | some e =>
      let q := (p.write held.reverse).write e
      let q := if foldable && width + 1 < q.column then q.foldDouble indent rest.head? else q
      doubleRest indent split true [] q rest
    | none =>
      if foldable && (c == ' ' || held.isEmpty) && width < p.column + held.length then
        doubleRest indent split true [c]
          ((p.write held.reverse).foldDouble indent (some c)) rest
      else doubleRest indent split true (c :: held) p rest

/-- Writes a text between double quotes. -/
def double (p : Pen) (indent : Nat) (split : Bool) (text : List Char) : Pen :=
  (doubleRest indent split false [] (p.mark ['"'] true false false) text).mark ['"']
    false false false

/-- The marks behind the one of a block: an indentation if the text begins with a blank, and what
becomes of its last line end. -/
def blockHints (text : List Char) : List Char :=
  (match text.head? with
    | some c => if c == ' ' || isLineEnd c then Nat.toDigits 10 indentStep else []
    | none => []) ++
  (match text.reverse with
    | [] => []
    | [c] => if isLineEnd c then ['+'] else ['-']
    | c :: d :: _ => if !isLineEnd c then ['-'] else if isLineEnd d then ['+'] else [])

/-- Writes the lines of a block. -/
def blockLines (indent : Nat) (p : Pen) : List Piece → Pen
  | [] => p
  | .breaks cs :: rest => blockLines indent (cs.foldl newline p) rest
  | .spaces n :: rest =>
    let q := if p.column == 0 then p.toIndent indent else p
    blockLines indent { q with written := List.replicate n ' ' ++ q.written, column := q.column + n }
      rest
  | .run cs :: rest =>
    let q := if p.column == 0 then p.toIndent indent else p
    blockLines indent (q.write cs) rest

/-- Writes a text as a block. -/
def literal (p : Pen) (indent : Nat) (text : List Char) : Pen :=
  let q := (p.mark ('|' :: blockHints text) true false false).newline '\n'
  let r := blockLines indent q (pieces text)
  match text.getLast? with
  | some c => if isLineEnd c then r else r.newline '\n'
  | none => r

/-- Writes a scalar. A scalar that is part of a key is never split. -/
def scalar (p : Pen) (indent : Nat) (split : Bool) (style : Style) (text : List Char) : Pen :=
  match style with
  | .plain => p.plain indent split text
  | .single => p.single indent split text
  | .double => p.double indent split text
  | .literal => p.literal indent text

end Pen

end LineShell.Yaml
