import LineShell.Yaml.Cursor

/-!
# Scalars

The three ways to write a scalar, each read into the text that it stands for:

* quoted, between single or double quotes (`readQuoted`)
* plain, without any marks (`readPlain`)
* as a block of lines below a header (`readBlock`)

In all of them a single line break is folded into a space where the style asks for it, and of
several breaks the first is dropped.
-/

namespace LineShell.Yaml

/-- A reader gives what it read and where it stopped, or a fault. -/
abbrev Reader (α : Type) := Except Stop (α × Cursor)

/-! ## Folding -/

/-- Reads the breaks and blanks between two lines of a quoted scalar. -/
def readBreaks (c : Cursor) : Reader (List Char) :=
  if c.atMarker then c.fail 4
  else
    let d := c.skipWhile isWhite
    match d.lineBreak with
    | none => .ok ([], d)
    | some (b, e) =>
      if _h : e.shorter c then
        match readBreaks e with
        | .ok (bs, f) => .ok (b :: bs, f)
        | .error f => .error f
      else .ok ([b], e)
termination_by c.rest.length
decreasing_by exact _h

/-- What a line break and the breaks behind it are folded into. -/
def fold (first : Char) (more : List Char) : List Char :=
  if first != '\n' then first :: more
  else if more.isEmpty then [' '] else more

/-! ## Quoted scalars -/

/-- What a letter behind a backslash stands for. -/
def escapeOf? (c : Char) : Option Char :=
  match c with
  | '0' => some (Char.ofNat 0)
  | 'a' => some (Char.ofNat 7)
  | 'b' => some (Char.ofNat 8)
  | 't' | '\t' => some '\t'
  | 'n' => some '\n'
  | 'v' => some (Char.ofNat 11)
  | 'f' => some (Char.ofNat 12)
  | 'r' => some '\r'
  | 'e' => some (Char.ofNat 27)
  | ' ' => some ' '
  | '"' => some '"'
  | '\\' => some '\\'
  | '/' => some '/'
  | 'N' => some (Char.ofNat 0x85)
  | '_' => some (Char.ofNat 0xA0)
  | 'L' => some (Char.ofNat 0x2028)
  | 'P' => some (Char.ofNat 0x2029)
  | _ => none

/-- How many hexadecimal digits follow a letter behind a backslash. -/
def escapeWidth? (c : Char) : Option Nat :=
  match c with
  | 'x' => some 2
  | 'u' => some 4
  | 'U' => some 8
  | _ => none

/-- The value of a hexadecimal digit. -/
def hexValue? (c : Char) : Option Nat :=
  if c.isDigit then some (c.toNat - 0x30)
  else if 'a' ≤ c && c ≤ 'f' then some (c.toNat - 0x57)
  else if 'A' ≤ c && c ≤ 'F' then some (c.toNat - 0x37)
  else none

/-- The value of hexadecimal digits. -/
def hexNumber? (cs : List Char) : Option Nat :=
  cs.foldl (fun n c => match n, hexValue? c with
    | some n, some d => some (n * 16 + d)
    | _, _ => none) (some 0)

/-- The number that an escape with digits names, and its width. -/
def numericEscape? (cs : List Char) : Option (Nat × Nat) :=
  match cs with
  | '\\' :: x :: rest =>
    match escapeWidth? x with
    | some w =>
      if (rest.take w).length = w then (hexNumber? (rest.take w)).map (·, w + 2) else none
    | none => none
  | _ => none

/-- Reads an escape with digits. A text here consists of characters, so it cannot hold the halves
of a surrogate pair: two escapes that name such halves are one character, and a half alone is
replaced. -/
def readNumericEscape (c : Cursor) : Reader (List Char) :=
  match numericEscape? c.rest with
  | none => c.fail (3 + ((c.rest.drop 2).takeWhile fun x => (hexValue? x).isSome).length)
  | some (n, w) =>
    if 0x10FFFF < n then c.stop (.codePoint (0x7FFFFFFF < n)) w
    else if 0xD800 ≤ n && n < 0xDC00 then
      match numericEscape? (c.rest.drop w) with
      | some (m, v) =>
        if 0xDC00 ≤ m && m < 0xE000 then
          .ok ([Char.ofNat (0x10000 + (n - 0xD800) * 0x400 + (m - 0xDC00))], c.skip (w + v))
        else .ok ([Char.ofNat 0xFFFD], c.skip w)
      | none => .ok ([Char.ofNat 0xFFFD], c.skip w)
    else if 0xDC00 ≤ n && n < 0xE000 then .ok ([Char.ofNat 0xFFFD], c.skip w)
    else .ok ([Char.ofNat n], c.skip w)

/-- Reads an escape; the cursor stands at the backslash. -/
def readEscape (c : Cursor) : Reader (List Char) :=
  match c.peekAt 1 with
  | none => c.fail 2
  | some x =>
    match escapeOf? x with
    | some y => .ok ([y], c.skip 2)
    | none =>
      if (escapeWidth? x).isSome then readNumericEscape c
      else if isBreak x then
        match c.step.lineBreak with
        | some (_, d) => readBreaks d
        | none => c.fail 2
      else c.fail 2

/-- Reads blanks inside a quoted scalar: as they stand within a line, folded at its end. -/
def readWhite (c : Cursor) : Reader (List Char) :=
  let white := c.takeWhile isWhite
  let d := c.skip white.length
  match d.peek with
  | none => d.fail 1
  | some _ =>
    match d.lineBreak with
    | none => .ok (white, d)
    | some (b, e) =>
      match readBreaks e with
      | .ok (bs, f) => .ok (fold b bs, f)
      | .error f => .error f

/-- Whether a character stands for itself in a quoted scalar, whatever follows it. -/
def isQuotable (double : Bool) (c : Char) : Bool :=
  !(isWhite c || isBreak c) && (if double then c != '"' && c != '\\' else c != '\'')

/-- Reads one piece of a quoted scalar; `none` at the closing quote. -/
def readPiece (double : Bool) (c : Cursor) : Except Stop (Option (List Char × Cursor)) :=
  match c.rest with
  | [] => c.fail 1
  | x :: rest =>
    if isWhite x || isBreak x then (readWhite c).map some
    else if isQuotable double x then
      let run := c.takeWhile (isQuotable double)
      .ok (some (run, c.skip run.length))
    else if double then
      if x == '"' then .ok none else (readEscape c).map some
    else if rest.head? == some '\'' then .ok (some (['\''], c.skip 2))
    else .ok none

/-- Reads the pieces of a quoted scalar and its closing quote. -/
def readPieces (double : Bool) (c : Cursor) : Reader (List Char) :=
  match readPiece double c with
  | .error f => .error f
  | .ok none => .ok ([], c.step)
  | .ok (some (cs, d)) =>
    if _h : d.shorter c then
      match readPieces double d with
      | .ok (more, e) => .ok (cs ++ more, e)
      | .error f => .error f
    else c.fail 1
termination_by c.rest.length
decreasing_by exact _h

/-- Reads a quoted scalar; the cursor stands at the opening quote. -/
def readQuoted (double : Bool) (c : Cursor) : Reader (List Char) := readPieces double c.step

/-! ## Plain scalars -/

/-- Whether a plain scalar ends here for a reason that lies in the line: a blank, a colon that
separates, or inside brackets a mark. -/
def endsPlain (flow : Bool) : List Char → Bool
  | [] => true
  | ':' :: rest =>
    atBlank rest.head? ||
      (flow && match rest.head? with | some c => ",[]\x7b\x7d".toList.contains c | none => true)
  | c :: _ => isWhite c || isBreak c || (flow && ",?[]\x7b\x7d".toList.contains c)

/-- The part of a plain scalar that stands on this line without a blank. -/
def plainRun (flow : Bool) : List Char → List Char
  | [] => []
  | c :: rest => if endsPlain flow (c :: rest) then [] else c :: plainRun flow rest

/-- What stands between two parts of a plain scalar. -/
structure Gap where
  /-- What the gap is folded into; nothing if the scalar cannot go on. -/
  text : List Char
  cursor : Cursor
  /-- Whether the gap holds the end of a line. -/
  broken : Bool

/-- Reads the breaks behind the first one of a gap; `none` at a document marker. -/
def readGapBreaks (c : Cursor) : Option (List Char) × Cursor :=
  if c.peek == some ' ' then
    if _h : c.step.shorter c then readGapBreaks c.step else (some [], c)
  else
    match c.lineBreak with
    | none => (some [], c)
    | some (b, d) =>
      if d.atMarker then (none, d)
      else if _h : d.shorter c then
        match readGapBreaks d with
        | (some bs, e) => (some (b :: bs), e)
        | (none, e) => (none, e)
      else (some [b], d)
termination_by c.rest.length
decreasing_by all_goals exact _h

/-- Reads a gap of a plain scalar. -/
def readGap (c : Cursor) : Gap :=
  let white := c.takeWhile (· == ' ')
  let d := c.skip white.length
  match d.lineBreak with
  | none => ⟨white, d, false⟩
  | some (b, e) =>
    if e.atMarker then ⟨[], e, true⟩
    else
      match readGapBreaks e with
      | (some bs, f) => ⟨fold b bs, f, true⟩
      | (none, f) => ⟨[], f, true⟩

/-- A plain scalar, and whether the last thing that was read with it was the end of a line. -/
structure Plain where
  text : List Char
  cursor : Cursor
  broken : Bool

/-- Reads the parts of a plain scalar; `gap` stands in front of the next one. Outside of brackets a
scalar goes on only on lines that are indented enough. -/
def readPlainFrom (flow : Bool) (indent : Int) (gap : List Char) (broken : Bool) (c : Cursor) :
    Plain :=
  let run := plainRun flow c.rest
  if c.peek == some '#' || run.isEmpty then ⟨[], c, broken⟩
  else
    let g := readGap (c.skip run.length)
    if g.text.isEmpty || g.cursor.peek == some '#' || (!flow && (g.cursor.column : Int) < indent) then
      ⟨gap ++ run, g.cursor, g.broken⟩
    else if _h : g.cursor.shorter c then
      let more := readPlainFrom flow indent g.text g.broken g.cursor
      { more with text := gap ++ run ++ more.text }
    else ⟨gap ++ run, g.cursor, g.broken⟩
termination_by c.rest.length
decreasing_by exact _h

/-- Reads a plain scalar. `indent` is the least column of its further lines. -/
def readPlain (flow : Bool) (indent : Int) (c : Cursor) : Plain :=
  readPlainFrom flow indent [] false c

/-! ## Block scalars -/

/-- What becomes of the line breaks at the end of a block. -/
inductive Chomping where
  | strip
  | clip
  | keep
deriving DecidableEq, Repr

/-- The header of a block. -/
structure Header where
  chomping : Chomping
  increment : Option Nat

/-- The chomping that a mark asks for. -/
def chomping? : Option Char → Option Chomping
  | some '+' => some .keep
  | some '-' => some .strip
  | _ => none

/-- The digit that is here. -/
def digit? : Option Char → Option Nat
  | some c => if c.isDigit then some (c.toNat - 0x30) else none
  | none => none

/-- Reads the header of a block, up to the end of its line. -/
def readHeader (c : Cursor) : Reader Header :=
  let (h, d) : Header × Cursor :=
    match chomping? c.peek with
    | some ch =>
      match digit? (c.peekAt 1) with
      | some n => (⟨ch, some n⟩, c.skip 2)
      | none => (⟨ch, none⟩, c.skip 1)
    | none =>
      match digit? c.peek with
      | some n =>
        match chomping? (c.peekAt 1) with
        | some ch => (⟨ch, some n⟩, c.skip 2)
        | none => (⟨.clip, some n⟩, c.skip 1)
      | none => (⟨.clip, none⟩, c)
  if h.increment == some 0 || !atSpace d.peek then d.fail 1
  else
    let e := (d.skipWhile (· == ' ')).skipComment
    if !atBreak e.peek then e.fail 1
    else match e.lineBreak with
      | some (_, f) => .ok (h, f)
      | none => .ok (h, e)

/-- Reads the empty lines at the beginning of a block, and finds the widest indentation. -/
def readIndentation (widest : Nat) (c : Cursor) : List Char × Nat × Cursor :=
  if c.peek == some ' ' then
    let d := c.step
    if _h : d.shorter c then readIndentation (max widest d.column) d else ([], widest, c)
  else
    match c.lineBreak with
    | none => ([], widest, c)
    | some (b, d) =>
      if _h : d.shorter c then
        let (bs, w, e) := readIndentation widest d
        (b :: bs, w, e)
      else ([b], widest, d)
termination_by c.rest.length
decreasing_by all_goals exact _h

/-- Skips spaces up to a column. -/
def skipIndent (indent : Nat) (c : Cursor) : Cursor :=
  c.skip ((c.rest.take (indent - c.column)).takeWhile (· == ' ')).length

/-- Reads empty lines inside a block. -/
def readEmptyLines (indent : Nat) (c : Cursor) : List Char × Cursor :=
  let d := skipIndent indent c
  match d.lineBreak with
  | none => ([], d)
  | some (b, e) =>
    if _h : e.shorter c then
      let (bs, f) := readEmptyLines indent e
      (b :: bs, f)
    else ([b], e)
termination_by c.rest.length
decreasing_by exact _h

/-- Reads the lines of a block; `breaks` are the empty lines before the next one. The result has the
text without its end, the last line break, and the empty lines at the end. -/
def readBlockLines (folded : Bool) (indent : Nat) (breaks : List Char) (c : Cursor) :
    List Char × List Char × List Char × Cursor :=
  if c.column = indent && c.peek.isSome then
    let spaced := match c.peek with | some x => isWhite x | none => false
    let line := c.takeWhile (!isBreak ·)
    let d := c.skip line.length
    let (last, e) := match d.lineBreak with
      | some (b, e) => ([b], e)
      | none => ([], d)
    let (breaks', f) := readEmptyLines indent e
    if f.column = indent && f.peek.isSome then
      let nextSpaced := match f.peek with | some x => isWhite x | none => false
      let joint := if folded && last == ['\n'] && !spaced && !nextSpaced then
          (if breaks'.isEmpty then [' '] else [])
        else last
      if _h : f.shorter c then
        let (text, tail) := readBlockLines folded indent breaks' f
        (breaks ++ line ++ joint ++ text, tail)
      else (breaks ++ line, last, breaks', f)
    else (breaks ++ line, last, breaks', f)
  else ([], [], breaks, c)
termination_by c.rest.length
decreasing_by exact _h

/-- Reads a block; the cursor stands behind its mark. `indent` is the indentation of what holds the
block. -/
def readBlock (folded : Bool) (indent : Int) (c : Cursor) : Reader (List Char) :=
  match readHeader c with
  | .error f => .error f
  | .ok (h, d) =>
    let least := (max (indent + 1) 1).toNat
    let (breaks, width, e) := match h.increment with
      | some n =>
        let width := least + n - 1
        let (bs, e) := readEmptyLines width d
        (bs, width, e)
      | none =>
        let (bs, widest, e) := readIndentation 0 d
        (bs, max least widest, e)
    let (text, last, tail, f) := readBlockLines folded width breaks e
    let ending := match h.chomping with
      | .strip => []
      | .clip => last
      | .keep => last ++ tail
    .ok (text ++ ending, f)

end LineShell.Yaml
