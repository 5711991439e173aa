import LineShell.Yaml.Scalar
import LineShell.Yaml.Source

/-!
# Tokens

A document as a sequence of tokens. Indentation becomes tokens of its own, which open and close
block collections. That something was a key is seen only at the colon behind it, so the token that
says so is put in later, where the key began (`Lexer.insertKey`): a place where a key may have begun
is remembered until the line ends or the key has become too long.

* `Token` - the tokens; `Directive` - what one of them holds
* `Lexer` - the state; `Lexer.fetch` reads one token
* `Tokens.ofSource` - the tokens of a source, up to the first fault

## Faults

A token is not certain as long as a key could still begin at it. A fault therefore takes back the
tokens from the first such place on: whoever wants them gets the fault instead.
-/

namespace LineShell.Yaml

/-- A directive at the beginning of a document. -/
inductive Directive where
  | version (major minor : Nat)
  | tag (handle pre : List Char)
  | reserved
deriving DecidableEq, Repr

/-- A token. -/
inductive Token where
  | directive (d : Directive)
  | documentStart
  | documentEnd
  | streamEnd
  | blockSequence
  | blockMapping
  | blockEnd
  | flowSequence
  | flowSequenceEnd
  | flowMapping
  | flowMappingEnd
  | blockEntry
  | flowEntry
  | key
  | value
  | aliasOf (name : List Char)
  | anchor (name : List Char)
  | tag (handle : Option (List Char)) (suffix : List Char)
  | scalar (text : List Char) (plain : Bool)
deriving DecidableEq, Repr

/-! ## Names -/

/-- Whether a character may stand in an anchor or a tag handle. -/
def isWordChar (c : Char) : Bool := c.isAlphanum || c == '-' || c == '_'

/-- Whether a character may stand in a tag. -/
def isTagChar (c : Char) : Bool := c.isAlphanum || "-;/?:@&=+$,_.!~*'()[]%".toList.contains c

/-- Reads bytes that are written with percent signs. -/
def percentBytes : List Char → Option (List UInt8 × Nat)
  | '%' :: a :: b :: rest =>
    match hexValue? a, hexValue? b with
    | some x, some y =>
      (percentBytes rest).map fun (bs, n) => (UInt8.ofNat (x * 16 + y) :: bs, n + 3)
    | _, _ => none
  | '%' :: _ => none
  | _ => some ([], 0)

/-- Reads the characters of a tag, up to the first that cannot stand in one. -/
def tagChars (cs : List Char) : Option (List Char × Nat) :=
  match cs with
  | [] => some ([], 0)
  | c :: rest =>
    if c == '%' then
      match percentBytes (c :: rest) with
      | none => none
      | some (bs, n) =>
        match Text.Utf8.decode bs with
        | .error _ => none
        | .ok text =>
          if _h : ((c :: rest).drop n).length < (c :: rest).length then
            (tagChars ((c :: rest).drop n)).map fun (t, m) => (text ++ t, n + m)
          else none
    else if isTagChar c then (tagChars rest).map fun (t, m) => (c :: t, m + 1)
    else some ([], 0)
termination_by cs.length
decreasing_by
  · exact _h
  · simp

/-- Reads a tag or the beginning of one; it may not be empty. -/
def readTagText (c : Cursor) : Reader (List Char) :=
  match tagChars c.rest with
  | some (text, n) => if n = 0 then c.fail 1 else .ok (text, c.skip n)
  | none => c.fail 3

/-- Reads a tag handle: a mark alone, or a word between two marks. -/
def readHandle (c : Cursor) : Reader (List Char) :=
  if c.peek != some '!' then c.fail 1
  else if c.peekAt 1 == some ' ' then .ok (['!'], c.step)
  else
    let word := c.step.takeWhile isWordChar
    if c.peekAt (word.length + 1) == some '!' then
      .ok ('!' :: word ++ ['!'], c.skip (word.length + 2))
    else c.fail (word.length + 2)

/-- Reads a tag; the cursor stands at its mark. -/
def readTag (c : Cursor) : Reader Token :=
  let read : Reader Token :=
    if c.peekAt 1 == some '<' then
      match readTagText (c.skip 2) with
      | .error f => .error f
      | .ok (text, d) =>
        if d.peek == some '>' then .ok (.tag none text, d.step) else d.fail 1
    else if atBlank (c.peekAt 1) then .ok (.tag none ['!'], c.step)
    else
      let ahead := c.step.takeWhile fun x => !(isBreak x || x == ' ')
      let handle : Reader (List Char) :=
        if ahead.contains '!' then readHandle c else .ok (['!'], c.step)
      match handle with
      | .error f => .error f
      | .ok (h, d) => (readTagText d).map fun (text, e) => (.tag (some h) text, e)
  match read with
  | .error f => .error f
  | .ok (t, d) => if atSpace d.peek then .ok (t, d) else d.fail 1

/-- Reads the name of an anchor; the cursor stands at the mark. -/
def readAnchor (c : Cursor) : Reader (List Char) :=
  let name := c.step.takeWhile isWordChar
  let d := c.step.skip name.length
  let ends := match d.peek with
    | none => true
    | some x => atBlank (some x) || "?:,]\x7d%@`".toList.contains x
  if name.isEmpty || !ends then d.fail 1 else .ok (name, d)

/-! ## Directives -/

/-- Reads decimal digits. -/
def readNumber (c : Cursor) : Reader Nat :=
  let ds := c.takeWhile Char.isDigit
  if ds.isEmpty then c.fail 1
  else if Decimal.maxDigits < ds.length then
    c.stop (.digits ds.length) (ds.length + 1)
  else .ok (ds.foldl (fun n d => n * 10 + (d.toNat - 0x30)) 0, c.skip ds.length)

/-- Skips spaces. -/
def Cursor.skipSpaces (c : Cursor) : Cursor := c.skipWhile (· == ' ')

/-- Reads what follows the name of a directive. -/
def readDirectiveValue (name : List Char) (c : Cursor) : Reader Directive :=
  if name = ['Y', 'A', 'M', 'L'] then
    match readNumber c.skipSpaces with
    | .error f => .error f
    | .ok (major, d) =>
      if d.peek != some '.' then d.fail 1
      else match readNumber d.step with
        | .error f => .error f
        | .ok (minor, e) =>
          if atSpace e.peek then .ok (.version major minor, e) else e.fail 1
  else if name = ['T', 'A', 'G'] then
    match readHandle c.skipSpaces with
    | .error f => .error f
    | .ok (handle, d) =>
      if d.peek != some ' ' then d.fail 1
      else match readTagText d.skipSpaces with
        | .error f => .error f
        | .ok (pre, e) =>
          if atSpace e.peek then .ok (.tag handle pre, e) else e.fail 1
  else .ok (.reserved, c.skipWhile (!isBreak ·))

/-- Reads a directive up to the end of its line; the cursor stands at the percent sign. -/
def readDirective (c : Cursor) : Reader Directive :=
  let name := c.step.takeWhile isWordChar
  let d := c.step.skip name.length
  if name.isEmpty || !atSpace d.peek then d.fail 1
  else match readDirectiveValue name d with
    | .error f => .error f
    | .ok (v, e) =>
      let g := e.skipSpaces.skipComment
      if !atBreak g.peek then g.fail 1
      else match g.lineBreak with
        | some (_, k) => .ok (v, k)
        | none => .ok (v, g)

/-! ## The lexer -/

/-- A place where a key may have begun. -/
structure KeyPlace where
  /-- How many tokens stand before it. -/
  position : Nat
  /-- Whether a key has to begin here. -/
  required : Bool
  /-- What was left of the text. -/
  text : List Char
  column : Nat

/-- The state of reading tokens. -/
structure Lexer where
  cursor : Cursor
  tokens : Array Token := #[]
  /-- The column of the innermost block collection. -/
  indent : Int := -1
  indents : List Int := []
  /-- How many flow collections are open. -/
  flow : Nat := 0
  /-- Whether a key may begin here. -/
  keyAllowed : Bool := true
  /-- Where keys may have begun, by the number of open flow collections. -/
  places : List (Nat × KeyPlace) := []

namespace Lexer

/-- The longest text that can be a key without a mark in front. -/
def maxKey : Nat := 1024

/-- Gives up, having looked at the next two characters. -/
def fail {α : Type} (l : Lexer) : Except Stop α := l.cursor.fail 2

/-- Adds a token. -/
def push (l : Lexer) (t : Token) : Lexer := { l with tokens := l.tokens.push t }

/-- Goes on in the text. -/
def moveTo (l : Lexer) (c : Cursor) : Lexer := { l with cursor := c }

/-- Adds a token and goes on by some characters. -/
def take (l : Lexer) (t : Token) (n : Nat) : Lexer := (l.push t).moveTo (l.cursor.skip n)

/-- Whether a place is too far away, or on an earlier line. -/
def isStale (l : Lexer) (k : KeyPlace) : Bool :=
  maxKey < l.cursor.passed k.text || crossesLine (l.cursor.passed k.text) k.text

/-- Forgets the places where no key can begin any more. A key that had to be there makes a fault. -/
def dropStale (l : Lexer) : Except Stop Lexer :=
  if l.places.any fun p => l.isStale p.2 && p.2.required then l.fail
  else .ok { l with places := l.places.filter fun p => !l.isStale p.2 }

/-- Forgetting places does not move on. -/
theorem cursor_dropStale {l m : Lexer} (h : l.dropStale = .ok m) : m.cursor = l.cursor := by
  unfold dropStale at h
  split at h
  · cases h
  · cases h
    rfl

/-- Forgets the place at this level. -/
def dropPlace (l : Lexer) : Except Stop Lexer :=
  match l.places.lookup l.flow with
  | some k =>
    if k.required then l.fail
    else .ok { l with places := l.places.filter fun p => p.1 != l.flow }
  | none => .ok l

/-- Remembers that a key may begin here. -/
def savePlace (l : Lexer) : Except Stop Lexer :=
  if !l.keyAllowed then .ok l
  else
    match l.dropPlace with
    | .error f => .error f
    | .ok m =>
      let c := l.cursor
      let required := l.flow == 0 && l.indent == (c.column : Int)
      .ok { m with places := (l.flow, ⟨l.tokens.size, required, c.rest, c.column⟩) :: m.places }

/-- Closes the block collections that are indented more than a column. -/
def closeBlocks (column : Int) (l : Lexer) : List Int → Lexer
  | [] => { l with indents := [] }
  | outer :: rest =>
    if column < l.indent then closeBlocks column { l.push .blockEnd with indent := outer } rest
    else { l with indents := outer :: rest }

/-- Closes the block collections that are indented more than a column, outside of brackets. -/
def unwind (l : Lexer) (column : Int) : Lexer :=
  if l.flow = 0 then closeBlocks column l l.indents else l

/-- Opens a block collection at a column, if it is indented more than the innermost one. -/
def openBlock (l : Lexer) (column : Nat) : Option Lexer :=
  if l.indent < column then
    some { l with indents := l.indent :: l.indents, indent := column }
  else none

/-- Opens a block collection here, if it begins here. -/
def openHere (l : Lexer) (t : Token) : Lexer :=
  match l.openBlock l.cursor.column with
  | some m => m.push t
  | none => l

/-- Puts the token for a key where the key began, and opens its mapping if that begins there too. -/
def insertKey (l : Lexer) (k : KeyPlace) : Lexer :=
  let put (l : Lexer) (t : Token) : Lexer :=
    { l with tokens := l.tokens.insertIdxIfInBounds k.position t }
  let m := put l .key
  if l.flow = 0 then
    match m.openBlock k.column with
    | some n => put n .blockMapping
    | none => m
  else m

/-- Skips blanks, comments and line ends. A key may begin on a new line. -/
def skipBlank (flow : Bool) (allowed : Bool) (c : Cursor) : Bool × Cursor :=
  let d := c.skipSpaces.skipComment
  match d.lineBreak with
  | none => (allowed, d)
  | some (_, e) =>
    if _h : e.shorter c then skipBlank flow (allowed || !flow) e else (allowed, d)
termination_by c.rest.length
decreasing_by exact _h

/-- No more of the text is left behind what is skipped. -/
theorem length_skipBlank_le (flow allowed : Bool) (c : Cursor) :
    (skipBlank flow allowed c).2.rest.length ≤ c.rest.length := by
  have hd (c : Cursor) : c.skipSpaces.skipComment.rest.length ≤ c.rest.length :=
    Nat.le_trans c.skipSpaces.length_skipComment_le (c.length_skip_le _)
  fun_induction skipBlank flow allowed c with
  | case1 => exact hd _
  | case2 _ _ _ _ _ _ h ih => exact Nat.le_trans ih (Nat.le_of_lt h)
  | case3 => exact hd _

/-- Goes on to where the next token may begin. -/
def toToken (l : Lexer) : Lexer :=
  let (allowed, c) := skipBlank (l.flow != 0) l.keyAllowed l.cursor
  { l with cursor := c, keyAllowed := allowed }

/-- Reads a document marker or the end of the text: nothing stays open. -/
def closeAll (l : Lexer) : Except Stop Lexer :=
  ((l.unwind (-1)).dropPlace).map fun l => { l with keyAllowed := false }

/-- Reads an entry mark of a block sequence. -/
def fetchBlockEntry (l : Lexer) : Except Stop Lexer :=
  if l.flow = 0 && !l.keyAllowed then l.fail
  else
    let l := if l.flow = 0 then l.openHere .blockSequence else l
    ((Lexer.dropPlace { l with keyAllowed := true }).map fun m => m.take .blockEntry 1)

/-- Reads the mark of a key. -/
def fetchKey (l : Lexer) : Except Stop Lexer :=
  if l.flow = 0 && !l.keyAllowed then l.fail
  else
    let l := if l.flow = 0 then l.openHere .blockMapping else l
    ((Lexer.dropPlace { l with keyAllowed := l.flow == 0 }).map fun m => m.take .key 1)

/-- Reads the colon in front of a value. -/
def fetchValue (l : Lexer) : Except Stop Lexer :=
  match l.places.lookup l.flow with
  | some k =>
    let l := { l with places := l.places.filter fun p => p.1 != l.flow }
    .ok (({ l.insertKey k with keyAllowed := false }).take .value 1)
  | none =>
    if l.flow = 0 && !l.keyAllowed then l.fail
    else
      let l := if l.flow = 0 then l.openHere .blockMapping else l
      ((Lexer.dropPlace { l with keyAllowed := l.flow == 0 }).map fun m => m.take .value 1)

/-- Reads something that may be the beginning of a key, and after which no key can begin. -/
def fetchNode (l : Lexer) (read : Reader Token) : Except Stop Lexer :=
  match l.savePlace, read with
  | .ok l, .ok (t, c) => .ok (({ l with keyAllowed := false }.push t).moveTo c)
  | .error f, _ => .error f
  | _, .error f => .error f

/-- Opens a flow collection. -/
def openFlow (l : Lexer) (t : Token) : Except Stop Lexer :=
  l.savePlace.map fun l => { l.take t 1 with flow := l.flow + 1, keyAllowed := true }

/-- Closes a flow collection. -/
def closeFlow (l : Lexer) (t : Token) : Except Stop Lexer :=
  l.dropPlace.map fun l => { l.take t 1 with flow := l.flow - 1, keyAllowed := false }

/-- Reads a plain scalar. After one that ends with its line, a key may begin. -/
def fetchPlain (l : Lexer) : Except Stop Lexer :=
  l.savePlace.map fun m =>
    let p := readPlain (m.flow != 0) (m.indent + 1) m.cursor
    ({ m with keyAllowed := p.broken }.push (.scalar p.text true)).moveTo p.cursor

/-- Whether a plain scalar begins here. -/
def plainBegins (l : Lexer) (c : Char) : Bool :=
  (!atBlank (some c) && !("-?:,[]\x7b\x7d#&*!|>'\"%@`".toList.contains c)) ||
    (!atBlank (l.cursor.peekAt 1) &&
      (c == '-' || (l.flow == 0 && (c == '?' || c == ':'))))

/-- Reads the token that begins here; `none` at the end of the text. -/
def fetch (l : Lexer) : Except Stop (Option Lexer) :=
  match l.dropStale with
  | .error f => .error f
  | .ok l =>
    let c := l.cursor
    let l := l.unwind c.column
    match c.peek with
    | none => .ok none
    | some x =>
      let blankNext := atBlank (c.peekAt 1)
      let inFlow := l.flow != 0
      some <$>
        if x == '%' && c.column == 0 then
          match l.closeAll, readDirective c with
          | .ok l, .ok (d, e) => .ok ((l.push (.directive d)).moveTo e)
          | .error f, _ => .error f
          | _, .error f => .error f
        else if c.column == 0 && c.atMarker then
          l.closeAll.map fun m => m.take (if x == '-' then .documentStart else .documentEnd) 3
        else if x == '[' then l.openFlow .flowSequence
        else if x == '\x7b' then l.openFlow .flowMapping
        else if x == ']' then l.closeFlow .flowSequenceEnd
        else if x == '\x7d' then l.closeFlow .flowMappingEnd
        else if x == ',' then ((Lexer.dropPlace { l with keyAllowed := true }).map fun m => m.take .flowEntry 1)
        else if x == '-' && blankNext then l.fetchBlockEntry
        else if x == '?' && (inFlow || blankNext) then l.fetchKey
        else if x == ':' && (inFlow || blankNext) then l.fetchValue
        else if x == '*' then
          l.fetchNode ((readAnchor c).map fun (n, e) => (.aliasOf n, e))
        else if x == '&' then
          l.fetchNode ((readAnchor c).map fun (n, e) => (.anchor n, e))
        else if x == '!' then l.fetchNode (readTag c)
        else if (x == '|' || x == '>') && !inFlow then
          match Lexer.dropPlace { l with keyAllowed := true }, readBlock (x == '>') l.indent c.step with
          | .ok l, .ok (text, e) => .ok ((l.push (.scalar text false)).moveTo e)
          | .error f, _ => .error f
          | _, .error f => .error f
        else if x == '\'' || x == '"' then
          l.fetchNode ((readQuoted (x == '"') c).map fun (t, e) => (.scalar t false, e))
        else if l.plainBegins x then l.fetchPlain
        else l.fail

end Lexer

/-- How many tokens are certain: nothing can be put in before them any more. -/
def Lexer.certain (l : Lexer) : Nat :=
  l.places.foldl (fun n p => min n p.2.position) l.tokens.size

/-- The tokens that could be read, and the fault that stopped reading them, if any. -/
structure Tokens where
  list : List Token
  fault : Option Fault

/-- The tokens that are certain, and a fault. -/
def Lexer.stopAt (l : Lexer) (f : Fault) : Tokens := ⟨(l.tokens.toList).take l.certain, some f⟩

/-- Reads all tokens of a text. If the text is broken off by a flaw, that flaw counts as soon as
something is looked at that lies behind it. -/
def Lexer.readAll (flaw : Option Fault) (l : Lexer) : Tokens :=
  match _hl : l.dropStale with
  | .error s => l.stopAt s.fault
  | .ok l' =>
    let t := l'.toToken
    match t.fetch with
    | .error s => t.stopAt (if s.beyond then flaw.getD s.fault else s.fault)
    | .ok none =>
      match flaw with
      | some g => t.stopAt g
      | none =>
        match (t.unwind (-1)).dropPlace with
        | .error s => t.stopAt s.fault
        | .ok m => ⟨(m.push .streamEnd).tokens.toList, none⟩
    | .ok (some m) =>
      if m.cursor.rest.isEmpty && flaw.isSome then t.stopAt (flaw.getD .malformed)
      else if _h : m.cursor.shorter t.cursor then m.readAll flaw else m.stopAt .malformed
termination_by l.cursor.rest.length
decreasing_by
  rw [← cursor_dropStale _hl]
  exact Nat.lt_of_lt_of_le _h (length_skipBlank_le ..)

/-- The mark that may stand in front of a text, to say in which order its bytes come. -/
def orderMark : Char := Char.ofNat 0xFEFF

/-- A text without such a mark. -/
def dropMark (text : List Char) : List Char :=
  if text.head? == some orderMark then text.tail else text

/-- The tokens of a source. -/
def Tokens.ofSource (s : Source) : Tokens :=
  Lexer.readAll s.flaw { cursor := { rest := dropMark s.text } }

end LineShell.Yaml
