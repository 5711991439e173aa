import LineShell.Text.Base64
import LineShell.Value.Text
import LineShell.Yaml.Layout

/-!
# Writing documents

A value as a document in block style: one line for each entry of a mapping and each item of a
sequence, brackets only around nothing. What occurs in several places is written at the first, with
a name, and referred to at the others.

* `scalarForm?` - the text of a value that is no collection
* `namesOf` - the labels that get a name, because they occur more than once
* `writeFlaw?` - what keeps a value from being written
* `writeDocument` - the whole document
-/

namespace LineShell.Yaml

/-! ## Scalars -/

/-- A scalar as it is written: its tag, its text, and whether it asks for a block. -/
structure ScalarForm where
  tag : Tag
  text : List Char
  isBlock : Bool := false

/-- A float with an exponent always has a point, so that it is read as a float. -/
def floatText (x : Float) : List Char :=
  (Decimal.floatText { floatFormat with pointed := true } ⟨".nan", ".inf"⟩ x).toList

/-- The scalar that a value is written as; `none` for collections. -/
def scalarForm? : Value → Option ScalarForm
  | .null => some ⟨.null, "null".toList, false⟩
  | .bool b => some ⟨.bool, (if b then "true" else "false").toList, false⟩
  | .int n => some ⟨.int, (toString n).toList, false⟩
  | .float x => some ⟨.float, floatText x, false⟩
  | .nan _ => some ⟨.float, ".nan".toList, false⟩
  | .str s => some ⟨.str, s.toList, false⟩
  | .bytes bs => some ⟨.binary, Text.Base64.encodeLines bs, true⟩
  | .date _ d => some ⟨.timestamp, d.text.toList, false⟩
  | .stamp _ t => some ⟨.timestamp, t.text.toList, false⟩
  | _ => none

/-- How a tag is written. -/
def tagText : Tag → List Char
  | .null => "!!null".toList
  | .bool => "!!bool".toList
  | .int => "!!int".toList
  | .float => "!!float".toList
  | .binary => "!!binary".toList
  | .timestamp => "!!timestamp".toList
  | .set => "!!set".toList
  | .seq => "!!seq".toList
  | .map => "!!map".toList
  | .str => "!!str".toList
  | .omap => "!!omap".toList
  | .pairs => "!!pairs".toList
  | .merge => "!!merge".toList
  | .value => "!!value".toList
  | .other name => "!!".toList ++ name

/-- The tag of sequences that cannot change. -/
def tupleTag : Tag := .other "python/tuple".toList

/-! ## Names -/

/-- The label of a value, if it has one. -/
def labelOf : Value → Option Nat
  | .date l _ | .stamp l _ | .list l _ | .tuple l _ | .set l _ | .map l _ => l
  | .again l _ => some l
  | _ => none

/-- The labels that have been met, and those that have been met again, the latest first. -/
structure Met where
  once : List Nat := []
  again : List Nat := []

/-- Meets a label; the result says whether it is new. -/
def Met.meet (m : Met) (label : Option Nat) : Bool × Met :=
  match label with
  | none => (true, m)
  | some l =>
    if m.once.contains l then
      (false, if m.again.contains l then m else { m with again := l :: m.again })
    else (true, { m with once := l :: m.once })

/-- How many levels a value may have to be written. It stands for the room on the stack, of which
each level takes a piece; how large it is, no result turns on. -/
def maxWritten : Nat := 325

mutual

/-- Meets the labels of a value, from left to right, where there is room for so many levels. What
was met before is not entered again. -/
def meetAll : (room : Nat) → Met → Value → Except Value.Flaw Met
  | 0, _, _ => .error .tooDeep
  | _ + 1, m, .int n => if Value.isLong n then .error .longNumber else .ok m
  | room + 1, m, .list l items =>
    match m.meet l with
    | (true, m) => meetItems room m items
    | (false, m) => .ok m
  | room + 1, m, .tuple l items =>
    match m.meet l with
    | (true, m) => meetItems room m items
    | (false, m) => .ok m
  | room + 1, m, .set l items =>
    match m.meet l with
    | (true, m) => meetItems room m items
    | (false, m) => .ok m
  | room + 1, m, .map l entries =>
    match m.meet l with
    | (true, m) => meetEntries room m entries
    | (false, m) => .ok m
  | _ + 1, m, .date l _ => .ok (m.meet l).2
  | _ + 1, m, .stamp l _ => .ok (m.meet l).2
  | _ + 1, m, .again l _ => .ok (m.meet (some l)).2
  | _ + 1, m, _ => .ok m

/-- Meets the labels of several values. -/
def meetItems (room : Nat) (m : Met) : List Value → Except Value.Flaw Met
  | [] => .ok m
  | v :: vs =>
    match meetAll room m v with
    | .ok m => meetItems room m vs
    | .error w => .error w

/-- Meets the labels of several entries. -/
def meetEntries (room : Nat) (m : Met) : List (Value × Value) → Except Value.Flaw Met
  | [] => .ok m
  | (k, v) :: rest =>
    match meetAll room m k with
    | .error w => .error w
    | .ok m =>
      match meetAll room m v with
      | .ok m => meetEntries room m rest
      | .error w => .error w

end

/-- Why a value cannot be written, if so: what is met first. -/
def writeFlaw? (v : Value) : Option Value.Flaw :=
  match meetAll maxWritten {} v with
  | .ok _ => none
  | .error w => some w

/-- The labels that occur more than once, in the order in which that is seen. -/
def namesOf (v : Value) : List Nat :=
  match meetAll maxWritten {} v with
  | .ok m => m.again.reverse
  | .error _ => []

/-- The name with a number. -/
def nameText (k : Nat) : List Char := "id".toList ++ (Date.padded 3 (k + 1)).toList

/-! ## Nodes -/

/-- A document that is being written. -/
structure Sheet where
  pen : Pen := {}
  /-- The labels of what has been written. -/
  done : List Nat := []

/-- Where a node stands. -/
structure Context where
  /-- The indentation of the collection that holds it; `none` at the top. -/
  indent : Option Nat
  /-- Whether it is a key or a value of a mapping. -/
  inMapping : Bool
  /-- Whether it is a key that stands on one line with its value. -/
  isKey : Bool

/-- The column of lines that belong to a scalar. -/
def Context.scalarIndent (c : Context) : Nat := c.indent.getD 0 + indentStep

/-- The column of a collection. -/
def Context.blockIndent (c : Context) : Nat :=
  match c.indent with
  | none => 0
  | some n => n + indentStep

/-- The name of a value, if it occurs more than once. -/
def nameOf? (names : List Nat) (v : Value) : Option (List Char) :=
  (labelOf v).bind fun l => (names.findIdx? (· == l)).map nameText

/-- Whether a value was written before. -/
def Sheet.has (s : Sheet) (v : Value) : Bool :=
  match labelOf v with
  | some l => s.done.contains l
  | none => false

/-- Writes the name of a value in front of it. -/
def Sheet.begin (s : Sheet) (names : List Nat) (v : Value) : Sheet :=
  let pen := match nameOf? names v with
    | some n => s.pen.mark ('&' :: n) true false false
    | none => s.pen
  { pen := pen, done := (labelOf v).toList ++ s.done }

/-- Writes a tag. -/
def Sheet.tag (s : Sheet) (t : Tag) : Sheet :=
  { s with pen := s.pen.mark (tagText t) true false false }

/-- Writes a scalar: with its tag, unless it would be read as what it is without one. -/
def Sheet.scalar (s : Sheet) (c : Context) (f : ScalarForm) : Sheet :=
  let isPlain := f.tag == Tag.ofPlain f.text
  let style := Style.choose f.text isPlain f.isBlock c.isKey
  let clear := if style = .plain then isPlain else f.tag = .str
  let s := if clear then s else s.tag f.tag
  { s with pen := s.pen.scalar c.scalarIndent (!c.isKey) style f.text }

/-- The longest key that stands on one line with its value, with all that belongs to it. -/
def maxSimpleKey : Nat := 128

/-- Whether a key may stand on one line with its value. -/
def isSimpleKey (s : Sheet) (names : List Nat) (k : Value) : Bool :=
  let nameLength := ((nameOf? names k).map List.length).getD 0
  if s.has k then nameLength < maxSimpleKey
  else match scalarForm? k with
    | some f =>
      nameLength + (tagText f.tag).length + f.text.length < maxSimpleKey && !f.text.isEmpty &&
        !(Analysis.of f.text).multiline
    | none => false

/-- Writes an empty collection. -/
def Sheet.brackets (s : Sheet) (left right : Char) : Sheet :=
  { s with pen := (s.pen.mark [left] true true false).mark [right] false false false }

/-- The column of the items of a sequence. Below a key it is not indented. -/
def Sheet.itemIndent (s : Sheet) (c : Context) : Nat :=
  if c.inMapping && !s.pen.indenting then c.indent.getD 0 else c.blockIndent

/-- Writes the mark in front of an item. -/
def Sheet.dash (s : Sheet) (indent : Nat) : Sheet :=
  { s with pen := (s.pen.toIndent indent).mark ['-'] true false true }

/-- Writes a key and the mark behind it; `write` writes the key itself. -/
def writeKey (names : List Nat) (indent : Nat) (s : Sheet) (k : Value)
    (write : Context → Sheet → Sheet) : Sheet :=
  let pen := s.pen.toIndent indent
  if isSimpleKey s names k then
    let s := write ⟨some indent, true, true⟩ { s with pen := pen }
    { s with pen := s.pen.mark [':'] false false false }
  else
    let s := write ⟨some indent, true, false⟩ { s with pen := pen.mark ['?'] true false true }
    { s with pen := (s.pen.toIndent indent).mark [':'] true false true }

mutual

/-- Writes a value. -/
def writeNode (names : List Nat) (c : Context) (s : Sheet) (v : Value) : Sheet :=
  if s.has v then
    { s with pen := s.pen.mark ('*' :: (nameOf? names v).getD []) true false false }
  else
    let s := s.begin names v
    match v with
    | .list _ items =>
      if items.isEmpty then s.brackets '[' ']' else writeItems names (s.itemIndent c) s items
    | .tuple _ items =>
      let s := s.tag tupleTag
      if items.isEmpty then s.brackets '[' ']' else writeItems names (s.itemIndent c) s items
    | .set _ items =>
      let s := s.tag .set
      if items.isEmpty then s.brackets '\x7b' '\x7d'
      else writeMembers names c.blockIndent s items
    | .map _ entries =>
      if entries.isEmpty then s.brackets '\x7b' '\x7d'
      else writeEntries names c.blockIndent s entries
    | v =>
      match scalarForm? v with
      | some f => s.scalar c f
      | none => s

/-- Writes the items of a sequence. -/
def writeItems (names : List Nat) (indent : Nat) (s : Sheet) : List Value → Sheet
  | [] => s
  | v :: vs =>
    writeItems names indent (writeNode names ⟨some indent, false, false⟩ (s.dash indent) v) vs

/-- Writes the members of a set, as keys without values. -/
def writeMembers (names : List Nat) (indent : Nat) (s : Sheet) : List Value → Sheet
  | [] => s
  | v :: vs =>
    let s := writeKey names indent s v fun c s => writeNode names c s v
    writeMembers names indent (s.scalar ⟨some indent, true, false⟩ ⟨.null, "null".toList, false⟩) vs

/-- Writes the entries of a mapping. -/
def writeEntries (names : List Nat) (indent : Nat) (s : Sheet) :
    List (Value × Value) → Sheet
  | [] => s
  | (k, v) :: rest =>
    let s := writeKey names indent s k fun c s => writeNode names c s k
    writeEntries names indent (writeNode names ⟨some indent, true, false⟩ s v) rest

end

/-- Writes a document. -/
def writeDocument (v : Value) : List Char :=
  let s := writeNode (namesOf v) ⟨none, false, false⟩ {} v
  (s.pen.toIndent 0).text

end LineShell.Yaml
