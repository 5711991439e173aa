import LineShell.Text.Lines
import LineShell.Yaml.Fault

/-!
# Sources

The text of a document, as it is read from the bytes of a file piece by piece. Bytes that are no
text, and characters that no document may have, break a source off: what was read before stays, and
the flaw counts for whoever goes on reading.

## Pieces

Bytes come in blocks of at least `blockSize`, and characters are wanted in pieces of `pieceSize`. A
block that cannot be decoded spoils the piece for which it was read, and a character that no
document may have spoils the piece that it is in. The first two pieces are one (`cutAt`).
-/

namespace LineShell.Yaml

/-- The text of a document, and what is wrong behind it. -/
structure Source where
  text : List Char
  flaw : Option Fault

namespace Source

/-- Whether a character may stand in a document. -/
def isDocumentChar (c : Char) : Bool :=
  let n := c.toNat
  n == 0x09 || n == 0x0A || n == 0x0D || (0x20 ≤ n && n ≤ 0x7E) || n == 0x85 ||
    (0xA0 ≤ n && n ≤ 0xD7FF) || (0xE000 ≤ n && n ≤ 0xFFFD) || 0x10000 ≤ n

/-- The fewest bytes in a block, unless there are no more. -/
def blockSize : Nat := 8192

/-- How many characters are wanted at once. -/
def pieceSize : Nat := 4096

/-- How much of a text stays when the piece with this position is spoiled. -/
def cutAt (position : Nat) : Nat :=
  let k := position / pieceSize
  if k ≤ 1 then 0 else k * pieceSize

/-! ## Blocks -/

/-- What has been decoded so far. -/
structure Decoding where
  /-- The characters, last first. -/
  read : List Char := []
  count : Nat := 0
  /-- The bytes of a character that is not complete. -/
  held : List UInt8 := []
  /-- Whether the last character was a carriage return, which may be half of a line end. -/
  returned : Bool := false
  /-- How many bytes the last block had, and how many characters they were. -/
  bytes : Nat := 0
  chars : Nat := 0

/-- Takes in the characters of a block of `size` bytes, of which some are held back. -/
def Decoding.add (d : Decoding) (size : Nat) (new : List Char) (held : List UInt8) : Decoding :=
  let text := if d.returned then '\r' :: new else new
  let returned := text.getLast? == some '\r'
  let text := Text.unifyNewlines (if returned then text.dropLast else text)
  { read := text.reverse ++ d.read, count := d.count + text.length, held := held,
    returned := returned, bytes := size, chars := text.length }

/-- Decodes one block. -/
def Decoding.block (d : Decoding) (bytes : List UInt8) : Except Text.Utf8.Fault Decoding :=
  let r := Text.Utf8.decodeFrom 0 (d.held ++ bytes)
  match r.fault with
  | none => .ok (d.add bytes.length r.text [])
  | some f =>
    if f.flaw = .truncated then .ok (d.add bytes.length r.text f.bytes) else .error f

/-- Decodes the end of the bytes. -/
def Decoding.finish (d : Decoding) : List Char × Option (Nat × Fault) :=
  let text := (if d.returned then '\n' :: d.read else d.read).reverse
  match (Text.Utf8.decodeFrom 0 d.held).fault with
  | none => (text, none)
  | some f => (text, some (d.count, .undecodable f))

/-- How many bytes to ask for: enough for what is missing in the piece, if characters go on to have
as many bytes as in the last block. -/
def Decoding.request (d : Decoding) : Nat :=
  let missing := pieceSize - d.count % pieceSize
  max blockSize (if d.chars = 0 then 0 else d.bytes * missing / d.chars)

/-- Decodes bytes block by block: the text, and a fault with the number of characters before it. -/
def decodeBlocks (d : Decoding) (bytes : List UInt8) : List Char × Option (Nat × Fault) :=
  if _h : bytes = [] then d.finish
  else
    match d.block (bytes.take d.request) with
    | .error f => (d.read.reverse, some (d.count, .undecodable f))
    | .ok d' => decodeBlocks d' (bytes.drop d.request)
termination_by bytes.length
decreasing_by
  have h1 : 0 < bytes.length := List.length_pos_iff.2 _h
  have h2 : 0 < d.request := Nat.lt_of_lt_of_le (by decide) (Nat.le_max_left blockSize _)
  simp only [List.length_drop]
  omega

/-! ## Pieces -/

/-- A text that may be broken off already, broken off at the first character that no document may
have if that spoils an earlier piece. -/
def ofText (text : List Char) (flaw : Option (Nat × Fault)) : Source :=
  let clean := text.takeWhile isDocumentChar
  let flaw := flaw.map fun (n, f) => (cutAt n, f)
  let stain := if clean.length < text.length then some (cutAt clean.length, Fault.malformed) else none
  match flaw, stain with
  | none, none => ⟨text, none⟩
  | some (n, f), none => ⟨text.take n, some f⟩
  | none, some (m, g) => ⟨text.take m, some g⟩
  | some (n, f), some (m, g) => if n ≤ m then ⟨text.take n, some f⟩ else ⟨text.take m, some g⟩

/-- The source in the bytes of a file. -/
def ofBytes (bytes : List UInt8) : Source :=
  let (text, flaw) := decodeBlocks {} bytes
  ofText text flaw

/-- A text of which every character may stand in a document is its own source. -/
theorem ofText_clean {text : List Char} (h : ∀ c ∈ text, isDocumentChar c = true) :
    ofText text none = ⟨text, none⟩ := by
  have hs : text.takeWhile isDocumentChar = text := by
    induction text with
    | nil => rfl
    | cons c cs ih =>
      rw [List.takeWhile_cons, if_pos (h c List.mem_cons_self),
        ih fun x hx => h x (List.mem_cons_of_mem c hx)]
  simp [ofText, hs]

end Source

end LineShell.Yaml
