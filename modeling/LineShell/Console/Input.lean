import LineShell.Shell.Basic
import LineShell.Text.Lines

/-!
# Input

A source of lines: the reads that are still to come, each of which gives a line or fails, and what
every read after them does. Lines keep the line feed they end with; an empty one says that the
input has ended.

Text that is decoded from bytes comes in one piece. Bytes that are no text make the first read fail;
text that only breaks off in the middle of a character fails when the lines before have been read.
-/

namespace LineShell

/-- What one read gives. -/
inductive Read where
  | line (text : List Char)
  | fails (f : Failure)
deriving DecidableEq, Repr

/-- What every read gives when nothing is pending. -/
inductive Tail where
  | ends
  | fails (f : Failure)
  /-- The source has been closed. -/
  | closed
  /-- The source breaks off in the middle of a character; and whether anything was read of it. -/
  | cutOff (f : Text.Utf8.Fault) (touched : Bool)
  /-- The reader waits until something is pending. -/
  | waits
deriving DecidableEq, Repr

/-- A source of lines. -/
structure Input where
  pending : List Read
  tail : Tail
deriving DecidableEq, Repr

/-- What a reader gets. -/
inductive Next where
  | line (text : List Char)
  | ended
  | failed (f : Failure)
  | waiting
deriving DecidableEq, Repr

namespace Tail

/-- Why a source that has been closed cannot be read. -/
def closedFailure : Failure := .value "I/O operation on closed file"

/-- Why what is left of a character cannot be read: its position counts from itself. -/
def cutOffFailure (f : Text.Utf8.Fault) : Failure := .file (.undecodable { f with start := 0 })

/-- What a reader gets when nothing is pending. -/
def next : Tail → Next
  | ends => .ended
  | fails f => .failed f
  | closed => .failed closedFailure
  | cutOff f _ => .failed (cutOffFailure f)
  | waits => .waiting

/-- The tail of a source of which something was read. -/
def touch : Tail → Tail
  | cutOff f _ => cutOff f true
  | t => t

/-- Nobody gets a line when nothing is pending. -/
theorem next_ne_line (t : Tail) (text : List Char) : t.next ≠ .line text := by
  cases t <;> simp [next]

end Tail

namespace Input

/-- The lines of a text. -/
def ofText (text : List Char) : Input := ⟨(Text.splitKeeping text).map .line, .ends⟩

/-- Lines as given, and a failure after them. -/
def ofLines (lines : List (List Char)) (f : Failure) : Input := ⟨lines.map .line, .fails f⟩

/-- A source that has been closed. -/
def closed : Input := ⟨[], .closed⟩

/-- A source to which lines are fed one by one. -/
def gate : Input := ⟨[], .waits⟩

/-- Whether a line is complete. -/
def isComplete (line : List Char) : Bool := line.getLast? == some '\n'

/-- The lines of a text, whatever its newlines. -/
def linesOf (text : List Char) : List (List Char) := Text.splitKeeping (Text.unifyNewlines text)

/-- The lines that are complete in a text that breaks off. A carriage return at its end completes
none: it may be half of a newline. -/
def linesBefore (text : List Char) : List (List Char) :=
  (linesOf (if text.getLast? == some '\r' then text.dropLast else text)).filter isComplete

/-- The lines of a text in UTF-8, whatever its newlines. The bytes are decoded in one piece: if one
of them cannot be part of such a text, the first read fails. A source that is decoded block by block
gives the lines of the blocks before that byte first. -/
def ofBytes (bytes : List UInt8) : Input :=
  let d := Text.Utf8.decodeFrom 0 bytes
  match d.fault with
  | none => ⟨(linesOf d.text).map .line, .ends⟩
  | some f =>
    if f.flaw = .truncated then ⟨(linesBefore d.text).map .line, .cutOff f false⟩
    else ⟨[.fails (.file (.undecodable f))], .ends⟩

/-- Adds a line. -/
def feed (i : Input) (line : List Char) : Input := { i with pending := i.pending ++ [.line line] }

/-- Reads once. -/
def next (i : Input) : Next × Input :=
  let tail := i.tail.touch
  match i.pending with
  | .line [] :: rest => (.ended, ⟨rest, tail⟩)
  | .line text :: rest => (.line text, ⟨rest, tail⟩)
  | .fails f :: rest => (.failed f, ⟨rest, tail⟩)
  | [] => (tail.next, ⟨[], tail⟩)

/-- Reading leaves no more than there was. -/
theorem length_next_le (i : Input) : i.next.2.pending.length ≤ i.pending.length := by
  unfold next
  split
  · next h => simp [h]
  · next h => simp [h]
  · next h => simp [h]
  · simp

/-- A line that is read is pending no longer. -/
theorem length_next_of_line {i : Input} {text : List Char} (h : i.next.1 = .line text) :
    i.next.2.pending.length < i.pending.length := by
  unfold next at h ⊢
  split at h
  · simp at h
  · next heq => simp [heq]
  · simp at h
  · exact absurd h (Tail.next_ne_line _ _)

/-- The text of the lines that are still to come. -/
def unread (i : Input) : String :=
  String.ofList (i.pending.flatMap fun r => match r with | .line text => text | .fails _ => [])

/-- Reads all that is still to come at once. What cannot be decoded, or has been closed, cannot be
read so; bytes that have not been looked at before are used up all the same. -/
def drain (i : Input) : Except Failure String × Input :=
  match i.pending, i.tail with
  | .fails f :: _, _ => (.error f, ⟨[], .ends⟩)
  | _, .closed => (.error Tail.closedFailure, i)
  | _, .cutOff f touched =>
    if touched then (.error (Tail.cutOffFailure f), i)
    else (.error (.file (.undecodable f)), ⟨[], .ends⟩)
  | _, _ => (.ok i.unread, { i with pending := [] })

/-- The lines of a text are read back as that text. -/
theorem unread_ofText (text : List Char) : (ofText text).unread = String.ofList text := by
  have h := Text.flatten_splitKeeping text
  simp only [unread, ofText, List.flatMap_map]
  rw [← h]
  simp [List.flatMap_id', h]

end Input

end LineShell
