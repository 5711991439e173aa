/-!
# Lines

How a text falls into lines. A *stream* of lines ends each one at a line feed and keeps it
(`splitKeeping`); the lines of a *file* end at any of the line boundaries of Unicode, and the
boundary itself is dropped (`splitLines`). Where text comes from bytes, the three ways to end a
line are made one first (`unifyNewlines`).

## What is fixed

* `flatten_splitKeeping` - the lines of a stream put together give the text back
* `splitKeeping_ne_nil` - none of them is empty
-/

namespace LineShell.Text

/-! ## Streams -/

/-- Cuts a text after every line feed. The last line may lack one. -/
def splitKeeping : List Char → List (List Char)
  | [] => []
  | c :: cs =>
    if c = '\n' then [c] :: splitKeeping cs
    else match splitKeeping cs with
      | [] => [[c]]
      | l :: ls => (c :: l) :: ls

/-- The lines put together give the text back. -/
theorem flatten_splitKeeping (cs : List Char) : (splitKeeping cs).flatten = cs := by
  induction cs with
  | nil => rfl
  | cons c cs ih =>
    simp only [splitKeeping]
    split
    · simp [ih]
    · split
      · next h => rw [h] at ih; simp_all
      · next h => rw [h] at ih; simp_all

/-- No line is empty. -/
theorem splitKeeping_ne_nil {cs l : List Char} (h : l ∈ splitKeeping cs) : l ≠ [] := by
  induction cs generalizing l with
  | nil => simp [splitKeeping] at h
  | cons c cs ih =>
    simp only [splitKeeping] at h
    split at h
    · rcases List.mem_cons.1 h with rfl | h
      · simp
      · exact ih h
    · split at h
      · simp at h; simp [h]
      · next hs =>
        rcases List.mem_cons.1 h with rfl | h
        · simp
        · exact ih (hs ▸ List.mem_cons_of_mem _ h)

/-- Takes carriage returns and line feeds off the end of a line. -/
def dropLineEnd (cs : List Char) : List Char :=
  (cs.reverse.dropWhile fun c => c == '\r' || c == '\n').reverse

/-! ## Newlines -/

/-- Makes `\r\n` and `\r` the same as `\n`. -/
def unifyNewlines : List Char → List Char
  | [] => []
  | '\r' :: '\n' :: cs => '\n' :: unifyNewlines cs
  | c :: cs => (if c = '\r' then '\n' else c) :: unifyNewlines cs

/-! ## Files -/

/-- The characters that end a line of a file. -/
def isBoundary (c : Char) : Bool :=
  let n := c.toNat
  (0x0A ≤ n && n ≤ 0x0D) || (0x1C ≤ n && n ≤ 0x1E) || n == 0x85 || n == 0x2028 || n == 0x2029

/-- Collects the lines of a file; `line` holds the characters of the current one, last first. -/
def splitLinesFrom (line : List Char) : List Char → List (List Char)
  | [] => if line.isEmpty then [] else [line.reverse]
  | '\r' :: '\n' :: cs => line.reverse :: splitLinesFrom [] cs
  | c :: cs => if isBoundary c then line.reverse :: splitLinesFrom [] cs
      else splitLinesFrom (c :: line) cs

/-- The lines of a file, without what ends them. Nothing follows the last line end. -/
def splitLines (cs : List Char) : List (List Char) := splitLinesFrom [] cs

end LineShell.Text
