import LineShell.Proofs.Text.Lines

/-!
# The same text with other line ends

A text can be written with `\r\n` or with `\r` in the place of each line feed (`crlf`, `cr`).
Unifying line ends takes either back to a text that has line feeds only. A stream, which ends lines
at line feeds alone, has the same number of lines with `\r\n`, and each of them with its end written
differently (`splitKeeping_crlf`); what is left of a line when its end is dropped is the same.
-/

namespace LineShell.Text

variable {cs line : List Char}

/-- A text with `\r\n` for every line feed. -/
def crlf (cs : List Char) : List Char := cs.flatMap fun c => if c = '\n' then ['\r', '\n'] else [c]

/-- A text with `\r` for every line feed. -/
def cr (cs : List Char) : List Char := cs.map fun c => if c = '\n' then '\r' else c

/-- A line of a stream with `\r\n` for the line feed at its end, if it has one. -/
def crlfEnd (line : List Char) : List Char :=
  if line.getLast? = some '\n' then line.dropLast ++ ['\r', '\n'] else line

theorem crlf_cons_newline (cs : List Char) : crlf ('\n' :: cs) = '\r' :: '\n' :: crlf cs := rfl

theorem crlf_cons {c : Char} (hc : c ≠ '\n') (cs : List Char) : crlf (c :: cs) = c :: crlf cs := by
  rw [crlf, List.flatMap_cons, if_neg hc]
  rfl

/-! ## In a file -/

/-- A text without carriage returns is got back from what it is with `\r\n`. -/
theorem unifyNewlines_crlf (h : '\r' ∉ cs) : unifyNewlines (crlf cs) = cs := by
  induction cs with
  | nil => rfl
  | cons c cs ih =>
    rw [List.mem_cons, not_or] at h
    by_cases hc : c = '\n'
    · rw [hc, crlf_cons_newline, unifyNewlines, ih h.2]
    · rw [crlf_cons hc, unifyNewlines_cons (.inl (Ne.symm h.1)), if_neg (Ne.symm h.1), ih h.2]

/-- No line feed is left in what a text is with `\r`. -/
theorem notMem_cr (cs : List Char) : '\n' ∉ cr cs := by
  intro h
  obtain ⟨c, -, hc⟩ := List.mem_map.1 h
  split at hc
  · cases hc
  · next hne => exact hne hc

/-- A text without carriage returns is got back from what it is with `\r`. -/
theorem unifyNewlines_cr (h : '\r' ∉ cs) : unifyNewlines (cr cs) = cs := by
  induction cs with
  | nil => rfl
  | cons c cs ih =>
    rw [List.mem_cons, not_or] at h
    have hnext : (cr cs).head? ≠ some '\n' := fun hhead =>
      notMem_cr cs (List.mem_of_mem_head? hhead)
    have hcons : cr (c :: cs) = (if c = '\n' then '\r' else c) :: cr cs := rfl
    rw [hcons, unifyNewlines_cons (.inr hnext), ih h.2]
    by_cases hc : c = '\n'
    · rw [hc, if_pos rfl, if_pos rfl]
    · rw [if_neg hc, if_neg (Ne.symm h.1)]

/-! ## In a stream -/

theorem crlfEnd_cons (c : Char) (hne : line ≠ []) : crlfEnd (c :: line) = c :: crlfEnd line := by
  obtain ⟨d, ds, rfl⟩ := List.exists_cons_of_ne_nil hne
  unfold crlfEnd
  rw [List.getLast?_cons_cons, List.dropLast_cons_cons]
  split <;> rfl

/-- A stream has the same lines, but for their ends. -/
theorem splitKeeping_crlf (cs : List Char) :
    splitKeeping (crlf cs) = (splitKeeping cs).map crlfEnd := by
  induction cs with
  | nil => rfl
  | cons c cs ih =>
    by_cases hc : c = '\n'
    · rw [hc, crlf_cons_newline, splitKeeping, splitKeeping, splitKeeping, if_pos rfl, if_pos rfl,
        ih]
      rfl
    · rw [crlf_cons hc, splitKeeping, splitKeeping, if_neg hc, if_neg hc, ih]
      cases hs : splitKeeping cs with
      | nil => simp [crlfEnd, hc]
      | cons l ls =>
        have hne : l ≠ [] := splitKeeping_ne_nil (hs ▸ List.mem_cons_self)
        simp only [List.map_cons]
        rw [crlfEnd_cons c hne]

/-- A line is not empty with one end, if it is not with the other. -/
theorem crlfEnd_eq_nil_iff : crlfEnd line = [] ↔ line = [] := by
  unfold crlfEnd
  split
  · next h => simp; rintro rfl; cases h
  · rfl

/-- Without its end, a line is the same. -/
theorem dropLineEnd_crlfEnd (line : List Char) : dropLineEnd (crlfEnd line) = dropLineEnd line := by
  unfold crlfEnd
  split
  · next h =>
    obtain ⟨body, rfl⟩ := List.getLast?_eq_some_iff.1 h
    rw [List.dropLast_concat]
    simp [dropLineEnd]
  · rfl

end LineShell.Text
