import LineShell.Proofs.Text.Utf8

/-!
# Lines of a stream and lines of a file

A stream of lines keeps what ends a line, and ends a line at a line feed only; the lines of a file
end at every line boundary of Unicode. Once line ends have been unified, the two agree exactly on
the texts in which no other boundary occurs (`splitLines_unifyNewlines_iff`).

The two directions have different reasons. No line of a file has a boundary in it, whereas a stream
keeps every character but the line ends. Without other boundaries, the file's way of collecting a
line backwards is followed by induction on the text.
-/

namespace LineShell.Text

variable {c : Char} {l cs : List Char}

/-! ## What is dropped at the end of a line -/

/-- Whether a character is one of those that a line may end with. -/
def isLineEnd (c : Char) : Bool := c == '\r' || c == '\n'

theorem dropLineEnd_eq (l : List Char) :
    dropLineEnd l = (l.reverse.dropWhile isLineEnd).reverse := rfl

theorem dropLineEnd_cons (hc : isLineEnd c = false) (l : List Char) :
    dropLineEnd (c :: l) = c :: dropLineEnd l := by
  have hstop : [c].dropWhile isLineEnd = [c] := by
    rw [List.dropWhile_cons_of_neg (by simp [hc])]
  rw [dropLineEnd_eq, dropLineEnd_eq, List.reverse_cons, List.dropWhile_append]
  split
  · next h => rw [hstop, List.isEmpty_iff.1 h]; rfl
  · rw [List.reverse_append]; rfl

/-- Only line ends are dropped. -/
theorem mem_dropLineEnd (hc : isLineEnd c = false) (h : c ∈ l) : c ∈ dropLineEnd l := by
  have hsplit : l.reverse.takeWhile isLineEnd ++ l.reverse.dropWhile isLineEnd = l.reverse :=
    List.takeWhile_append_dropWhile
  have hmem : c ∈ l.reverse.takeWhile isLineEnd ++ l.reverse.dropWhile isLineEnd := by
    rw [hsplit]
    exact List.mem_reverse.2 h
  rcases List.mem_append.1 hmem with ht | hd
  · have hend : isLineEnd c = true := List.all_eq_true.1 List.all_takeWhile c ht
    rw [hc] at hend
    cases hend
  · exact List.mem_reverse.2 hd

/-- The line end is all that is taken off a line that ends in something else. -/
theorem dropLineEnd_append (hc : isLineEnd c = false) (line : List Char) :
    dropLineEnd (line ++ [c] ++ ['\n']) = line ++ [c] := by
  rw [dropLineEnd_eq, List.reverse_append, List.reverse_append, List.reverse_singleton,
    List.reverse_singleton, List.singleton_append, List.singleton_append,
    List.dropWhile_cons_of_pos rfl, List.dropWhile_cons_of_neg (by simp [hc])]
  simp

/-- Unifying line ends changes no other character. -/
theorem mem_unifyNewlines_iff (hc : isLineEnd c = false) : c ∈ unifyNewlines cs ↔ c ∈ cs := by
  obtain ⟨hr, hn⟩ : c ≠ '\r' ∧ c ≠ '\n' := by simpa [isLineEnd] using hc
  fun_induction unifyNewlines cs with
  | case1 => rfl
  | case2 cs ih => simp [ih, hr, hn]
  | case3 d cs _ ih =>
    rw [List.mem_cons, List.mem_cons, ih]
    split
    · next hd => simp [hd, hr, hn]
    · rfl

/-! ## Lines in front of a text -/

/-- A line in front of a text is the first of its lines. -/
theorem splitKeeping_append {line : List Char} (h : '\n' ∉ line) (cs : List Char) :
    splitKeeping (line ++ '\n' :: cs) = (line ++ ['\n']) :: splitKeeping cs := by
  induction line with
  | nil => simp [splitKeeping]
  | cons c line ih =>
    rw [List.mem_cons, not_or] at h
    rw [List.cons_append, splitKeeping, if_neg (Ne.symm h.1), ih h.2]
    rfl

/-- Whether a text is one line of a stream, with the line feed that ends it. -/
def IsLine (line : List Char) : Prop := ∃ body, '\n' ∉ body ∧ line = body ++ ['\n']

theorem isLine_iff {line : List Char} :
    IsLine line ↔ line.getLast? = some '\n' ∧ '\n' ∉ line.dropLast := by
  constructor
  · rintro ⟨body, hbody, rfl⟩
    simpa using hbody
  · rintro ⟨hlast, hrest⟩
    obtain ⟨body, rfl⟩ := List.getLast?_eq_some_iff.1 hlast
    exact ⟨body, by simpa using hrest, rfl⟩

instance (line : List Char) : Decidable (IsLine line) := decidable_of_iff' _ isLine_iff

theorem IsLine.ne_nil {line : List Char} (h : IsLine line) : line ≠ [] := by
  obtain ⟨body, -, rfl⟩ := h
  simp

/-- The lines of a text that is made of lines. -/
theorem splitKeeping_flatten {lines : List (List Char)} (h : ∀ l ∈ lines, IsLine l) :
    splitKeeping lines.flatten = lines := by
  induction lines with
  | nil => rfl
  | cons l lines ih =>
    rw [List.forall_mem_cons] at h
    obtain ⟨⟨body, hbody, rfl⟩, hlines⟩ := h
    rw [List.flatten_cons, List.append_assoc, List.singleton_append, splitKeeping_append hbody,
      ih hlines]

/-! ## Where the two agree -/

/-- No line of a file has a boundary in it. -/
theorem isBoundary_of_mem_splitLinesFrom {line : List Char}
    (hline : ∀ c ∈ line, isBoundary c = false) (h : l ∈ splitLinesFrom line cs) :
    ∀ c ∈ l, isBoundary c = false := by
  have hrev : ∀ c ∈ line.reverse, isBoundary c = false := fun c hc =>
    hline c (List.mem_reverse.1 hc)
  fun_induction splitLinesFrom line cs with
  | case1 line hempty => cases h
  | case2 line hempty => rwa [List.mem_singleton.1 h]
  | case3 line cs ih =>
    rcases List.mem_cons.1 h with rfl | h
    · exact hrev
    · exact ih nofun h nofun
  | case4 line d cs _ hd ih =>
    rcases List.mem_cons.1 h with rfl | h
    · exact hrev
    · exact ih nofun h nofun
  | case5 line d cs _ hd ih =>
    have hcons : ∀ c ∈ d :: line, isBoundary c = false :=
      List.forall_mem_cons.2 ⟨by simpa using hd, hline⟩
    exact ih hcons h fun c hc => hcons c (List.mem_reverse.1 hc)

/-- Every character of a text is in one of the lines of its stream. -/
theorem exists_mem_splitKeeping (h : c ∈ cs) : ∃ l ∈ splitKeeping cs, c ∈ l := by
  rw [← flatten_splitKeeping cs] at h
  exact List.mem_flatten.1 h

/-- Where line feeds are the only boundaries, a file has the lines of its stream. -/
theorem splitLinesFrom_eq (h : ∀ c ∈ cs, isBoundary c = true → c = '\n') (line : List Char) :
    splitLinesFrom line cs =
      match splitKeeping cs with
      | [] => if line.isEmpty then [] else [line.reverse]
      | l :: ls => (line.reverse ++ dropLineEnd l) :: ls.map dropLineEnd := by
  induction cs generalizing line with
  | nil => rfl
  | cons c cs ih =>
    have hrest := ih fun x hx => h x (List.mem_cons_of_mem c hx)
    have hstep : splitLinesFrom line (c :: cs) =
        if isBoundary c then line.reverse :: splitLinesFrom [] cs
        else splitLinesFrom (c :: line) cs := by
      refine splitLinesFrom.eq_3 line c cs ?_
      rintro _ rfl -
      exact absurd (h '\r' List.mem_cons_self rfl) (by decide)
    rw [hstep, splitKeeping]
    by_cases hc : c = '\n'
    · rw [hc, if_pos (by decide), if_pos rfl, hrest]
      cases splitKeeping cs with
      | nil => simp [dropLineEnd]
      | cons l ls => simp [dropLineEnd]
    · have hplain : isBoundary c = false := by
        cases hb : isBoundary c with
        | false => rfl
        | true => exact absurd (h c List.mem_cons_self hb) hc
      have hend : isLineEnd c = false := by
        rw [isLineEnd, beq_false_of_ne hc, Bool.or_false, beq_eq_false_iff_ne]
        rintro rfl
        cases hplain
      rw [hplain, if_neg (by decide), if_neg hc, hrest]
      cases splitKeeping cs with
      | nil => simp [dropLineEnd_cons hend]; rfl
      | cons l ls => simp [dropLineEnd_cons hend]

/-- **A file has the lines of a stream, without their ends, exactly if no boundary but line feeds
and carriage returns occurs in it.** -/
theorem splitLines_unifyNewlines_iff :
    splitLines (unifyNewlines cs) = (splitKeeping (unifyNewlines cs)).map dropLineEnd ↔
      ∀ c ∈ cs, isBoundary c = true → isLineEnd c = true := by
  constructor
  · intro h c hc hb
    cases hend : isLineEnd c with
    | true => rfl
    | false =>
      -- the stream has a line with this character in it, so the file has, which cannot be
      obtain ⟨l, hl, hcl⟩ := exists_mem_splitKeeping ((mem_unifyNewlines_iff hend).2 hc)
      have hmem : dropLineEnd l ∈ splitLines (unifyNewlines cs) := by
        rw [h]
        exact List.mem_map_of_mem hl
      have hfree := isBoundary_of_mem_splitLinesFrom (List.forall_mem_nil _) hmem c
        (mem_dropLineEnd hend hcl)
      rw [hb] at hfree
      cases hfree
  · intro h
    have hfeed : ∀ c ∈ unifyNewlines cs, isBoundary c = true → c = '\n' := by
      intro c hc hb
      by_cases hend : isLineEnd c = true
      · have hr : c ≠ '\r' := fun hr => notMem_unifyNewlines cs (hr ▸ hc)
        simpa [isLineEnd, hr] using hend
      · rw [Bool.not_eq_true] at hend
        exact absurd (h c ((mem_unifyNewlines_iff hend).1 hc) hb) (by simp [hend])
    rw [splitLines, splitLinesFrom_eq hfeed]
    cases splitKeeping (unifyNewlines cs) with
    | nil => rfl
    | cons l ls => rfl

end LineShell.Text
