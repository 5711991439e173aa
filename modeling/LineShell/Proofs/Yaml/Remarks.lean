import LineShell.Yaml.Reading

/-!
# Remarks in front of a document

A text in which every line is blank or a comment says nothing (`isRemarks`). In front of a document
it changes nothing either: the lexer skips it before the first token, and comes to the document in
the state in which it would have begun there (`readDocument_remarks`). What the document looks like
does not matter, nor how the lines of the remarks end.
-/

namespace LineShell.Yaml

variable {line text dump : List Char} {b : Char}

/-- Whether every line of a text is blank or a comment. `inside` says that the text begins inside of
a comment. -/
def isRemarks (inside : Bool) : List Char → Bool
  | [] => true
  | c :: cs =>
    if isBreak c then isRemarks false cs
    else if inside then isRemarks true cs
    else if c == ' ' then isRemarks false cs
    else c == '#' && isRemarks true cs

/-- Behind the end of a line, remarks begin anew. -/
theorem isRemarks_append_break (inside : Bool) (hb : isBreak b = true) (text cs : List Char) :
    isRemarks inside (text ++ b :: cs) = (isRemarks inside text && isRemarks false cs) := by
  induction text generalizing inside with
  | nil => simp [isRemarks, hb]
  | cons c text ih =>
    rw [List.cons_append, isRemarks, isRemarks]
    split
    · exact ih false
    · split
      · exact ih true
      · split
        · exact ih false
        · rw [ih true, Bool.and_assoc]

/-- A comment goes on up to the end of the line. -/
theorem isRemarks_append (hn : ∀ c ∈ line, isBreak c = false) (text : List Char) :
    isRemarks true (line ++ text) = isRemarks true text := by
  induction line with
  | nil => rfl
  | cons c line ih =>
    rw [List.cons_append, isRemarks, if_neg (by rw [hn c List.mem_cons_self]; decide), if_pos rfl]
    exact ih fun x hx => hn x (List.mem_cons_of_mem c hx)

/-! ## One line -/

namespace Cursor

theorem rest_step (c : Cursor) : c.step.rest = c.rest.tail := by
  unfold step
  split
  · next h => rw [h]; rfl
  · next h =>
    rw [h]
    split <;> rfl

theorem rest_skip (c : Cursor) (n : Nat) : (c.skip n).rest = c.rest.drop n := by
  induction n generalizing c with
  | zero => rfl
  | succ n ih => rw [skip, ih, rest_step, List.drop_tail]

theorem rest_skipWhile (c : Cursor) (p : Char → Bool) :
    (c.skipWhile p).rest = c.rest.dropWhile p := by
  have h : c.rest.takeWhile p ++ c.rest.dropWhile p = c.rest := List.takeWhile_append_dropWhile
  rw [skipWhile, rest_skip]
  calc c.rest.drop (c.rest.takeWhile p).length
      = (c.rest.takeWhile p ++ c.rest.dropWhile p).drop (c.rest.takeWhile p).length := by rw [h]
    _ = c.rest.dropWhile p := List.drop_left

/-- What is left behind spaces and a comment. -/
theorem rest_skipComment_skipSpaces (c : Cursor) : c.skipSpaces.skipComment.rest =
    if (c.rest.dropWhile (· == ' ')).head? == some '#' then
      (c.rest.dropWhile (· == ' ')).dropWhile (!isBreak ·)
    else c.rest.dropWhile (· == ' ') := by
  have h : c.skipSpaces.rest = c.rest.dropWhile (· == ' ') := c.rest_skipWhile _
  rw [skipComment, peek, h]
  split
  · rw [rest_skipWhile, h]
  · exact h

/-- A line of remarks is skipped up to its end. -/
theorem rest_skip_line (hl : isRemarks false line = true) (hn : ∀ c ∈ line, isBreak c = false)
    (hb : isBreak b = true) (column : Nat) :
    (Cursor.mk (line ++ b :: text) column).skipSpaces.skipComment.rest = b :: text := by
  have hspace : (b == ' ') = false := by
    refine beq_false_of_ne ?_
    rintro rfl
    exact absurd hb (by decide)
  have hmark : (some b == some '#') = false := by
    refine beq_false_of_ne ?_
    rintro ⟨rfl⟩
    exact absurd hb (by decide)
  rw [rest_skipComment_skipSpaces]
  induction line with
  | nil =>
    simp only [List.nil_append, List.dropWhile_cons, hspace, Bool.false_eq_true, if_false,
      List.head?_cons, hmark]
  | cons c line ih =>
    have hc := hn c List.mem_cons_self
    rw [isRemarks, hc] at hl
    simp only [Bool.false_eq_true, if_false] at hl
    split at hl
    · next hsp =>
      simp only [List.cons_append, List.dropWhile_cons, hsp, if_true]
      exact ih hl fun x hx => hn x (List.mem_cons_of_mem c hx)
    · next hsp =>
      simp only [Bool.and_eq_true] at hl
      have hm : (some c == some '#') = true := by simpa using hl.1
      simp only [List.cons_append, List.dropWhile_cons, hsp, Bool.false_eq_true, if_false,
        List.head?_cons, hm, if_true, hc, Bool.not_false]
      rw [List.dropWhile_append_of_pos, List.dropWhile_cons, hb]
      · rfl
      · intro x hx
        rw [hn x (List.mem_cons_of_mem c hx)]
        rfl

/-- Behind a line end, a new line begins. -/
theorem lineBreak_of_isBreak (hb : isBreak b = true) (hr : b ≠ '\r') (column : Nat) :
    ∃ x, (Cursor.mk (b :: text) column).lineBreak = some (x, ⟨text, 0⟩) := by
  have hends : endsLine b text.head? = true := by
    simp only [isBreak, Bool.or_eq_true, beq_iff_eq] at hb
    rcases hb with (((hb | hb) | hb) | hb) | hb
    · simp [endsLine, hb]
    · exact absurd hb hr
    · simp [endsLine, hb]
    · simp [endsLine, hb]
    · simp [endsLine, hb]
  have hstep : (Cursor.mk (b :: text) column).step = ⟨text, 0⟩ := by
    simp only [step, hends, if_true]
  unfold lineBreak
  split
  · next h => exact absurd (List.cons.inj h).1 hr
  · next h =>
    obtain ⟨rfl, rfl⟩ := List.cons.inj h
    rw [hstep]
    split
    · exact ⟨_, rfl⟩
    · exact ⟨_, rfl⟩
  · next h => cases h

end Cursor

/-! ## All lines -/

/-- One line of remarks is skipped with its end. -/
theorem skipBlank_line (hl : isRemarks false line = true) (hn : ∀ c ∈ line, isBreak c = false)
    (hb : isBreak b = true) (hr : b ≠ '\r') (column : Nat) :
    Lexer.skipBlank false true ⟨line ++ b :: text, column⟩ =
      Lexer.skipBlank false true ⟨text, 0⟩ := by
  have hrest : (Cursor.mk (line ++ b :: text) column).skipSpaces.skipComment.rest = b :: text :=
    Cursor.rest_skip_line hl hn hb column
  rw [Lexer.skipBlank]
  generalize (Cursor.mk (line ++ b :: text) column).skipSpaces.skipComment = d at hrest
  obtain ⟨rest, col⟩ := d
  obtain rfl : rest = b :: text := hrest
  obtain ⟨x, hx⟩ : ∃ x, (Cursor.mk (b :: text) col).lineBreak = some (x, ⟨text, 0⟩) :=
    Cursor.lineBreak_of_isBreak hb hr col
  have hshort : (Cursor.mk text 0).shorter ⟨line ++ b :: text, column⟩ := by
    show text.length < (line ++ b :: text).length
    rw [List.length_append, List.length_cons]
    omega
  simp only [hx]
  rw [dif_pos hshort]
  rfl

/-- Remarks are skipped, and what follows them is read as if it came first. -/
theorem skipBlank_remarks (ht : isRemarks false text = true) (hr : '\r' ∉ text)
    (hb : isBreak b = true) (hbr : b ≠ '\r') (column : Nat) :
    Lexer.skipBlank false true ⟨text ++ b :: dump, column⟩ =
      Lexer.skipBlank false true ⟨dump, 0⟩ := by
  induction hlen : text.length using Nat.strongRecOn generalizing text column with
  | ind n ih =>
    have hsplit : text.takeWhile (!isBreak ·) ++ text.dropWhile (!isBreak ·) = text :=
      List.takeWhile_append_dropWhile
    have hline : ∀ c ∈ text.takeWhile (!isBreak ·), isBreak c = false := by
      intro c hc
      simpa using List.all_eq_true.1 List.all_takeWhile c hc
    generalize text.takeWhile (!isBreak ·) = line at hsplit hline
    -- one line is taken off at a time; the last ends at the break in front of the document
    cases hd : text.dropWhile (!isBreak ·) with
    | nil =>
      rw [hd, List.append_nil] at hsplit
      subst hsplit
      exact skipBlank_line ht hline hb hbr column
    | cons e rest =>
      have he : isBreak e = true := by
        have := List.head?_dropWhile_not (!isBreak ·) text
        rw [hd] at this
        simpa using this
      rw [hd] at hsplit
      subst hsplit
      rw [isRemarks_append_break false he, Bool.and_eq_true] at ht
      have her : e ≠ '\r' := fun h => hr (by simp [h])
      rw [List.append_assoc, List.cons_append, skipBlank_line ht.1 hline he her]
      refine ih rest.length ?_ ht.2 (fun h => hr (by simp [h])) 0 rfl
      rw [← hlen, List.length_append, List.length_cons]
      omega

/-- Only the place of the next token counts for what is read from there on. -/
theorem readAll_congr {flaw : Option Fault} {l m l' m' : Lexer} (hl : l.dropStale = .ok l')
    (hm : m.dropStale = .ok m') (h : l'.toToken = m'.toToken) :
    l.readAll flaw = m.readAll flaw := by
  rw [Lexer.readAll]
  split
  · next hs =>
    rw [hl] at hs
    cases hs
  · next hs =>
    obtain rfl := Except.ok.inj (hl.symm.trans hs)
    -- the sides are opened one after the other, since rewriting would open only one of them
    symm
    rw [Lexer.readAll]
    split
    · next hs =>
      rw [hm] at hs
      cases hs
    · next hs =>
      obtain rfl := Except.ok.inj (hm.symm.trans hs)
      rw [h]

/-- The tokens of a document are those that it has without remarks in front. -/
theorem ofSource_remarks (ht : isRemarks false text = true) (hr : '\r' ∉ text)
    (hb : isBreak b = true) (hbr : b ≠ '\r') (hd : dump.head? ≠ some orderMark)
    (flaw : Option Fault) :
    Tokens.ofSource ⟨text ++ b :: dump, flaw⟩ = Tokens.ofSource ⟨dump, flaw⟩ := by
  have hmark : dropMark (text ++ b :: dump) = text ++ b :: dump := by
    refine if_neg ?_
    cases text with
    | nil =>
      rw [List.nil_append, List.head?_cons, beq_iff_eq, Option.some.injEq]
      rintro rfl
      exact absurd hb (by decide)
    | cons c text =>
      rw [List.cons_append, List.head?_cons, beq_iff_eq, Option.some.injEq]
      rintro rfl
      have hf : isRemarks false (orderMark :: text) = false := rfl
      exact Bool.noConfusion (ht.symm.trans hf)
  have hmark' : dropMark dump = dump := by
    refine if_neg ?_
    rw [beq_iff_eq]
    exact hd
  have hblank : Lexer.skipBlank false true ⟨text ++ b :: dump, 0⟩ =
      Lexer.skipBlank false true ⟨dump, 0⟩ := skipBlank_remarks ht hr hb hbr 0
  rw [Tokens.ofSource, Tokens.ofSource, hmark, hmark']
  refine readAll_congr rfl rfl ?_
  show Lexer.toToken { cursor := ⟨text ++ b :: dump, 0⟩ } = Lexer.toToken { cursor := ⟨dump, 0⟩ }
  simp only [Lexer.toToken, bne_self_eq_false, hblank]

/-- **Remarks in front of a document do not change its value.** -/
theorem readDocument_remarks (ht : isRemarks false text = true) (hr : '\r' ∉ text)
    (hb : isBreak b = true) (hbr : b ≠ '\r') (hd : dump.head? ≠ some orderMark)
    (flaw : Option Fault) :
    readDocument ⟨text ++ b :: dump, flaw⟩ = readDocument ⟨dump, flaw⟩ := by
  rw [readDocument, readDocument, ofSource_remarks ht hr hb hbr hd]

end LineShell.Yaml
