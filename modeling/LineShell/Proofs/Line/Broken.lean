import LineShell.Proofs.Line.Grammar

/-!
# Lines that break

A line that begins with a name and is no line of the grammar breaks at one character: behind its
command, or at one of its parameters. `Broken` is the beginning of such a line, taken apart up to
that character. What stands in front of it is a line of the grammar, and where a line breaks does
not depend on what follows; only a value that is not closed breaks because no other quote follows.

* `Broken.parse_of_breaks` - a line that breaks is read up to the break, and keeps the parameters in
  front of the one that breaks
* `exists_breaks` - every line that is refused and has a command breaks somewhere

As for lines of the grammar, the loop over parameters is followed in both directions, and the second
one is an induction on the loop (`exists_fragment`).
-/

namespace LineShell.Line

/-! ## Where a line breaks -/

/-- The blanks of a gap. -/
def Gap.blanks (g : Gap) : Blanks := ⟨g.val, g.property.2⟩

/-- Whether a parameter is read up to a character that may not follow it. A bare value goes on to
the next blank, so nothing else follows it. -/
def Piece.Blocks : Piece → Char → Prop
  | flag _, c => isNameChar c = false ∧ isSpacing c = false ∧ c ≠ '='
  | bare _ _, _ => False
  | quoted _ _, c => isSpacing c = false

/-- A parameter that cannot be read, up to the character at which it breaks. -/
inductive Fragment where
  /-- It does not begin with a name. -/
  | nameless (stop : Char) (h : isNameChar stop = false ∧ isSpacing stop = false)
  /-- The quote that opens its value is never closed. -/
  | unclosed (key : Name)
  /-- Something other than a blank follows it. -/
  | crowded (p : Piece) (stop : Char) (h : p.Blocks stop)

namespace Fragment

/-- The character at which a parameter breaks. -/
def stop : Fragment → Char
  | nameless c _ => c
  | unclosed _ => '"'
  | crowded _ c _ => c

/-- Why it breaks. -/
def fault : Fragment → Fault
  | nameless _ _ => .noName
  | unclosed _ => .unterminated
  | crowded p c _ => .unseparated (.parameter (String.ofList p.key.val)) c

theorem isBare_nil :
    (∀ c ∈ ([] : List Char), isSpacing c = false) ∧ ([] : List Char).head? ≠ some '"' := by
  simp

/-- What stands in front of the break, read as a parameter. -/
def piece? : Fragment → Option Piece
  | nameless _ _ => none
  | unclosed key => some (.bare key ⟨[], isBare_nil⟩)
  | crowded p _ _ => some p

/-- The text in front of the break. -/
def read (f : Fragment) : List Char := f.piece?.elim [] Piece.chars

end Fragment

/-- The beginning of a line up to the character at which it breaks. -/
inductive Broken where
  | command (name : Name) (stop : Char) (h : isNameChar stop = false ∧ isSpacing stop = false)
  | parameter (name : Name) (params : List (Gap × Piece)) (gap : Gap) (fragment : Fragment)

namespace Broken

/-- The command of the line. -/
def name : Broken → Name
  | command n _ _ => n
  | parameter n _ _ _ => n

/-- The parameters in front of the one that breaks. -/
def pairs : Broken → List (String × String)
  | command _ _ _ => []
  | parameter _ ps _ _ => ps.map fun p => p.2.pair

/-- The character at which the line breaks. -/
def stop : Broken → Char
  | command _ c _ => c
  | parameter _ _ _ f => f.stop

/-- Why it breaks. -/
def fault : Broken → Fault
  | command _ c _ => .unseparated .command c
  | parameter _ _ _ f => f.fault

/-- What stands in front of the break, read as a line. -/
def heard : Broken → Layout
  | command n _ _ => ⟨n, [], ⟨[], isSpacing_of_mem_nil⟩⟩
  | parameter n ps gap f =>
    match f.piece? with
    | none => ⟨n, ps, gap.blanks⟩
    | some p => ⟨n, ps ++ [(gap, p)], ⟨[], isSpacing_of_mem_nil⟩⟩

/-- The text in front of the break. -/
def read (b : Broken) : List Char := b.heard.chars

/-- Whether a line breaks here. Where it breaks at a quote, no other quote follows. -/
def Breaks (b : Broken) (line : String) : Prop :=
  ∃ rest, line.toList = b.read ++ b.stop :: rest ∧ (b.fault = .unterminated → '"' ∉ rest)

theorem read_parameter (n : Name) (ps : List (Gap × Piece)) (gap : Gap) (f : Fragment) :
    (parameter n ps gap f).read = n.val ++ (Layout.tailChars ps gap.blanks ++ f.read) := by
  rw [read, heard, Fragment.read]
  cases f.piece? with
  | none => simp [Layout.chars]
  | some p => simp [Layout.chars, Layout.tailChars, Gap.blanks]

end Broken

/-! ## What is read of a line that breaks -/

/-- What is left behind a run of one kind does not begin with another of that kind. -/
theorem head?_dropWhile (p : Char → Bool) (cs : List Char) :
    ∀ c, (cs.dropWhile p).head? = some c → p c = false := by
  intro c hc
  have hnot := List.head?_dropWhile_not p cs
  rw [hc] at hnot
  simpa using hnot

theorem readQuoted_eq_none_iff {cs : List Char} : readQuoted cs = none ↔ '"' ∉ cs := by
  constructor
  · intro h hmem
    obtain ⟨v, rest, rfl, hv⟩ := List.eq_append_cons_of_mem hmem
    rw [readQuoted_eq_some_iff.2 ⟨hv, rfl⟩] at h
    cases h
  · intro hmem
    cases h : readQuoted cs with
    | none => rfl
    | some r =>
      obtain ⟨v, rest⟩ := r
      rw [(readQuoted_eq_some_iff.1 h).2] at hmem
      exact absurd (List.mem_append_right v List.mem_cons_self) hmem

/-- Only a quote that is not closed keeps a value from being read. -/
theorem exists_of_readValue_error {cs rest : List Char} (h : readValue cs = .error rest) :
    ∃ v, cs = '=' :: '"' :: v ∧ '"' ∉ v := by
  unfold readValue at h
  split at h
  · next v =>
    cases hq : readQuoted v with
    | none => exact ⟨v, rfl, readQuoted_eq_none_iff.1 hq⟩
    | some r => rw [hq] at h; cases h
  · cases h
  · cases h

namespace Piece

variable {p : Piece} {c : Char}

theorem Blocks.isSpacing_eq_false (h : p.Blocks c) : isSpacing c = false := by
  cases p with
  | flag k => exact h.2.1
  | bare k v => exact h.elim
  | quoted k v => exact h

theorem Blocks.head?_tail_append (h : p.Blocks c) (rest : List Char) :
    ∀ x, (p.tail ++ c :: rest).head? = some x → isNameChar x = false := by
  intro x hx
  cases p with
  | flag k =>
    obtain rfl : c = x := Option.some.inj hx
    exact h.1
  | bare k v => exact h.elim
  | quoted k v =>
    obtain rfl : '=' = x := Option.some.inj hx
    decide

/-- A parameter is read up to the character that may not follow it. -/
theorem Blocks.readValue (h : p.Blocks c) (rest : List Char) :
    readValue (p.tail ++ c :: rest) = .ok (p.value, c :: rest) := by
  cases p with
  | flag k =>
    rw [tail, List.nil_append]
    unfold Line.readValue
    split
    · next he => exact absurd (List.cons.inj he).1 h.2.2
    · next he => exact absurd (List.cons.inj he).1 h.2.2
    · rfl
  | bare k v => exact h.elim
  | quoted k v =>
    have hr : readQuoted (v.val ++ '"' :: c :: rest) = some (v.val, c :: rest) :=
      readQuoted_eq_some_iff.2 ⟨v.property, rfl⟩
    rw [show (Piece.quoted k v).tail ++ c :: rest = '=' :: '"' :: (v.val ++ '"' :: c :: rest) by
      simp [tail], Line.readValue, hr]
    rfl

/-- Where reading a value ends at something other than a blank, the parameter is blocked. -/
theorem exists_blocks_of_readValue (key : Name) {cs v rest : List Char}
    (h : Line.readValue cs = .ok (v, c :: rest)) (hc : isSpacing c = false)
    (hhead : ∀ x, cs.head? = some x → isNameChar x = false) :
    ∃ p : Piece, p.key = key ∧ p.Blocks c ∧ cs = p.tail ++ c :: rest := by
  unfold Line.readValue at h
  split at h
  · next cs' =>
    cases hq : readQuoted cs' with
    | none => rw [hq] at h; cases h
    | some r =>
      rw [hq] at h
      cases h
      obtain ⟨hv, rfl⟩ := readQuoted_eq_some_iff.1 hq
      exact ⟨.quoted key ⟨v, hv⟩, rfl, hc, by simp [tail]⟩
  · next cs' _ =>
    -- a bare value is read up to a blank
    simp only [Except.ok.injEq, Prod.mk.injEq] at h
    have hblank := head?_dropWhile (fun c => !isSpacing c) cs' c (by rw [h.2]; rfl)
    rw [hc] at hblank
    cases hblank
  · next hne =>
    cases h
    refine ⟨.flag key, rfl, ⟨hhead c rfl, hc, ?_⟩, rfl⟩
    rintro rfl
    exact hne rest rfl

end Piece

/-- A parameter that cannot be read ends the reading, and is not kept. -/
theorem readParams_fragment (f : Fragment) {rest : List Char}
    (h : f.fault = .unterminated → '"' ∉ rest) (acc : Params) :
    readParams acc (f.read ++ f.stop :: rest) = ⟨acc, f.stop :: rest, some f.fault⟩ := by
  cases f with
  | nameless c hc =>
    refine readParams_of_noName (List.cons_ne_nil _ _) ?_
    exact List.takeWhile_cons_of_neg (by simp [hc.1, Fragment.stop])
  | unclosed key =>
    have hhead : ∀ x, ('=' :: '"' :: rest).head? = some x → isNameChar x = false := by
      intro x hx
      obtain rfl : '=' = x := Option.some.inj hx
      decide
    have hkey := takeWhile_append_of_head key.isNameChar_of_mem hhead
    have hdrop := dropWhile_append_of_head key.isNameChar_of_mem hhead
    have hvalue : readValue ('=' :: '"' :: rest) = .error ('"' :: rest) := by
      rw [readValue, readQuoted_eq_none_iff.2 (h rfl)]
    rw [show (Fragment.unclosed key).read ++ (Fragment.unclosed key).stop :: rest
      = key.val ++ '=' :: '"' :: rest by simp [Fragment.read, Fragment.piece?, Fragment.stop,
        Piece.chars, Piece.key, Piece.tail]]
    exact readParams_of_error (by rw [hkey]; exact key.ne_nil) (by rw [hdrop]; exact hvalue)
  | crowded p c hc =>
    have hhead := hc.head?_tail_append rest
    have hkey := takeWhile_append_of_head p.key.isNameChar_of_mem hhead
    have hdrop := dropWhile_append_of_head p.key.isNameChar_of_mem hhead
    rw [show (Fragment.crowded p c hc).read ++ (Fragment.crowded p c hc).stop :: rest
      = p.key.val ++ (p.tail ++ c :: rest) from List.append_assoc _ _ _]
    rw [readParams_of_ok_cons (by rw [hkey]; exact p.key.ne_nil)
      (by rw [hdrop]; exact hc.readValue rest), if_neg (by simp [hc.isSpacing_eq_false]), hkey]
    rfl

theorem Fragment.isSpacing_head? (f : Fragment) (rest : List Char) :
    ∀ c, (f.read ++ f.stop :: rest).head? = some c → isSpacing c = false := by
  intro c hc
  cases hp : f.piece? with
  | none =>
    rw [read, hp] at hc
    obtain rfl : f.stop = c := Option.some.inj hc
    cases f with
    | nameless stop h => exact h.2
    | unclosed key => cases hp
    | crowded p stop h => cases hp
  | some p =>
    obtain ⟨x, hx, hname⟩ := p.head?_chars (f.stop :: rest)
    rw [read, hp, Option.elim_some, hx, Option.some.injEq] at hc
    exact hc ▸ isSpacing_of_isNameChar hname

namespace Broken

variable {b : Broken} {line : String}

/-- A line that breaks is read up to the break, and keeps the parameters in front of it. -/
theorem parse_of_breaks (h : b.Breaks line) :
    parse line = ⟨some (String.ofList b.name.val), Assoc.ofList b.pairs, b.read.length,
      some b.fault⟩ := by
  obtain ⟨rest, hline, hquote⟩ := h
  cases b with
  | command n c hc =>
    have hread : (command n c hc).read = n.val := List.append_nil _
    rw [hread] at hline ⊢
    have hhead : ∀ x, (c :: rest).head? = some x → isNameChar x = false := by
      intro x hx
      exact Option.some.inj hx ▸ hc.1
    have hname := takeWhile_append_of_head n.isNameChar_of_mem hhead
    have hdrop := dropWhile_append_of_head n.isNameChar_of_mem hhead
    rw [stop] at hline
    simp only [parse, hline, hname, hdrop]
    rw [if_neg (by simp [n.ne_nil]), if_neg (by simp [hc.2])]
    rfl
  | parameter n ps gap f =>
    have hrest : ∀ c, (f.read ++ f.stop :: rest).head? = some c → isSpacing c = false :=
      f.isSpacing_head? rest
    have hgap : gap.blanks.val = [] → f.read ++ f.stop :: rest = [] :=
      fun he => absurd he gap.property.1
    have hsplit : line.toList = n.val ++ (Layout.tailChars ps gap.blanks ++
        (f.read ++ f.stop :: rest)) := by
      rw [hline, read_parameter]
      simp [stop]
    rw [parse_of_ends n (ends_tailChars_append ps gap.blanks hgap) hsplit,
      readParams_tailChars_append ps gap.blanks hgap hrest, readParams_fragment f hquote]
    have hlength : line.toList.length - (f.stop :: rest).length
        = (parameter n ps gap f).read.length := by
      rw [hline, List.length_append]
      exact Nat.add_sub_cancel _ _
    simp only [hlength]
    rfl

theorem not_isValid_of_breaks (h : b.Breaks line) : (parse line).isValid = false := by
  rw [parse_of_breaks h]
  rfl

/-- What stands in front of the break is a line of the grammar. -/
theorem isValid_read (b : Broken) : (parse (String.ofList b.read)).isValid = true := by
  have hread : b.heard.chars = (String.ofList b.read).toList := String.toList_ofList.symm
  rw [parse_of_layout b.heard hread]
  rfl

end Broken

/-- Parameters that are not read to the end break at one of them, whatever blanks stand in front. -/
theorem exists_fragment {acc : Params} {cs : List Char} (h : (readParams acc cs).fault ≠ none)
    (hcs : ∀ c, cs.head? = some c → isSpacing c = false) (g : Gap) :
    ∃ (ps : List (Gap × Piece)) (gap : Gap) (f : Fragment) (rest : List Char),
      g.val ++ cs = Layout.tailChars ps gap.blanks ++ (f.read ++ f.stop :: rest) ∧
      (f.fault = .unterminated → '"' ∉ rest) := by
  by_cases hn : cs.takeWhile isNameChar = []
  · cases cs with
    | nil => exact absurd (by rw [readParams_nil]) h
    | cons c rest =>
      have hc : isNameChar c = false := by
        by_contra hname
        rw [List.takeWhile_cons_of_pos (by simpa using hname)] at hn
        cases hn
      exact ⟨[], g, .nameless c ⟨hc, hcs c rfl⟩, rest, rfl, fun hf => by cases hf⟩
  let key : Name := ⟨cs.takeWhile isNameChar, isName_takeWhile hn⟩
  have hsplit : cs = key.val ++ cs.dropWhile isNameChar := List.takeWhile_append_dropWhile.symm
  have hhead := head?_dropWhile isNameChar cs
  cases hv : readValue (cs.dropWhile isNameChar) with
  | error rest =>
    obtain ⟨v, hv', hclosed⟩ := exists_of_readValue_error hv
    refine ⟨[], g, .unclosed key, v, ?_, fun _ => hclosed⟩
    rw [hsplit, hv']
    simp [Layout.tailChars, Gap.blanks, Fragment.read, Fragment.piece?, Fragment.stop, Piece.chars,
      Piece.key, Piece.tail]
  | ok r =>
    obtain ⟨v, rest⟩ := r
    cases rest with
    | nil => exact absurd (by rw [readParams_of_ok_nil hn hv]) h
    | cons c rest =>
      by_cases hc : isSpacing c = true
      · rw [readParams_of_ok_cons hn hv, if_pos hc] at h
        obtain ⟨p, hkey, -, htail⟩ := exists_piece_of_readValue key hv
        have hchars : cs = p.chars ++ c :: rest := by
          rw [Piece.chars, hkey, List.append_assoc, ← htail]
          exact hsplit
        -- the blanks that are skipped here are the gap in front of what is read next
        obtain ⟨next, hnext⟩ := exists_gap hc rest
        have hstop := head?_dropWhile isSpacing rest
        have hlt : (rest.dropWhile isSpacing).length < cs.length := by
          have hle := length_dropWhile_le isSpacing rest
          rw [hchars, List.length_append, List.length_cons]
          omega
        obtain ⟨ps, gap, f, after, hps, hquote⟩ := exists_fragment h hstop next
        refine ⟨(g, p) :: ps, gap, f, after, ?_, hquote⟩
        rw [hchars, Layout.tailChars, List.flatMap_cons, List.append_assoc, List.append_assoc,
          List.append_assoc, ← List.append_assoc _ gap.blanks.val, ← Layout.tailChars, ← hps, hnext]
      · have hc : isSpacing c = false := by simpa using hc
        obtain ⟨p, hkey, hblocks, htail⟩ := Piece.exists_blocks_of_readValue key hv hc hhead
        refine ⟨[], g, .crowded p c hblocks, rest, ?_, fun hf => by cases hf⟩
        rw [hsplit, htail, ← hkey]
        simp [Layout.tailChars, Gap.blanks, Fragment.read, Fragment.piece?, Fragment.stop,
          Piece.chars]
termination_by cs.length

/-- **In every line that is refused and has a command, there is a break.** -/
theorem exists_breaks {line : String} (h : (parse line).isValid = false)
    (hc : (parse line).command ≠ none) : ∃ b : Broken, b.Breaks line := by
  by_cases hn : line.toList.takeWhile isNameChar = []
  · exact absurd (by simp [parse, hn]) hc
  let name : Name := ⟨line.toList.takeWhile isNameChar, isName_takeWhile hn⟩
  have hsplit : line.toList = name.val ++ line.toList.dropWhile isNameChar :=
    List.takeWhile_append_dropWhile.symm
  cases hrest : line.toList.dropWhile isNameChar with
  | nil => simp [Parsed.isValid, parse, hn, hrest] at h
  | cons c rest =>
    by_cases hblank : isSpacing c = true
    · have hends : Ends (c :: rest) := fun x hx => Option.some.inj hx ▸ hblank
      have hparse := parse_of_ends name hends (hrest ▸ hsplit)
      obtain ⟨gap, hgap⟩ := exists_gap hblank rest
      have hfault : (readParams ∅ (rest.dropWhile isSpacing)).fault ≠ none := by
        rw [hparse, List.dropWhile_cons_of_pos hblank] at h
        intro hnone
        simp [Parsed.isValid, hnone] at h
      have hstop := head?_dropWhile isSpacing rest
      obtain ⟨ps, gap', f, after, hps, hquote⟩ := exists_fragment hfault hstop gap
      refine ⟨.parameter name ps gap' f, after, ?_, hquote⟩
      rw [hsplit, hrest, ← hgap, hps, Broken.read_parameter]
      simp [Broken.stop]
    · have hname : isNameChar c = false :=
        head?_dropWhile isNameChar line.toList c (by rw [hrest]; rfl)
      refine ⟨.command name c ⟨hname, by simpa using hblank⟩, rest, ?_, fun hf => by cases hf⟩
      rw [hsplit, hrest]
      simp [Broken.read, Broken.heard, Broken.stop, Layout.chars, Layout.tailChars]

/-- Without a command nothing is read of a line. -/
theorem parse_of_command_eq_none {line : String} (h : (parse line).command = none) :
    line.toList.takeWhile isNameChar = [] ∧ parse line = ⟨none, ∅, 0, some .noCommand⟩ := by
  by_cases hn : line.toList.takeWhile isNameChar = []
  · exact ⟨hn, by simp [parse, hn]⟩
  · exfalso
    cases hrest : line.toList.dropWhile isNameChar with
    | nil => simp [parse, hn, hrest] at h
    | cons c rest =>
      by_cases hc : isSpacing c = true
      · simp [parse, hn, hrest, hc] at h
      · simp [parse, hn, hrest, hc] at h

end LineShell.Line
