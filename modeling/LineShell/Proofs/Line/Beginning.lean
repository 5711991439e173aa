import LineShell.Proofs.Line.Broken
import Mathlib.Data.List.Infix

/-!
# The longest beginning of a line

How far a line is read, and what is kept of it if it is refused, can be said without following the
reader: by the longest beginning of the line that is as asked for (`longest?`).

* The cursor stands behind the longest beginning that is accepted.
* The command of a refused line is its longest beginning that is a name.
* The parameters of a refused line are those of its longest beginning that is accepted and ends in a
  blank. There a parameter has been read with the blank behind it, or none has been begun.

## How the proofs go

A beginning that goes beyond the break of a line breaks at the same place, so it is not accepted
(`Broken.length_le_of_isValid`). One that ends in a blank inside of the parameter that breaks ends
inside of a quoted value, so it is not accepted either (`Piece.exists_of_prefix_of_blank`).
-/

namespace LineShell.Line

/-! ## The longest beginning of a text -/

/-- The longest beginning of a text that is as asked for, if there is one. -/
def longest? (p : String → Bool) (line : String) : Option String :=
  (line.toList.inits.map String.ofList).findRev? p

section Longest

variable {p : String → Bool} {line pre : String}

theorem mem_beginnings :
    pre ∈ line.toList.inits.map String.ofList ↔ pre.toList <+: line.toList := by
  rw [List.mem_map]
  constructor
  · rintro ⟨cs, hcs, rfl⟩
    rw [String.toList_ofList]
    exact (List.mem_inits cs line.toList).1 hcs
  · intro h
    exact ⟨pre.toList, (List.mem_inits _ _).2 h, String.ofList_toList⟩

/-- Beginnings are listed with the shorter ones first. -/
theorem pairwise_beginnings (line : String) :
    (line.toList.inits.map String.ofList).Pairwise fun a b => a.length < b.length := by
  rw [List.pairwise_map]
  simp only [String.length_ofList]
  generalize line.toList = cs
  induction cs with
  | nil => exact List.pairwise_singleton _ _
  | cons c cs ih =>
    rw [List.inits_cons, List.pairwise_cons, List.pairwise_map]
    refine ⟨?_, ih.imp Nat.succ_lt_succ⟩
    intro b hb
    obtain ⟨b, -, rfl⟩ := List.mem_map.1 hb
    exact Nat.zero_lt_succ _

theorem longest?_eq_none_iff :
    longest? p line = none ↔ ∀ q : String, q.toList <+: line.toList → p q = false := by
  rw [longest?, List.findRev?_eq_find?_reverse, List.find?_eq_none]
  simp only [List.mem_reverse, mem_beginnings, Bool.not_eq_true]

theorem spec_of_longest? (h : longest? p line = some pre) : pre.toList <+: line.toList ∧
    p pre = true ∧ ∀ q : String, q.toList <+: line.toList → p q = true → q.length ≤ pre.length := by
  have hsorted := List.pairwise_reverse.2 (pairwise_beginnings line)
  rw [longest?, List.findRev?_eq_find?_reverse, List.find?_eq_some_iff_append] at h
  obtain ⟨hp, longer, shorter, hsplit, hlonger⟩ := h
  have hmem (q : String) : q ∈ longer ++ pre :: shorter ↔ q.toList <+: line.toList := by
    rw [← hsplit, List.mem_reverse, mem_beginnings]
  rw [hsplit, List.pairwise_append, List.pairwise_cons] at hsorted
  refine ⟨(hmem pre).1 (List.mem_append_right _ List.mem_cons_self), hp, fun q hq hpq => ?_⟩
  rcases List.mem_append.1 ((hmem q).2 hq) with hq | hq
  · have := hlonger q hq
    rw [hpq] at this
    cases this
  · rcases List.mem_cons.1 hq with rfl | hq
    · exact Nat.le_refl _
    · exact Nat.le_of_lt (hsorted.2.1.1 q hq)

theorem longest?_eq_some_iff : longest? p line = some pre ↔ pre.toList <+: line.toList ∧
    p pre = true ∧ ∀ q : String, q.toList <+: line.toList → p q = true → q.length ≤ pre.length := by
  refine ⟨spec_of_longest?, fun ⟨hpre, hp, hmax⟩ => ?_⟩
  cases h : longest? p line with
  | none =>
    rw [longest?_eq_none_iff.1 h pre hpre] at hp
    cases hp
  | some q =>
    obtain ⟨hq, hpq, hmaxq⟩ := spec_of_longest? h
    -- both are beginnings of one text, and neither is longer than the other
    have hle : q.toList.length ≤ pre.toList.length := hmax q hq hpq
    have hge : pre.toList.length ≤ q.toList.length := hmaxq pre hpre hp
    have hqp := List.prefix_of_prefix_length_le hq hpre hle
    exact congrArg some (String.toList_inj.1 (hqp.eq_of_length (Nat.le_antisymm hle hge)))

end Longest

/-! ## The longest beginning that is accepted -/

section Accepted

variable {b : Broken} {line q : String}

/-- A line that is accepted begins with a name. -/
theorem takeWhile_ne_nil_of_isValid (h : (parse line).isValid = true) :
    line.toList.takeWhile isNameChar ≠ [] := by
  intro hn
  simp [Parsed.isValid, parse, hn] at h

/-- Beyond the break nothing is accepted. -/
theorem Broken.length_le_of_isValid (h : b.Breaks line) (hq : q.toList <+: line.toList)
    (hvalid : (parse q).isValid = true) : q.length ≤ b.read.length := by
  obtain ⟨rest, hline, hquote⟩ := h
  by_contra hlt
  have hstop : b.read ++ [b.stop] <+: line.toList := ⟨rest, by rw [hline]; simp⟩
  have hle : (b.read ++ [b.stop]).length ≤ q.toList.length := by
    rw [List.length_append, List.length_singleton, String.length_toList]
    omega
  obtain ⟨more, hmore⟩ := List.prefix_of_prefix_length_le hstop hq hle
  rw [List.append_assoc, List.singleton_append] at hmore
  -- so it breaks where the line does
  have hrest : more <+: rest := by
    rw [← hmore, hline, List.prefix_append_right_inj, List.prefix_cons_inj] at hq
    exact hq
  have hbreaks : b.Breaks q :=
    ⟨more, hmore.symm, fun hf hmem => hquote hf (hrest.subset hmem)⟩
  rw [Broken.not_isValid_of_breaks hbreaks] at hvalid
  cases hvalid

/-- The longest beginning of a line that is accepted. -/
def accepted? (line : String) : Option String := longest? (fun q => (parse q).isValid) line

theorem accepted?_of_isValid (h : (parse line).isValid = true) : accepted? line = some line := by
  refine longest?_eq_some_iff.2 ⟨List.prefix_rfl, h, fun q hq _ => ?_⟩
  have hle := hq.length_le
  rwa [String.length_toList, String.length_toList] at hle

theorem accepted?_of_breaks (h : b.Breaks line) :
    accepted? line = some (String.ofList b.read) := by
  refine longest?_eq_some_iff.2 ⟨?_, b.isValid_read, fun q hq hvalid => ?_⟩
  · obtain ⟨rest, hline, -⟩ := h
    rw [String.toList_ofList, hline]
    exact List.prefix_append _ _
  · rw [String.length_ofList]
    exact Broken.length_le_of_isValid h hq hvalid

theorem accepted?_of_command_eq_none (h : (parse line).command = none) :
    accepted? line = none := by
  refine longest?_eq_none_iff.2 fun q hq => ?_
  rw [← Bool.not_eq_true]
  intro hvalid
  have hn := (parse_of_command_eq_none h).1
  have hq' := takeWhile_ne_nil_of_isValid hvalid
  obtain ⟨more, hmore⟩ := hq
  cases hcs : q.toList with
  | nil => exact hq' (by rw [hcs]; rfl)
  | cons c cs =>
    rw [← hmore, hcs, List.cons_append] at hn
    rw [hcs] at hq'
    by_cases hc : isNameChar c = true
    · rw [List.takeWhile_cons_of_pos hc] at hn
      cases hn
    · exact hq' (List.takeWhile_cons_of_neg hc)

end Accepted

/-! ## Mending a line -/

namespace Broken

variable {b : Broken} {line : String}

/-- A break stays where it is, whatever is written behind the line, unless a quote is missing. -/
theorem not_isValid_append (h : b.Breaks line) (hf : b.fault ≠ .unterminated) (s : String) :
    (parse (line ++ s)).isValid = false := by
  obtain ⟨rest, hline, -⟩ := h
  refine not_isValid_of_breaks (b := b) ⟨rest ++ s.toList, ?_, fun he => absurd he hf⟩
  rw [String.toList_append, hline, List.append_assoc, List.cons_append]

/-- A missing quote is all that a value which is not closed lacks. -/
theorem isValid_append_quote (h : b.Breaks line) (hf : b.fault = .unterminated) :
    (parse (line ++ "\"")).isValid = true := by
  obtain ⟨rest, hline, hquote⟩ := h
  cases b with
  | command n c hc => cases hf
  | parameter n ps gap f =>
    cases f with
    | nameless c hc => cases hf
    | crowded p c hc => cases hf
    | unclosed key =>
      let mended : Layout :=
        ⟨n, ps ++ [(gap, .quoted key ⟨rest, hquote rfl⟩)], ⟨[], isSpacing_of_mem_nil⟩⟩
      have hmended : mended.chars = (line ++ "\"").toList := by
        rw [String.toList_append, hline, read_parameter]
        simp [mended, Layout.chars, Layout.tailChars, Gap.blanks, Fragment.read, Fragment.piece?,
          Broken.stop, Fragment.stop, Piece.chars, Piece.key, Piece.tail]
      rw [parse_of_layout mended hmended]
      rfl

end Broken

/-! ## The cursor -/

theorem cursor_of_isValid {line : String} (h : (parse line).isValid = true) :
    (parse line).cursor = line.length := by
  obtain ⟨l, hl, -⟩ := exists_layout_of_isValid h
  rw [parse_of_layout l hl]
  exact String.length_toList

/-- The cursor stands behind the longest beginning of a line that is accepted. -/
theorem cursor_eq (line : String) :
    (parse line).cursor = ((accepted? line).map String.length).getD 0 := by
  by_cases hvalid : (parse line).isValid = true
  · rw [accepted?_of_isValid hvalid, cursor_of_isValid hvalid]
    rfl
  by_cases hc : (parse line).command = none
  · rw [accepted?_of_command_eq_none hc, (parse_of_command_eq_none hc).2]
    rfl
  · obtain ⟨b, hb⟩ := exists_breaks (Bool.eq_false_iff.2 hvalid) hc
    rw [accepted?_of_breaks hb, Broken.parse_of_breaks hb]
    exact String.length_ofList.symm

theorem cursor_lt_of_not_isValid {line : String} (h : (parse line).isValid = false)
    (hne : line ≠ "") : (parse line).cursor < line.length := by
  by_cases hc : (parse line).command = none
  · rw [(parse_of_command_eq_none hc).2]
    exact Nat.pos_of_ne_zero fun hzero => hne (String.length_eq_zero_iff.1 hzero)
  · obtain ⟨b, hb⟩ := exists_breaks h hc
    rw [Broken.parse_of_breaks hb]
    obtain ⟨rest, hline, -⟩ := hb
    show b.read.length < line.length
    rw [← String.length_toList, hline, List.length_append, List.length_cons]
    omega

/-- **The cursor stands behind the longest beginning of a line that is accepted**, at zero if there
is none; so a line with any text is accepted exactly if the cursor stands at its end. A refused line
with a command can be mended by writing something behind it exactly if a quote mends it, and that is
exactly if the line broke at a value which is not closed. -/
theorem cursor_at_longest_accepted (line : String) :
    (parse line).cursor = ((accepted? line).map String.length).getD 0 ∧
    (line ≠ "" → ((parse line).isValid = true ↔ (parse line).cursor = line.length)) ∧
    ((parse line).isValid = false → (parse line).command ≠ none →
      ((∃ s, (parse (line ++ s)).isValid = true) ↔ (parse (line ++ "\"")).isValid = true) ∧
      ((parse (line ++ "\"")).isValid = true ↔ (parse line).fault = some .unterminated)) := by
  refine ⟨cursor_eq line, fun hne => ⟨cursor_of_isValid, fun hend => ?_⟩, fun hbad hc => ?_⟩
  · by_contra hvalid
    have hlt := cursor_lt_of_not_isValid (Bool.eq_false_iff.2 hvalid) hne
    omega
  obtain ⟨b, hb⟩ := exists_breaks hbad hc
  rw [Broken.parse_of_breaks hb, Option.some.injEq]
  have hclosed : ∀ s, (parse (line ++ s)).isValid = true → b.fault = .unterminated := by
    intro s hs
    by_contra hf
    rw [Broken.not_isValid_append hb hf s] at hs
    cases hs
  refine ⟨⟨?_, fun hquote => ⟨"\"", hquote⟩⟩, hclosed "\"", Broken.isValid_append_quote hb⟩
  rintro ⟨s, hs⟩
  exact Broken.isValid_append_quote hb (hclosed s hs)

/-- Where a quote is missing, the blanks behind it do not count, and a quote mends the line; nothing
mends a line that breaks behind a closed quote. -/
theorem mended_by_quote_or_not :
    (parse "set a=1 b=\"x y").cursor = "set a=1 b=".length ∧
      (parse "set a=1 b=\"x y").cursor ≠ "set a=1 b=\"x y".length ∧
      (parse ("set a=1 b=\"x y" ++ "\"")).isValid = true ∧
      ¬ ∃ s, (parse ("set b=\"x\"y" ++ s)).isValid = true := by
  obtain ⟨hcursor, hend, hmend⟩ := cursor_at_longest_accepted "set a=1 b=\"x y"
  obtain ⟨-, -, hmend'⟩ := cursor_at_longest_accepted "set b=\"x\"y"
  have hbad : (parse "set a=1 b=\"x y").isValid = false := by decide +kernel
  have hopen : (parse "set a=1 b=\"x y").fault = some .unterminated := by decide +kernel
  have hcrowded : (parse "set b=\"x\"y").fault ≠ some .unterminated := by decide +kernel
  have hlongest : accepted? "set a=1 b=\"x y" = some "set a=1 b=" := by decide +kernel
  refine ⟨by rw [hcursor, hlongest]; rfl, fun hlength => ?_, ?_, fun hs => ?_⟩
  · rw [(hend (by decide)).2 hlength] at hbad
    cases hbad
  · exact (hmend hbad (by decide +kernel)).2.2 hopen
  · obtain ⟨hquote, hfault⟩ := hmend' (by decide +kernel) (by decide +kernel)
    exact hcrowded (hfault.1 (hquote.1 hs))

/-! ## What a refused line keeps -/

/-- Whether a text ends in a blank. -/
def endsInBlank (line : String) : Bool := line.toList.getLast?.any isSpacing

/-- The longest beginning of a line that is accepted and ends in a blank. -/
def settled? (line : String) : Option String :=
  longest? (fun q => (parse q).isValid && endsInBlank q) line

theorem endsInBlank_iff {line : String} :
    endsInBlank line = true ↔ ∃ c, line.toList.getLast? = some c ∧ isSpacing c = true := by
  rw [endsInBlank]
  cases line.toList.getLast? with
  | none => simp
  | some c => simp

/-- A name that a text begins with is part of the run of name characters there. -/
theorem prefix_takeWhile_of_isName {cs name : List Char} (h : name <+: cs)
    (hname : isName name = true) : name <+: cs.takeWhile isNameChar := by
  obtain ⟨more, rfl⟩ := h
  rw [List.takeWhile_append_of_pos (Name.isNameChar_of_mem ⟨name, hname⟩)]
  exact List.prefix_append _ _

/-- The longest name that a line begins with. -/
theorem longest?_isName (line : String) : longest? (fun q => isName q.toList) line =
    if line.toList.takeWhile isNameChar = [] then none
    else some (String.ofList (line.toList.takeWhile isNameChar)) := by
  by_cases hn : line.toList.takeWhile isNameChar = []
  · rw [if_pos hn, longest?_eq_none_iff]
    intro q hq
    rw [← Bool.not_eq_true]
    intro hname
    have hle := prefix_takeWhile_of_isName hq hname
    rw [hn, List.prefix_nil] at hle
    exact Name.ne_nil ⟨q.toList, hname⟩ hle
  · rw [if_neg hn, longest?_eq_some_iff, String.toList_ofList]
    refine ⟨List.takeWhile_prefix _, isName_takeWhile hn, fun q hq hname => ?_⟩
    rw [String.length_ofList, ← String.length_toList]
    exact (prefix_takeWhile_of_isName hq hname).length_le

/-- The command of any line is the longest name that it begins with. -/
theorem command_eq (line : String) :
    (parse line).command = longest? (fun q => isName q.toList) line := by
  rw [longest?_isName]
  by_cases hn : line.toList.takeWhile isNameChar = []
  · rw [if_pos hn]
    simp [parse, hn]
  · rw [if_neg hn]
    cases hrest : line.toList.dropWhile isNameChar with
    | nil => simp [parse, hn, hrest]
    | cons c rest =>
      by_cases hc : isSpacing c = true
      · simp [parse, hn, hrest, hc]
      · simp [parse, hn, hrest, hc]

/-- A beginning of a parameter that ends in a blank ends inside of a quoted value. -/
theorem Piece.exists_of_prefix_of_blank {p : Piece} {cs : List Char} (h : cs <+: p.chars) {c : Char}
    (hc : cs.getLast? = some c) (hblank : isSpacing c = true) :
    ∃ v, cs = p.key.val ++ '=' :: '"' :: v ∧ '"' ∉ v := by
  have hmem : c ∈ cs := List.mem_of_getLast? hc
  have hkey : c ∉ p.key.val := by
    intro hmem
    have hnot := isSpacing_of_isNameChar (p.key.isNameChar_of_mem c hmem)
    rw [hblank] at hnot
    cases hnot
  have hne {x : Char} (hx : isSpacing x = false) : c ≠ x := by
    rintro rfl
    rw [hblank] at hx
    cases hx
  cases p with
  | flag k =>
    have hmem := h.subset hmem
    rw [chars, tail, List.append_nil] at hmem
    exact absurd hmem hkey
  | bare k v =>
    rcases List.mem_append.1 (h.subset hmem) with hmem | hmem
    · exact absurd hmem hkey
    · rcases List.mem_cons.1 hmem with rfl | hmem
      · exact absurd rfl (hne (by decide))
      · exact absurd rfl (hne (v.property.1 c hmem))
  | quoted k v =>
    obtain ⟨more, hmore⟩ := h
    rcases List.append_eq_append_iff.1 hmore with ⟨as, hk, -⟩ | ⟨behind, rfl, htail⟩
    · exact absurd (hk ▸ List.mem_append_left as hmem) hkey
    -- behind the name there is more than nothing, more than the sign, and less than all
    have hbehind : behind <+: '=' :: '"' :: (v.val ++ ['"']) := ⟨more, htail.symm⟩
    rcases List.prefix_cons_iff.1 hbehind with rfl | ⟨signed, rfl, hsigned⟩
    · exact absurd (List.append_nil k.val ▸ hmem) hkey
    rcases List.prefix_cons_iff.1 hsigned with rfl | ⟨v', rfl, hv⟩
    · rw [List.getLast?_concat, Option.some.injEq] at hc
      exact absurd hc.symm (hne (by decide))
    rcases List.prefix_concat_iff.1 hv with rfl | hv
    · rw [show (quoted k v).key.val ++ '=' :: '"' :: (v.val ++ ['"'])
        = (k.val ++ '=' :: '"' :: v.val) ++ ['"'] by simp [key], List.getLast?_concat,
        Option.some.injEq] at hc
      exact absurd hc.symm (hne (by decide))
    · exact ⟨v', rfl, fun hquote => v.property (hv.subset hquote)⟩

namespace Broken

variable {line : String}

/-- A line that breaks behind its command has no beginning that is accepted and ends in a blank. -/
theorem settled?_of_command {n : Name} {c : Char}
    {hc : isNameChar c = false ∧ isSpacing c = false} (h : (command n c hc).Breaks line) :
    settled? line = none := by
  refine longest?_eq_none_iff.2 fun q hq => ?_
  rw [← Bool.not_eq_true, Bool.and_eq_true]
  rintro ⟨hvalid, hblank⟩
  obtain ⟨x, hx, hspace⟩ := endsInBlank_iff.1 hblank
  have hle := length_le_of_isValid h hq hvalid
  rw [← String.length_toList] at hle
  obtain ⟨rest, hline, -⟩ := h
  have hread : (command n c hc).read = n.val := List.append_nil _
  have hname : q.toList <+: n.val := by
    rw [← hread]
    exact List.prefix_of_prefix_length_le hq (hline ▸ List.prefix_append _ _) hle
  have hnot := isSpacing_of_isNameChar
    (n.isNameChar_of_mem x (hname.subset (List.mem_of_getLast? hx)))
  rw [hspace] at hnot
  cases hnot

/-- The line that stands in front of the parameter that breaks. -/
def before (n : Name) (ps : List (Gap × Piece)) (gap : Gap) : Layout := ⟨n, ps, gap.blanks⟩

theorem endsInBlank_before (n : Name) (ps : List (Gap × Piece)) (gap : Gap) :
    endsInBlank (String.ofList (before n ps gap).chars) = true := by
  obtain ⟨hne, hblanks⟩ := gap.property
  refine endsInBlank_iff.2 ⟨gap.val.getLast hne, ?_, hblanks _ (List.getLast_mem hne)⟩
  rw [String.toList_ofList, Layout.chars, Layout.tailChars, ← List.append_assoc]
  exact (List.getLast?_append_of_ne_nil _ hne).trans (List.getLast?_eq_some_getLast hne)

/-- A line that breaks at a parameter has its longest beginning of this kind in front of it. -/
theorem settled?_of_parameter {n : Name} {ps : List (Gap × Piece)} {gap : Gap} {f : Fragment}
    (h : (parameter n ps gap f).Breaks line) :
    settled? line = some (String.ofList (before n ps gap).chars) := by
  have hread : (parameter n ps gap f).read = (before n ps gap).chars ++ f.read := by
    rw [read_parameter, before, Layout.chars, List.append_assoc]
  have hprefix : (parameter n ps gap f).read <+: line.toList := by
    obtain ⟨rest, hline, -⟩ := h
    exact hline ▸ List.prefix_append _ _
  have hbefore : (before n ps gap).chars <+: line.toList :=
    (hread ▸ List.prefix_append _ _).trans hprefix
  refine longest?_eq_some_iff.2 ⟨by rwa [String.toList_ofList], ?_, fun q hq hp => ?_⟩
  · rw [parse_of_layout (before n ps gap) String.toList_ofList.symm, Bool.and_eq_true]
    exact ⟨rfl, endsInBlank_before n ps gap⟩
  obtain ⟨hvalid, hblank⟩ := Bool.and_eq_true_iff.1 hp
  obtain ⟨x, hx, hspace⟩ := endsInBlank_iff.1 hblank
  have hle := length_le_of_isValid h hq hvalid
  rw [← String.length_toList] at hle
  by_contra hlt
  rw [String.length_ofList, ← String.length_toList] at hlt
  -- what is longer ends inside of the parameter that breaks
  obtain ⟨inside, hinside⟩ :=
    List.prefix_of_prefix_length_le hbefore hq (Nat.le_of_lt (Nat.lt_of_not_le hlt))
  have hne : inside ≠ [] := by
    rintro rfl
    rw [List.append_nil] at hinside
    exact hlt (by rw [hinside])
  have hpart : inside <+: f.read := by
    have hqread := List.prefix_of_prefix_length_le hq hprefix hle
    rwa [hread, ← hinside, List.prefix_append_right_inj] at hqread
  rw [← hinside, List.getLast?_append_of_ne_nil _ hne] at hx
  cases hf : f.piece? with
  | none =>
    rw [Fragment.read, hf, Option.elim_none, List.prefix_nil] at hpart
    exact hne hpart
  | some p =>
    rw [Fragment.read, hf] at hpart
    obtain ⟨v, rfl, hv⟩ := p.exists_of_prefix_of_blank hpart hx hspace
    -- so a quote is missing there
    have hbreaks : (parameter n ps gap (.unclosed p.key)).Breaks q := by
      refine ⟨v, ?_, fun _ => hv⟩
      rw [← hinside, read_parameter, before, Layout.chars]
      simp [Fragment.read, Fragment.piece?, stop, Fragment.stop, Piece.chars, Piece.key, Piece.tail]
    rw [not_isValid_of_breaks hbreaks] at hvalid
    cases hvalid

end Broken

/-- A refused line keeps the parameters of its longest beginning that is accepted and ends in a
blank. -/
theorem params_of_not_isValid {line : String} (h : (parse line).isValid = false) :
    (parse line).params = ((settled? line).map fun q => (parse q).params).getD ∅ := by
  by_cases hc : (parse line).command = none
  · have hnone : settled? line = none := by
      refine longest?_eq_none_iff.2 fun q hq => ?_
      rw [longest?_eq_none_iff.1 (accepted?_of_command_eq_none hc) q hq, Bool.false_and]
    rw [hnone, (parse_of_command_eq_none hc).2]
    rfl
  obtain ⟨b, hb⟩ := exists_breaks h hc
  rw [Broken.parse_of_breaks hb]
  cases b with
  | command n c hstop =>
    rw [Broken.settled?_of_command hb]
    rfl
  | parameter n ps gap f =>
    rw [Broken.settled?_of_parameter hb, Option.map_some,
      parse_of_layout (Broken.before n ps gap) String.toList_ofList.symm]
    rfl

theorem command_eq_none_iff {line : String} : (parse line).command = none ↔
    line = "" ∨ ∃ c, line.toList.head? = some c ∧ isNameChar c = false := by
  rw [command_eq, longest?_isName, ← String.toList_eq_nil_iff]
  cases line.toList with
  | nil => simp
  | cons c cs =>
    by_cases hc : isNameChar c = true
    · simp [hc]
    · simp [hc]

/-- **What a refused line keeps.** Its command is the longest name that it begins with, and there is
none, and no parameters, exactly if it is empty or begins with something that is no name character.
Its parameters are those of its longest beginning that is accepted and ends in a blank. So the
parameter at which the reading failed is not among them, and where its name was given before, the
value from there stays. -/
theorem refused_keeps_settled (line : String) (h : (parse line).isValid = false) :
    ((parse line).command = none ↔
      line = "" ∨ ∃ c, line.toList.head? = some c ∧ isNameChar c = false) ∧
    ((parse line).command = none → (parse line).params = ∅) ∧
    (parse line).command = longest? (fun q => isName q.toList) line ∧
    (parse line).params = ((settled? line).map fun q => (parse q).params).getD ∅ := by
  refine ⟨command_eq_none_iff, fun hc => ?_, command_eq line, params_of_not_isValid h⟩
  rw [(parse_of_command_eq_none hc).2]

/-- A parameter that was given before and fails the second time, behind a quoted value in which
there are blanks. -/
theorem refused_keeps_first_value :
    (parse "set a=1 b=\"x y\" a=\"z w").isValid = false ∧
      settled? "set a=1 b=\"x y\" a=\"z w" = some "set a=1 b=\"x y\" " ∧
      (parse "set a=1 b=\"x y\" a=\"z w").params = Assoc.ofList [("a", "1"), ("b", "x y")] := by
  have hbad : (parse "set a=1 b=\"x y\" a=\"z w").isValid = false := by decide +kernel
  have hsettled : settled? "set a=1 b=\"x y\" a=\"z w" = some "set a=1 b=\"x y\" " := by
    decide +kernel
  obtain ⟨-, -, -, hparams⟩ := refused_keeps_settled _ hbad
  refine ⟨hbad, hsettled, ?_⟩
  rw [hparams, hsettled]
  decide +kernel

end LineShell.Line
