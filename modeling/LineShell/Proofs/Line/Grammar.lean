import LineShell.Line.Parser
import Mathlib.Data.Set.Subsingleton

/-!
# The grammar of lines

`Layout` is a line taken apart: a name, parameters with the blanks in front of them, and blanks at
the end. Its parts carry what the grammar asks of them, so every layout is one of a line of the
grammar. Reading accepts exactly the lines that have a layout, gives what the layout says, and no
line has two.

## How the proofs go

* A piece is read back from its text, whatever blank follows it (`readValue_tail`), and what was
  read is the text of a piece (`exists_piece_of_readValue`).
* The loop over parameters is followed in both directions: by induction on the layout
  (`readParams_tailChars`) and by induction on the loop itself (`exists_tail_of_readParams`).
* Two layouts of one text agree part by part, because each part ends where its characters do
  (`tailChars_inj`).
-/

namespace LineShell.Line

/-! ## Runs of characters -/

section Runs

variable {p : Char → Bool} {a b : List Char}

/-- A run ends where a character is not of its kind. -/
theorem takeWhile_append_of_head (ha : ∀ c ∈ a, p c = true)
    (hb : ∀ c, b.head? = some c → p c = false) : (a ++ b).takeWhile p = a := by
  rw [List.takeWhile_append_of_pos ha]
  cases b with
  | nil => simp
  | cons c b => rw [List.takeWhile_cons_of_neg (by simp [hb c rfl]), List.append_nil]

theorem dropWhile_append_of_head (ha : ∀ c ∈ a, p c = true)
    (hb : ∀ c, b.head? = some c → p c = false) : (a ++ b).dropWhile p = b := by
  rw [List.dropWhile_append_of_pos ha]
  cases b with
  | nil => rfl
  | cons c b => rw [List.dropWhile_cons_of_neg (by simp [hb c rfl])]

/-- Two texts that begin with runs of one kind, and go on otherwise, agree run by run. -/
theorem append_inj_of_head {a' b' : List Char} (ha : ∀ c ∈ a, p c = true)
    (hb : ∀ c, b.head? = some c → p c = false) (ha' : ∀ c ∈ a', p c = true)
    (hb' : ∀ c, b'.head? = some c → p c = false) (h : a ++ b = a' ++ b') : a = a' ∧ b = b' := by
  constructor
  · rw [← takeWhile_append_of_head ha hb, h, takeWhile_append_of_head ha' hb']
  · rw [← dropWhile_append_of_head ha hb, h, dropWhile_append_of_head ha' hb']

end Runs

/-! ## Parts of a line -/

/-- A name: not empty, and of name characters only. -/
abbrev Name := { cs : List Char // isName cs = true }

/-- Blanks, perhaps none. -/
abbrev Blanks := { cs : List Char // ∀ c ∈ cs, isSpacing c = true }

theorem isSpacing_of_mem_nil : ∀ c ∈ ([] : List Char), isSpacing c = true := by
  simp

/-- Blanks that separate: at least one. -/
abbrev Gap := { cs : List Char // cs ≠ [] ∧ ∀ c ∈ cs, isSpacing c = true }

/-- A value without quotes: no blanks, and no quote at the beginning. -/
abbrev BareText := { cs : List Char // (∀ c ∈ cs, isSpacing c = false) ∧ cs.head? ≠ some '"' }

/-- A value between quotes: anything but quotes. -/
abbrev QuotedText := { cs : List Char // '"' ∉ cs }

/-- A parameter as it is written. -/
inductive Piece where
  | flag (key : Name)
  | bare (key : Name) (value : BareText)
  | quoted (key : Name) (value : QuotedText)

namespace Piece

/-- The name of a parameter. -/
def key : Piece → Name
  | flag k => k
  | bare k _ => k
  | quoted k _ => k

/-- The value of a parameter. -/
def value : Piece → List Char
  | flag _ => flagValue
  | bare _ v => v
  | quoted _ v => v

/-- What is written behind the name. -/
def tail : Piece → List Char
  | flag _ => []
  | bare _ v => '=' :: v
  | quoted _ v => '=' :: '"' :: (v ++ ['"'])

/-- The text of a parameter. -/
def chars (p : Piece) : List Char := p.key.val ++ p.tail

/-- A parameter as a name and a value. -/
def pair (p : Piece) : String × String := (String.ofList p.key.val, String.ofList p.value)

end Piece

/-- A line taken apart. -/
structure Layout where
  name : Name
  /-- Each parameter with the blanks in front of it. -/
  params : List (Gap × Piece)
  trailing : Blanks

namespace Layout

/-- The text of parameters and of the blanks at the end. -/
def tailChars (ps : List (Gap × Piece)) (t : Blanks) : List Char :=
  ps.flatMap (fun p => p.1.val ++ p.2.chars) ++ t.val

/-- The text of a line. -/
def chars (l : Layout) : List Char := l.name.val ++ tailChars l.params l.trailing

/-- The parameters of a line as names and values, in the order in which they are written. -/
def pairs (l : Layout) : List (String × String) := l.params.map fun p => p.2.pair

end Layout

theorem Name.isNameChar_of_mem (k : Name) : ∀ c ∈ k.val, isNameChar c = true := by
  have h := k.property
  simp only [isName, Bool.and_eq_true, List.all_eq_true] at h
  exact h.2

theorem Name.ne_nil (k : Name) : k.val ≠ [] := by
  have h := k.property
  intro hnil
  simp [isName, hnil] at h

/-- A run of name characters is a name, unless it is empty. -/
theorem isName_takeWhile {cs : List Char} (h : cs.takeWhile isNameChar ≠ []) :
    isName (cs.takeWhile isNameChar) = true := by
  simp only [isName, Bool.and_eq_true, Bool.not_eq_true', List.isEmpty_eq_false_iff]
  exact ⟨h, List.all_takeWhile⟩

/-- Where a blank stands, there is a gap. -/
theorem exists_gap {c : Char} (hc : isSpacing c = true) (rest : List Char) :
    ∃ g : Gap, g.val ++ rest.dropWhile isSpacing = c :: rest := by
  refine ⟨⟨c :: rest.takeWhile isSpacing, by simp, ?_⟩, ?_⟩
  · intro x hx
    rcases List.mem_cons.1 hx with rfl | hx
    · exact hc
    · exact List.all_eq_true.1 List.all_takeWhile x hx
  · rw [List.cons_append, List.takeWhile_append_dropWhile]

/-! ## What may follow -/

/-- Whether a parameter may end in front of a text: at a blank or at the end of the line. -/
def Ends (rest : List Char) : Prop := ∀ c, rest.head? = some c → isSpacing c = true

theorem Ends.isNameChar_eq_false {rest : List Char} (h : Ends rest) :
    ∀ c, rest.head? = some c → isNameChar c = false := by
  intro c hc
  cases hn : isNameChar c with
  | false => rfl
  | true =>
    have hs := isSpacing_of_isNameChar hn
    rw [h c hc] at hs
    cases hs

theorem Ends.head?_ne {rest : List Char} (h : Ends rest) {c : Char} (hc : isSpacing c = false) :
    rest.head? ≠ some c := by
  intro he
  rw [h c he] at hc
  cases hc

/-- Behind a gap anything may stand: the text as a whole begins with a blank or is empty. -/
theorem ends_tailChars_append (ps : List (Gap × Piece)) (t : Blanks) {rest : List Char}
    (h : t.val = [] → rest = []) : Ends (Layout.tailChars ps t ++ rest) := by
  intro c hc
  cases ps with
  | nil =>
    rw [show Layout.tailChars [] t = t.val from rfl] at hc
    cases ht : t.val with
    | nil =>
      rw [ht, h ht] at hc
      cases hc
    | cons x t' =>
      rw [ht, List.cons_append, List.head?_cons, Option.some.injEq] at hc
      exact t.property c (by rw [ht, hc]; exact List.mem_cons_self)
  | cons p ps =>
    obtain ⟨⟨g, hg⟩, q⟩ := p
    cases g with
    | nil => exact absurd rfl hg.1
    | cons x g =>
      simp only [Layout.tailChars, List.flatMap_cons, List.cons_append, List.head?_cons,
        Option.some.injEq] at hc
      exact hc ▸ hg.2 x List.mem_cons_self

theorem ends_tailChars (ps : List (Gap × Piece)) (t : Blanks) : Ends (Layout.tailChars ps t) := by
  have h : Ends (Layout.tailChars ps t ++ []) := ends_tailChars_append ps t fun _ => rfl
  rwa [List.append_nil] at h

/-- What stands behind a name is no name character. -/
theorem Piece.head?_tail_append (p : Piece) {rest : List Char} (h : Ends rest) :
    ∀ c, (p.tail ++ rest).head? = some c → isNameChar c = false := by
  cases p with
  | flag k => exact h.isNameChar_eq_false
  | bare k v =>
    intro c hc
    simp only [tail, List.cons_append, List.head?_cons, Option.some.injEq] at hc
    subst hc
    decide
  | quoted k v =>
    intro c hc
    simp only [tail, List.cons_append, List.head?_cons, Option.some.injEq] at hc
    subst hc
    decide

/-- The text of a parameter begins with a name character. -/
theorem Piece.head?_chars (p : Piece) (rest : List Char) :
    ∃ c, (p.chars ++ rest).head? = some c ∧ isNameChar c = true := by
  obtain ⟨c, cs, hk⟩ := List.exists_cons_of_ne_nil p.key.ne_nil
  refine ⟨c, ?_, p.key.isNameChar_of_mem c (by rw [hk]; exact List.mem_cons_self)⟩
  rw [chars, hk]
  rfl

/-! ## Values -/

/-- A quoted value is what stands before the next quote. -/
theorem readQuoted_eq_some_iff {cs v rest : List Char} :
    readQuoted cs = some (v, rest) ↔ '"' ∉ v ∧ cs = v ++ '"' :: rest := by
  induction cs generalizing v with
  | nil => simp [readQuoted]
  | cons c cs ih =>
    by_cases hc : c = '"'
    · subst hc
      rw [show readQuoted ('"' :: cs) = some ([], cs) from rfl]
      constructor
      · intro h
        cases h
        exact ⟨by simp, rfl⟩
      · rintro ⟨hv, he⟩
        cases v with
        | nil => cases he; rfl
        | cons x v =>
          rw [List.cons_append, List.cons.injEq] at he
          exact absurd (he.1 ▸ List.mem_cons_self) hv
    · rw [readQuoted.eq_3 c cs hc, Option.map_eq_some_iff]
      constructor
      · rintro ⟨⟨v', rest'⟩, hr, he⟩
        cases he
        obtain ⟨hv, hcs⟩ := ih.1 hr
        refine ⟨?_, by rw [hcs]; rfl⟩
        rw [List.mem_cons]
        exact fun h => h.elim (fun h => hc h.symm) hv
      · rintro ⟨hv, he⟩
        cases v with
        | nil => exact absurd (List.cons.inj he).1 hc
        | cons x v =>
          obtain ⟨rfl, hcs⟩ := List.cons.inj he
          exact ⟨(v, rest), ih.2 ⟨fun h => hv (List.mem_cons_of_mem _ h), hcs⟩, rfl⟩

/-- What is written behind a name is read as the value that it stands for. -/
theorem readValue_tail (p : Piece) {rest : List Char} (h : Ends rest) :
    readValue (p.tail ++ rest) = .ok (p.value, rest) := by
  cases p with
  | flag k =>
    have hne : rest.head? ≠ some '=' := h.head?_ne (by decide)
    rw [Piece.tail, List.nil_append]
    unfold readValue
    split
    · simp at hne
    · simp at hne
    · rfl
  | bare k v =>
    obtain ⟨hv, hq⟩ := v.property
    have hend : ∀ c, rest.head? = some c → (!isSpacing c) = false := by
      intro c hc
      rw [h c hc]
      rfl
    have hpos : ∀ c ∈ v.val, (!isSpacing c) = true := by
      intro c hc
      rw [hv c hc]
      rfl
    have hhead : ∀ cs, v.val ++ rest ≠ '"' :: cs := by
      intro cs hcs
      cases hval : v.val with
      | nil =>
        rw [hval, List.nil_append] at hcs
        exact h.head?_ne (c := '"') (by decide) (by rw [hcs]; rfl)
      | cons x xs =>
        rw [hval, List.cons_append] at hcs
        exact hq (by rw [hval, (List.cons.inj hcs).1]; rfl)
    rw [Piece.tail, List.cons_append, readValue.eq_2 _ hhead,
      takeWhile_append_of_head hpos hend, dropWhile_append_of_head hpos hend]
    rfl
  | quoted k v =>
    have hr : readQuoted (v.val ++ '"' :: rest) = some (v.val, rest) :=
      readQuoted_eq_some_iff.2 ⟨v.property, rfl⟩
    rw [show (Piece.quoted k v).tail ++ rest = '=' :: '"' :: (v.val ++ '"' :: rest) by
      simp [Piece.tail], readValue, hr]
    rfl

/-- What was read as a value is written behind a name as some parameter has it. -/
theorem exists_piece_of_readValue (key : Name) {cs v rest : List Char}
    (h : readValue cs = .ok (v, rest)) :
    ∃ p : Piece, p.key = key ∧ p.value = v ∧ cs = p.tail ++ rest := by
  unfold readValue at h
  split at h
  · next cs' =>
    cases hq : readQuoted cs' with
    | none => rw [hq] at h; cases h
    | some r =>
      rw [hq] at h
      cases h
      obtain ⟨hv, rfl⟩ := readQuoted_eq_some_iff.1 hq
      exact ⟨.quoted key ⟨v, hv⟩, rfl, rfl, by simp [Piece.tail]⟩
  · next cs' hne =>
    cases h
    refine ⟨.bare key ⟨cs'.takeWhile (!isSpacing ·), ?_, ?_⟩, rfl, rfl, ?_⟩
    · intro c hc
      simpa using List.all_eq_true.1 List.all_takeWhile c hc
    · intro hq
      cases cs' with
      | nil => simp at hq
      | cons c cs' =>
        have hc : c = '"' := by
          rw [List.takeWhile_cons] at hq
          split at hq
          · simpa using hq
          · simp at hq
        exact hne cs' (by rw [hc])
    · rw [Piece.tail, List.cons_append, List.takeWhile_append_dropWhile]
  · cases h
    exact ⟨.flag key, rfl, rfl, rfl⟩

/-! ## Parameters -/

section ReadParams

variable {acc : Params} {cs v rest : List Char}

theorem readParams_nil (acc : Params) : readParams acc [] = ⟨acc, [], none⟩ := by
  rw [readParams]
  rfl

/-- Without a name, nothing is read. -/
theorem readParams_of_noName (hcs : cs ≠ []) (hn : cs.takeWhile isNameChar = []) :
    readParams acc cs = ⟨acc, cs, some .noName⟩ := by
  rw [readParams, if_neg (by simp [hcs]), dif_pos hn]

/-- A value that is not closed ends the reading. -/
theorem readParams_of_error (hn : cs.takeWhile isNameChar ≠ [])
    (hv : readValue (cs.dropWhile isNameChar) = .error rest) :
    readParams acc cs = ⟨acc, rest, some .unterminated⟩ := by
  have hcs : cs ≠ [] := by
    rintro rfl
    exact hn rfl
  rw [readParams, if_neg (by simp [hcs]), dif_neg hn]
  split
  · next hv' => rw [hv, Except.error.injEq] at hv'; rw [hv']
  · next hv' => rw [hv] at hv'; cases hv'
  · next hv' => rw [hv] at hv'; cases hv'

/-- A parameter at the end of the line is the last one. -/
theorem readParams_of_ok_nil (hn : cs.takeWhile isNameChar ≠ [])
    (hv : readValue (cs.dropWhile isNameChar) = .ok (v, [])) :
    readParams acc cs
      = ⟨acc.insert (String.ofList (cs.takeWhile isNameChar)) (String.ofList v), [], none⟩ := by
  have hcs : cs ≠ [] := by
    rintro rfl
    exact hn rfl
  rw [readParams, if_neg (by simp [hcs]), dif_neg hn]
  split
  · next hv' => rw [hv] at hv'; cases hv'
  · next hv' => rw [hv] at hv'; cases hv'; rfl
  · next hv' => rw [hv] at hv'; cases hv'

/-- Behind a parameter reading goes on at a blank, and nowhere else. -/
theorem readParams_of_ok_cons {c : Char} (hn : cs.takeWhile isNameChar ≠ [])
    (hv : readValue (cs.dropWhile isNameChar) = .ok (v, c :: rest)) :
    readParams acc cs =
      if isSpacing c then
        readParams (acc.insert (String.ofList (cs.takeWhile isNameChar)) (String.ofList v))
          (rest.dropWhile isSpacing)
      else ⟨acc, c :: rest,
        some (.unseparated (.parameter (String.ofList (cs.takeWhile isNameChar))) c)⟩ := by
  have hcs : cs ≠ [] := by
    rintro rfl
    exact hn rfl
  rw [readParams, if_neg (by simp [hcs]), dif_neg hn]
  split
  · next hv' => rw [hv] at hv'; cases hv'
  · next hv' => rw [hv] at hv'; cases hv'
  · next hv' => rw [hv] at hv'; cases hv'; rfl

end ReadParams

/-- What is left when the blanks in front of parameters are gone. -/
theorem dropWhile_tailChars_nil (t : Blanks) :
    (Layout.tailChars [] t).dropWhile isSpacing = [] := by
  have h := dropWhile_append_of_head (b := []) t.property (by simp)
  rw [List.append_nil] at h
  exact h

theorem dropWhile_tailChars_append (g : Gap) (p : Piece) (ps : List (Gap × Piece)) (t : Blanks)
    (rest : List Char) : (Layout.tailChars ((g, p) :: ps) t ++ rest).dropWhile isSpacing
      = p.key.val ++ (p.tail ++ (Layout.tailChars ps t ++ rest)) := by
  obtain ⟨c, hc, hn⟩ := p.head?_chars (Layout.tailChars ps t ++ rest)
  have hstop : ∀ x, (p.chars ++ (Layout.tailChars ps t ++ rest)).head? = some x →
      isSpacing x = false := by
    intro x hx
    rw [hc, Option.some.injEq] at hx
    exact hx ▸ isSpacing_of_isNameChar hn
  rw [show Layout.tailChars ((g, p) :: ps) t ++ rest
      = g.val ++ (p.chars ++ (Layout.tailChars ps t ++ rest)) by simp [Layout.tailChars],
    dropWhile_append_of_head g.property.2 hstop, Piece.chars, List.append_assoc]

theorem dropWhile_tailChars_cons (g : Gap) (p : Piece) (ps : List (Gap × Piece)) (t : Blanks) :
    (Layout.tailChars ((g, p) :: ps) t).dropWhile isSpacing
      = p.key.val ++ (p.tail ++ Layout.tailChars ps t) := by
  have h := dropWhile_tailChars_append g p ps t []
  rwa [List.append_nil, List.append_nil] at h

/-- Only where no parameter is left there may be no text. -/
theorem eq_nil_of_tailChars_eq_nil {ps : List (Gap × Piece)} {t : Blanks}
    (h : Layout.tailChars ps t = []) : ps = [] := by
  cases ps with
  | nil => rfl
  | cons q ps =>
    obtain ⟨c, cs, hc⟩ := List.exists_cons_of_ne_nil q.1.property.1
    simp [Layout.tailChars, hc] at h

/-- Parameters are read as their names and values, whatever stands behind the blanks that follow
them. -/
theorem readParams_tailChars_append (ps : List (Gap × Piece)) (t : Blanks) {rest : List Char}
    (hgap : t.val = [] → rest = []) (hrest : ∀ c, rest.head? = some c → isSpacing c = false)
    (acc : Params) : readParams acc ((Layout.tailChars ps t ++ rest).dropWhile isSpacing)
      = readParams (acc.insertAll (ps.map fun p => p.2.pair)) rest := by
  induction ps generalizing acc with
  | nil =>
    rw [show Layout.tailChars [] t = t.val from rfl, dropWhile_append_of_head t.property hrest]
    rfl
  | cons q ps ih =>
    obtain ⟨g, p⟩ := q
    have hends := ends_tailChars_append ps t hgap
    have hstop := p.head?_tail_append hends
    have hkey := takeWhile_append_of_head p.key.isNameChar_of_mem hstop
    have hdrop := dropWhile_append_of_head p.key.isNameChar_of_mem hstop
    have hv := readValue_tail p hends
    rw [← hdrop] at hv
    have hn : (p.key.val ++ (p.tail ++ (Layout.tailChars ps t ++ rest))).takeWhile isNameChar
        ≠ [] := by
      rw [hkey]
      exact p.key.ne_nil
    rw [dropWhile_tailChars_append, List.map_cons, Assoc.insertAll_cons]
    cases htail : Layout.tailChars ps t ++ rest with
    | nil =>
      obtain ⟨hps, rfl⟩ := List.append_eq_nil_iff.1 htail
      rw [htail] at hv hn hkey
      rw [readParams_of_ok_nil hn hv, hkey, eq_nil_of_tailChars_eq_nil hps, List.map_nil,
        Assoc.insertAll_nil, readParams_nil]
      rfl
    | cons c tail =>
      have hc : isSpacing c = true := hends c (by rw [htail]; rfl)
      have hskip : tail.dropWhile isSpacing
          = (Layout.tailChars ps t ++ rest).dropWhile isSpacing := by
        rw [htail, List.dropWhile_cons_of_pos hc]
      rw [htail] at hv hn hkey
      rw [readParams_of_ok_cons hn hv, if_pos hc, hkey, hskip, ih]
      rfl

theorem readParams_tailChars (ps : List (Gap × Piece)) (t : Blanks) (acc : Params) :
    readParams acc ((Layout.tailChars ps t).dropWhile isSpacing)
      = ⟨acc.insertAll (ps.map fun p => p.2.pair), [], none⟩ := by
  have hend : ∀ c, ([] : List Char).head? = some c → isSpacing c = false := nofun
  have h := readParams_tailChars_append ps t (fun _ => rfl) hend acc
  rwa [List.append_nil, readParams_nil] at h

/-- What was read without a fault is the text of parameters, whatever blanks stand in front. -/
theorem exists_tail_of_readParams {acc : Params} {cs : List Char}
    (h : (readParams acc cs).fault = none) (g : Gap) :
    ∃ (ps : List (Gap × Piece)) (t : Blanks), g.val ++ cs = Layout.tailChars ps t ∧
      (readParams acc cs).params = acc.insertAll (ps.map fun p => p.2.pair) := by
  by_cases hcs : cs = []
  · subst hcs
    -- at the end of the line the gap is nothing but trailing blanks
    refine ⟨[], ⟨g.val, g.property.2⟩, by simp [Layout.tailChars], ?_⟩
    rw [readParams_nil]
    rfl
  by_cases hn : cs.takeWhile isNameChar = []
  · rw [readParams_of_noName hcs hn] at h
    cases h
  let key : Name := ⟨cs.takeWhile isNameChar, isName_takeWhile hn⟩
  cases hv : readValue (cs.dropWhile isNameChar) with
  | error rest =>
    rw [readParams_of_error hn hv] at h
    cases h
  | ok r =>
    obtain ⟨v, rest⟩ := r
    obtain ⟨p, hkey, hval, htail⟩ := exists_piece_of_readValue key hv
    have hchars : cs = p.chars ++ rest := by
      rw [Piece.chars, hkey, List.append_assoc, ← htail, List.takeWhile_append_dropWhile]
    have hpair : (String.ofList (cs.takeWhile isNameChar), String.ofList v) = p.pair := by
      rw [Piece.pair, hkey, hval]
    cases rest with
    | nil =>
      refine ⟨[(g, p)], ⟨[], by simp⟩, ?_, ?_⟩
      · rw [hchars]
        simp [Layout.tailChars]
      · rw [readParams_of_ok_nil hn hv, List.map_cons, ← hpair]
        rfl
    | cons c rest =>
      by_cases hc : isSpacing c = true
      · rw [readParams_of_ok_cons hn hv, if_pos hc] at h ⊢
        -- the blanks that are skipped here are the gap in front of the next parameter
        obtain ⟨next, hnext⟩ := exists_gap hc rest
        -- the recursion goes to what follows these blanks
        have hlt : (rest.dropWhile isSpacing).length < cs.length := by
          have hle := length_dropWhile_le isSpacing rest
          rw [hchars]
          simp only [List.length_append, List.length_cons]
          omega
        obtain ⟨ps, t, hps, hparams⟩ := exists_tail_of_readParams h next
        refine ⟨(g, p) :: ps, t, ?_, ?_⟩
        · rw [hchars, Layout.tailChars, List.flatMap_cons, List.append_assoc, List.append_assoc]
          rw [← Layout.tailChars, ← hps, hnext]
        · rw [hparams, List.map_cons, Assoc.insertAll_cons, ← hpair]
      · rw [readParams_of_ok_cons hn hv, if_neg hc] at h
        cases h
termination_by cs.length

/-! ## One layout for each line -/

/-- Two parameters that end where they may are written differently, if they differ. -/
theorem Piece.chars_inj {p q : Piece} {rest rest' : List Char} (h : Ends rest) (h' : Ends rest')
    (he : p.chars ++ rest = q.chars ++ rest') : p = q ∧ rest = rest' := by
  rw [chars, chars, List.append_assoc, List.append_assoc] at he
  obtain ⟨hkey, htail⟩ := append_inj_of_head p.key.isNameChar_of_mem (p.head?_tail_append h)
    q.key.isNameChar_of_mem (q.head?_tail_append h') he
  -- both are read from one text, so value and rest agree; how they are written is left to the cases
  have hread := readValue_tail p h
  rw [htail, readValue_tail q h', Except.ok.injEq, Prod.mk.injEq] at hread
  obtain ⟨hval, hrest⟩ := hread
  rw [hrest, List.append_cancel_right_eq] at htail
  refine ⟨?_, hrest.symm⟩
  have hkey : p.key = q.key := Subtype.ext hkey
  cases p with
  | flag k =>
    cases q with
    | flag k' => exact congrArg flag hkey
    | bare k' v' => cases htail
    | quoted k' v' => cases htail
  | bare k v =>
    cases q with
    | flag k' => cases htail
    | bare k' v' =>
      have hv : v = v' := Subtype.ext hval.symm
      rw [show k = k' from hkey, hv]
    -- a bare value does not begin with a quote
    | quoted k' v' =>
      have hq : v.val.head? = some '"' := by rw [(List.cons.inj htail).2]; rfl
      exact absurd hq v.property.2
  | quoted k v =>
    cases q with
    | flag k' => cases htail
    | bare k' v' =>
      have hq : v'.val.head? = some '"' := by rw [← (List.cons.inj htail).2]; rfl
      exact absurd hq v'.property.2
    | quoted k' v' =>
      have hv : v = v' := Subtype.ext hval.symm
      rw [show k = k' from hkey, hv]

/-- The text of parameters falls into parameters in one way only. -/
theorem tailChars_inj {ps qs : List (Gap × Piece)} {t u : Blanks}
    (h : Layout.tailChars ps t = Layout.tailChars qs u) : ps = qs ∧ t = u := by
  have hdrop := congrArg (List.dropWhile isSpacing) h
  cases ps with
  | nil =>
    cases qs with
    | nil => exact ⟨rfl, Subtype.ext (by simpa [Layout.tailChars] using h)⟩
    | cons q qs =>
      rw [dropWhile_tailChars_nil, dropWhile_tailChars_cons] at hdrop
      exact absurd (List.append_eq_nil_iff.1 hdrop.symm).1 q.2.key.ne_nil
  | cons p ps =>
    cases qs with
    | nil =>
      rw [dropWhile_tailChars_nil, dropWhile_tailChars_cons] at hdrop
      exact absurd (List.append_eq_nil_iff.1 hdrop).1 p.2.key.ne_nil
    | cons q qs =>
      obtain ⟨g, p⟩ := p
      obtain ⟨g', q⟩ := q
      rw [dropWhile_tailChars_cons, dropWhile_tailChars_cons, ← List.append_assoc,
        ← List.append_assoc] at hdrop
      obtain ⟨hp, hrest⟩ := Piece.chars_inj (p := p) (q := q) (ends_tailChars ps t)
        (ends_tailChars qs u) hdrop
      obtain ⟨hps, ht⟩ := tailChars_inj hrest
      -- all behind the gaps is the same, so the gaps are
      have hg : g.val = g'.val := by
        subst hp hps ht
        simpa [Layout.tailChars] using h
      rw [hp, hps, ht, Subtype.ext hg]
      exact ⟨rfl, rfl⟩

/-- No line has two layouts. -/
theorem Layout.chars_injective : Function.Injective Layout.chars := by
  intro l l' h
  obtain ⟨hname, htail⟩ := append_inj_of_head l.name.isNameChar_of_mem
    (ends_tailChars l.params l.trailing).isNameChar_eq_false l'.name.isNameChar_of_mem
    (ends_tailChars l'.params l'.trailing).isNameChar_eq_false h
  obtain ⟨hps, ht⟩ := tailChars_inj htail
  cases l
  cases l'
  simp only [Layout.mk.injEq]
  exact ⟨Subtype.ext hname, hps, ht⟩

/-! ## Lines -/

/-- A line that begins with a name goes on with parameters behind the blanks that follow. -/
theorem parse_of_ends (name : Name) {rest : List Char} (hrest : Ends rest) {line : String}
    (h : line.toList = name.val ++ rest) :
    parse line = ⟨some (String.ofList name.val), (readParams ∅ (rest.dropWhile isSpacing)).params,
      line.toList.length - (readParams ∅ (rest.dropWhile isSpacing)).rest.length,
      (readParams ∅ (rest.dropWhile isSpacing)).fault⟩ := by
  have hname := takeWhile_append_of_head name.isNameChar_of_mem hrest.isNameChar_eq_false
  have hdrop := dropWhile_append_of_head name.isNameChar_of_mem hrest.isNameChar_eq_false
  rw [← h] at hname hdrop
  simp only [parse, hname, hdrop]
  rw [if_neg (by simp [name.ne_nil])]
  cases rest with
  | nil =>
    rw [List.dropWhile_nil, readParams_nil]
    rfl
  | cons c rest =>
    have hc : isSpacing c = true := hrest c rfl
    simp only [hc, if_true, List.dropWhile_cons_of_pos]

/-- A line is read as its layout says. -/
theorem parse_of_layout (l : Layout) {line : String} (h : l.chars = line.toList) :
    parse line = ⟨some (String.ofList l.name.val), Assoc.ofList l.pairs, line.toList.length,
      none⟩ := by
  rw [parse_of_ends l.name (ends_tailChars l.params l.trailing) h.symm, readParams_tailChars]
  rfl

/-- A line that is read without a fault has a layout that says what was read. -/
theorem exists_layout_of_isValid {line : String} (h : (parse line).isValid = true) :
    ∃ l : Layout, l.chars = line.toList ∧
      (parse line).command = some (String.ofList l.name.val) ∧
      (parse line).params = Assoc.ofList l.pairs := by
  have hfault : (parse line).fault = none := Option.isNone_iff_eq_none.1 h
  by_cases hn : line.toList.takeWhile isNameChar = []
  · simp [parse, hn] at hfault
  let name : Name := ⟨line.toList.takeWhile isNameChar, isName_takeWhile hn⟩
  have hsplit : line.toList = name.val ++ line.toList.dropWhile isNameChar :=
    List.takeWhile_append_dropWhile.symm
  cases hrest : line.toList.dropWhile isNameChar with
  | nil =>
    refine ⟨⟨name, [], ⟨[], by simp⟩⟩, ?_, ?_, ?_⟩
    · rw [hsplit, hrest]
      rfl
    · simp [parse, hn, hrest, name]
    · simp [parse, hn, hrest, Layout.pairs, Assoc.ofList]
      rfl
  | cons c rest =>
    by_cases hc : isSpacing c = true
    · have hparse : parse line = ⟨some (String.ofList name.val),
          (readParams ∅ (rest.dropWhile isSpacing)).params,
          line.toList.length - (readParams ∅ (rest.dropWhile isSpacing)).rest.length,
          (readParams ∅ (rest.dropWhile isSpacing)).fault⟩ := by
        simp [parse, hn, hrest, hc, name]
      rw [hparse] at hfault ⊢
      obtain ⟨gap, hgap⟩ := exists_gap hc rest
      obtain ⟨ps, t, hps, hparams⟩ := exists_tail_of_readParams hfault gap
      refine ⟨⟨name, ps, t⟩, ?_, rfl, hparams⟩
      rw [Layout.chars, ← hps, hgap, hsplit, hrest]
    · simp [parse, hn, hrest, hc] at hfault

/-- The parameters of a line that is read without a fault have names. -/
theorem isName_of_mem_params {line n : String} (h : (parse line).isValid = true)
    (hn : n ∈ (parse line).params.keys) : isName n.toList = true := by
  obtain ⟨l, -, -, hparams⟩ := exists_layout_of_isValid h
  rw [hparams, Assoc.mem_keys_ofList, Layout.pairs, List.map_map] at hn
  obtain ⟨q, -, rfl⟩ := List.mem_map.1 hn
  simpa [Piece.pair] using q.2.key.property

/-- **A line is read as a command with parameters exactly when it has a layout that says so**, and
it has one layout at most. A parameter that is given twice keeps its first place and its last
value. -/
theorem parse_eq_iff_layout (line command : String) (params : Params) :
    ((parse line).isValid = true ∧ (parse line).command = some command ∧
        (parse line).params = params ↔
      ∃ l : Layout, l.chars = line.toList ∧ String.ofList l.name.val = command ∧
        Assoc.ofList l.pairs = params) ∧
    {l : Layout | l.chars = line.toList}.Subsingleton := by
  refine ⟨⟨?_, ?_⟩, ?_⟩
  · rintro ⟨hvalid, hcommand, hparams⟩
    obtain ⟨l, hl, hname, hpairs⟩ := exists_layout_of_isValid hvalid
    rw [hname, Option.some.injEq] at hcommand
    exact ⟨l, hl, hcommand, hpairs ▸ hparams⟩
  · rintro ⟨l, hl, rfl, rfl⟩
    rw [parse_of_layout l hl]
    exact ⟨rfl, rfl, rfl⟩
  · intro l hl l' hl'
    exact Layout.chars_injective (hl.trans hl'.symm)

end LineShell.Line
