import LineShell.Yaml.Writing

/-!
# The characters of a written document

Whatever a value holds, the document that describes it has line feeds and printable ASCII only
(`isOrdinary_of_mem_writeDocument`): a style that writes characters as they are is chosen only for
texts without others, and between double quotes all others are escaped. So a written document can be
put into a file and read again without a character being changed or refused on the way.

Every operation of the pen keeps what it has written ordinary, if what it adds is (`Pen.Ordinary`).
-/

namespace LineShell.Yaml

/-- Whether all characters of a text are ordinary. -/
def AllOrdinary (cs : List Char) : Prop := ∀ c ∈ cs, isOrdinary c = true

@[simp] theorem allOrdinary_nil : AllOrdinary [] := fun _ h => absurd h List.not_mem_nil

@[simp] theorem allOrdinary_cons {c : Char} {cs : List Char} :
    AllOrdinary (c :: cs) ↔ isOrdinary c = true ∧ AllOrdinary cs := List.forall_mem_cons

@[simp] theorem allOrdinary_append {as bs : List Char} :
    AllOrdinary (as ++ bs) ↔ AllOrdinary as ∧ AllOrdinary bs := List.forall_mem_append

theorem allOrdinary_replicate (n : Nat) {c : Char} (h : isOrdinary c = true) :
    AllOrdinary (List.replicate n c) := by
  intro x hx
  rw [List.eq_of_mem_replicate hx]
  exact h

theorem isOrdinary_of_isDigit {c : Char} (h : c.isDigit = true) : isOrdinary c = true := by
  have hc : 0x30 ≤ c.toNat ∧ c.toNat ≤ 0x39 := by
    simpa [Char.isDigit, UInt32.le_iff_toNat_le] using h
  simp only [isOrdinary, Bool.or_eq_true, Bool.and_eq_true, decide_eq_true_eq]
  omega

theorem allOrdinary_toDigits (n : Nat) : AllOrdinary (Nat.toDigits 10 n) := fun _ h =>
  isOrdinary_of_isDigit (Nat.isDigit_of_mem_toDigits (by decide) (by decide) h)

/-! ## The pen -/

/-- Whether everything that a pen has written is ordinary. -/
def Pen.Ordinary (p : Pen) : Prop := AllOrdinary p.written

namespace Pen

variable {p : Pen} {cs text : List Char}

theorem ordinary_write (h : p.Ordinary) (hc : AllOrdinary cs) : (p.write cs).Ordinary := by
  intro x hx
  rw [write, List.reverseAux_eq, List.mem_append, List.mem_reverse] at hx
  exact hx.elim (hc x) (h x)

theorem ordinary_newline (h : p.Ordinary) {b : Char} (hb : isOrdinary b = true) :
    (p.newline b).Ordinary := allOrdinary_cons.2 ⟨hb, h⟩

theorem ordinary_newlines (h : p.Ordinary) (hc : AllOrdinary cs) :
    (cs.foldl newline p).Ordinary := by
  induction cs generalizing p with
  | nil => exact h
  | cons c cs ih =>
    obtain ⟨hc, hcs⟩ := allOrdinary_cons.1 hc
    exact ih (ordinary_newline h hc) hcs

theorem ordinary_toIndent (h : p.Ordinary) (indent : Nat) : (p.toIndent indent).Ordinary := by
  have hq : (if !p.indenting || indent < p.column || (p.column == indent && !p.blank)
      then p.newline '\n' else p).Ordinary := by
    split
    · exact ordinary_newline h rfl
    · exact h
  rw [toIndent]
  generalize (if !p.indenting || indent < p.column || (p.column == indent && !p.blank)
      then p.newline '\n' else p) = q at hq
  dsimp only
  split
  · exact ordinary_write hq (allOrdinary_replicate _ (by decide))
  · exact hq

theorem ordinary_mark (h : p.Ordinary) (hc : AllOrdinary cs) (spaced blank indenting : Bool) :
    (p.mark cs spaced blank indenting).Ordinary := by
  refine ordinary_write h ?_
  split
  · exact hc
  · exact allOrdinary_cons.2 ⟨rfl, hc⟩

theorem ordinary_inText (h : p.Ordinary) : p.inText.Ordinary := h

theorem ordinary_writeBreaks (h : p.Ordinary) (indent : Nat) (hc : AllOrdinary cs) :
    (p.writeBreaks indent cs).Ordinary := by
  refine ordinary_toIndent (ordinary_newlines ?_ hc) indent
  split
  · exact ordinary_newline h rfl
  · exact h

end Pen

/-! ## Pieces -/

/-- The characters of a piece. -/
def Piece.chars : Piece → List Char
  | .spaces n => List.replicate n ' '
  | .breaks cs => cs
  | .run cs => cs

/-- The pieces of a text put together give the text back. -/
theorem flatMap_chars_pieces (text : List Char) : (pieces text).flatMap Piece.chars = text := by
  induction text with
  | nil => rfl
  | cons c rest ih =>
    rw [pieces]
    split
    · next hc =>
      obtain rfl : c = ' ' := eq_of_beq hc
      split
      · next n ps hps =>
        rw [← ih, hps]
        rfl
      · rw [List.flatMap_cons, ih]
        rfl
    · split
      · split
        · next cs ps hps =>
          rw [← ih, hps]
          rfl
        · rw [List.flatMap_cons, ih]
          rfl
      · split
        · next cs ps hps =>
          rw [← ih, hps]
          rfl
        · rw [List.flatMap_cons, ih]
          rfl

/-- The pieces of an ordinary text are ordinary. -/
theorem allOrdinary_chars_of_mem_pieces {text : List Char} (h : AllOrdinary text) :
    ∀ x ∈ pieces text, AllOrdinary x.chars := by
  intro x hx c hc
  rw [← flatMap_chars_pieces text] at h
  exact h c (List.mem_flatMap.2 ⟨x, hx, hc⟩)

namespace Pen

variable {p : Pen} {cs text : List Char} {ps : List Piece}

theorem ordinary_singlePieces (indent : Nat) (split first : Bool) (h : p.Ordinary)
    (hps : ∀ x ∈ ps, AllOrdinary x.chars) : (singlePieces indent split first p ps).Ordinary := by
  induction ps generalizing p first with
  | nil => exact h
  | cons x ps ih =>
    obtain ⟨hx, hrest⟩ := List.forall_mem_cons.1 hps
    cases x with
    | spaces n =>
      refine ih false ?_ hrest
      split
      · exact ordinary_toIndent h indent
      · exact ordinary_write h hx
    | breaks cs => exact ih false (ordinary_writeBreaks h indent hx) hrest
    | run cs =>
      refine ih false (ordinary_write h ?_) hrest
      intro c hc
      obtain ⟨d, hd, hc⟩ := List.mem_flatMap.1 hc
      split at hc
      · simp only [List.mem_cons, List.not_mem_nil, or_false, or_self] at hc
        rw [hc]
        rfl
      · rw [List.mem_singleton.1 hc]
        exact hx d hd

theorem ordinary_plainPieces (indent : Nat) (split : Bool) (h : p.Ordinary)
    (hps : ∀ x ∈ ps, AllOrdinary x.chars) : (plainPieces indent split p ps).Ordinary := by
  induction ps generalizing p with
  | nil => exact h
  | cons x ps ih =>
    obtain ⟨hx, hrest⟩ := List.forall_mem_cons.1 hps
    cases x with
    | spaces n =>
      refine ih ?_ hrest
      split
      · exact ordinary_inText (ordinary_toIndent h indent)
      · exact ordinary_write h hx
    | breaks cs => exact ih (ordinary_writeBreaks h indent hx) hrest
    | run cs => exact ih (ordinary_write h hx) hrest

theorem ordinary_blockLines (indent : Nat) (h : p.Ordinary)
    (hps : ∀ x ∈ ps, AllOrdinary x.chars) : (blockLines indent p ps).Ordinary := by
  have start (q : Pen) (hq : q.Ordinary) :
      (if q.column == 0 then q.toIndent indent else q).Ordinary := by
    split
    · exact ordinary_toIndent hq indent
    · exact hq
  induction ps generalizing p with
  | nil => exact h
  | cons x ps ih =>
    obtain ⟨hx, hrest⟩ := List.forall_mem_cons.1 hps
    cases x with
    | spaces n => exact ih (allOrdinary_append.2 ⟨hx, start p h⟩) hrest
    | breaks cs => exact ih (ordinary_newlines h hx) hrest
    | run cs => exact ih (ordinary_write (start p h) hx) hrest

theorem allOrdinary_upperHex (digits n : Nat) : AllOrdinary (upperHex digits n) := by
  induction digits generalizing n with
  | zero => exact allOrdinary_nil
  | succ d ih =>
    refine allOrdinary_append.2 ⟨ih _, allOrdinary_cons.2 ⟨?_, allOrdinary_nil⟩⟩
    have hall : ∀ k < 16,
        isOrdinary (Char.ofNat (if k < 10 then 0x30 + k else 0x37 + k)) = true := by decide
    exact hall (n % 16) (Nat.mod_lt n (by decide))

/-- What is not escaped is ordinary, and so is every escape. -/
theorem allOrdinary_escape (c : Char) : AllOrdinary ((escape? c).getD [c]) := by
  unfold escape?
  dsimp only
  split
  · next hc =>
    simp only [Bool.and_eq_true, decide_eq_true_eq] at hc
    have ho : isOrdinary c = true := by
      simp only [isOrdinary, Bool.or_eq_true, Bool.and_eq_true, decide_eq_true_eq]
      exact .inr ⟨hc.1.2, hc.2⟩
    exact allOrdinary_cons.2 ⟨ho, allOrdinary_nil⟩
  · split
    · next l hl =>
      obtain ⟨before, after, hlist, _⟩ := List.lookup_eq_some_iff.1 hl
      have hmem : (c.toNat, l) ∈ escapeLetters := by
        rw [hlist]
        exact List.mem_append_right _ List.mem_cons_self
      have hall : ∀ x ∈ escapeLetters, isOrdinary x.2 = true := by decide
      exact allOrdinary_cons.2 ⟨rfl, allOrdinary_cons.2 ⟨hall _ hmem, allOrdinary_nil⟩⟩
    · split
      · exact allOrdinary_cons.2 ⟨rfl, allOrdinary_cons.2 ⟨rfl, allOrdinary_upperHex _ _⟩⟩
      · split
        · exact allOrdinary_cons.2 ⟨rfl, allOrdinary_cons.2 ⟨rfl, allOrdinary_upperHex _ _⟩⟩
        · exact allOrdinary_cons.2 ⟨rfl, allOrdinary_cons.2 ⟨rfl, allOrdinary_upperHex _ _⟩⟩

theorem ordinary_foldDouble (h : p.Ordinary) (indent : Nat) (following : Option Char) :
    (p.foldDouble indent following).Ordinary := by
  have hslash : AllOrdinary ['\\'] := allOrdinary_cons.2 ⟨rfl, allOrdinary_nil⟩
  have hq : ((p.write ['\\']).toIndent indent).inText.Ordinary :=
    ordinary_inText (ordinary_toIndent (ordinary_write h hslash) indent)
  unfold foldDouble
  dsimp only
  split
  · exact ordinary_write hq hslash
  · exact hq

theorem ordinary_doubleRest (indent : Nat) (split inner : Bool) {held : List Char}
    (h : p.Ordinary) (hh : AllOrdinary held) (text : List Char) :
    (doubleRest indent split inner held p text).Ordinary := by
  have hrev {held : List Char} (hh : AllOrdinary held) : AllOrdinary held.reverse := fun x hx =>
    hh x (List.mem_reverse.1 hx)
  induction text generalizing p inner held with
  | nil => exact ordinary_write h (hrev hh)
  | cons c rest ih =>
    have hc := allOrdinary_escape c
    have hw := ordinary_write h (hrev hh)
    unfold doubleRest
    dsimp only
    split
    · next e he =>
      rw [he] at hc
      refine ih true ?_ allOrdinary_nil
      split
      · exact ordinary_foldDouble (ordinary_write hw hc) indent _
      · exact ordinary_write hw hc
    · next he =>
      rw [he] at hc
      split
      · exact ih true (ordinary_foldDouble hw indent _) hc
      · exact ih true h (allOrdinary_append.2 ⟨hc, hh⟩)

/-! ## Scalars -/

theorem ordinary_single (h : p.Ordinary) (indent : Nat) (split : Bool) (ht : AllOrdinary text) :
    (p.single indent split text).Ordinary := by
  have hq : AllOrdinary ['\''] := allOrdinary_cons.2 ⟨rfl, allOrdinary_nil⟩
  exact ordinary_mark (ordinary_singlePieces indent split true (ordinary_mark h hq _ _ _)
    (allOrdinary_chars_of_mem_pieces ht)) hq _ _ _

theorem ordinary_plain (h : p.Ordinary) (indent : Nat) (split : Bool) (ht : AllOrdinary text) :
    (p.plain indent split text).Ordinary := by
  have hs : AllOrdinary [' '] := allOrdinary_cons.2 ⟨rfl, allOrdinary_nil⟩
  unfold plain
  split
  · exact h
  · refine ordinary_plainPieces indent _ (ordinary_inText ?_) (allOrdinary_chars_of_mem_pieces ht)
    split
    · exact h
    · exact ordinary_write h hs

theorem ordinary_double (h : p.Ordinary) (indent : Nat) (split : Bool) :
    (p.double indent split text).Ordinary := by
  have hq : AllOrdinary ['"'] := allOrdinary_cons.2 ⟨rfl, allOrdinary_nil⟩
  exact ordinary_mark (ordinary_doubleRest indent split false (ordinary_mark h hq _ _ _)
    allOrdinary_nil text) hq _ _ _

theorem allOrdinary_blockHints (text : List Char) : AllOrdinary (blockHints text) := by
  have hone {c : Char} (h : isOrdinary c = true) : AllOrdinary [c] :=
    allOrdinary_cons.2 ⟨h, allOrdinary_nil⟩
  refine allOrdinary_append.2 ⟨?_, ?_⟩
  · split
    · split
      · exact allOrdinary_toDigits _
      · exact allOrdinary_nil
    · exact allOrdinary_nil
  · split
    · exact allOrdinary_nil
    · split
      · exact hone rfl
      · exact hone rfl
    · split
      · exact hone rfl
      · split
        · exact hone rfl
        · exact allOrdinary_nil

theorem ordinary_literal (h : p.Ordinary) (indent : Nat) (ht : AllOrdinary text) :
    (p.literal indent text).Ordinary := by
  have hhints := allOrdinary_cons.2 ⟨(rfl : isOrdinary '|' = true), allOrdinary_blockHints text⟩
  have hr := ordinary_blockLines indent
    (ordinary_newline (ordinary_mark h hhints true false false) (b := '\n') rfl)
    (allOrdinary_chars_of_mem_pieces ht)
  unfold literal
  dsimp only
  split
  · split
    · exact hr
    · exact ordinary_newline hr rfl
  · exact hr

/-- A style that writes characters as they are is chosen for ordinary texts only. -/
theorem allOrdinary_of_choose {isPlain isBlock key : Bool}
    (h : Style.choose text isPlain isBlock key ≠ .double) : AllOrdinary text := by
  suffices hs : text.any (!isOrdinary ·) = false by
    intro c hc
    simpa using List.any_eq_false.1 hs c hc
  cases hs : text.any (!isOrdinary ·) with
  | false => rfl
  | true => exact absurd (by simp [Style.choose, Analysis.of, hs]) h

/-- A scalar is written in ordinary characters. -/
theorem ordinary_scalar (h : p.Ordinary) (indent : Nat) (split isPlain isBlock key : Bool) :
    (p.scalar indent split (Style.choose text isPlain isBlock key) text).Ordinary := by
  have ht := @allOrdinary_of_choose text isPlain isBlock key
  cases hs : Style.choose text isPlain isBlock key with
  | plain => exact ordinary_plain h indent split (ht (by rw [hs]; decide))
  | single => exact ordinary_single h indent split (ht (by rw [hs]; decide))
  | double => exact ordinary_double h indent split
  | literal => exact ordinary_literal h indent (ht (by rw [hs]; decide))

end Pen

/-! ## Nodes -/

theorem allOrdinary_nameText (k : Nat) : AllOrdinary (nameText k) := by
  have hid : ∀ c ∈ "id".toList, isOrdinary c = true := List.all_eq_true.1 (by decide)
  refine allOrdinary_append.2 ⟨hid, ?_⟩
  rw [Date.padded, String.toList_ofList]
  exact allOrdinary_append.2 ⟨allOrdinary_replicate _ rfl, allOrdinary_toDigits _⟩

theorem allOrdinary_nameOf {names : List Nat} {v : Value} {n : List Char}
    (h : nameOf? names v = some n) : AllOrdinary n := by
  obtain ⟨l, _, h⟩ := Option.bind_eq_some_iff.1 h
  obtain ⟨k, _, rfl⟩ := Option.map_eq_some_iff.1 h
  exact allOrdinary_nameText k

/-- A tag that has a name is written in ordinary characters. -/
theorem allOrdinary_tagText {t : Tag} (h : ∀ name, t ≠ .other name) : AllOrdinary (tagText t) := by
  have hall : ∀ c ∈ (Tag.known.map Prod.snd).flatMap tagText, isOrdinary c = true :=
    List.all_eq_true.1 (by decide)
  intro c hc
  refine hall c (List.mem_flatMap.2 ⟨t, ?_, hc⟩)
  cases t with
  | other name => exact absurd rfl (h name)
  | _ => decide

/-- The tag of a scalar has a name. -/
theorem tag_of_scalarForm {v : Value} {f : ScalarForm} (h : scalarForm? v = some f)
    (name : List Char) : f.tag ≠ .other name := by
  unfold scalarForm? at h
  split at h
  all_goals first | (obtain rfl := Option.some.inj h; exact Tag.noConfusion) | cases h

namespace Sheet

variable {s : Sheet}

theorem ordinary_begin (h : s.pen.Ordinary) (names : List Nat) (v : Value) :
    (s.begin names v).pen.Ordinary := by
  unfold begin
  dsimp only
  split
  · next n hn => exact Pen.ordinary_mark h (allOrdinary_cons.2 ⟨rfl, allOrdinary_nameOf hn⟩) _ _ _
  · exact h

theorem ordinary_tag (h : s.pen.Ordinary) {t : Tag} (ht : AllOrdinary (tagText t)) :
    (s.tag t).pen.Ordinary := Pen.ordinary_mark h ht _ _ _

theorem ordinary_brackets (h : s.pen.Ordinary) {left right : Char} (hl : isOrdinary left = true)
    (hr : isOrdinary right = true) : (s.brackets left right).pen.Ordinary :=
  Pen.ordinary_mark (Pen.ordinary_mark h (allOrdinary_cons.2 ⟨hl, allOrdinary_nil⟩) _ _ _)
    (allOrdinary_cons.2 ⟨hr, allOrdinary_nil⟩) _ _ _

theorem ordinary_dash (h : s.pen.Ordinary) (indent : Nat) : (s.dash indent).pen.Ordinary :=
  Pen.ordinary_mark (Pen.ordinary_toIndent h indent)
    (allOrdinary_cons.2 ⟨rfl, allOrdinary_nil⟩) _ _ _

theorem ordinary_scalar (h : s.pen.Ordinary) (c : Context) {f : ScalarForm}
    (hf : AllOrdinary (tagText f.tag)) : (s.scalar c f).pen.Ordinary := by
  refine Pen.ordinary_scalar ?_ _ _ _ _ _
  have hif (clear : Bool) : (if clear then s else s.tag f.tag).pen.Ordinary := by
    split
    · exact h
    · exact ordinary_tag h hf
  exact hif _

end Sheet

variable {s : Sheet}

/-- A key is written in ordinary characters, if `write` writes it so. -/
theorem ordinary_writeKey (h : s.pen.Ordinary) (names : List Nat) (indent : Nat) (k : Value)
    {write : Context → Sheet → Sheet}
    (hw : ∀ c s, s.pen.Ordinary → (write c s).pen.Ordinary) :
    (writeKey names indent s k write).pen.Ordinary := by
  have hone {c : Char} (h : isOrdinary c = true) : AllOrdinary [c] :=
    allOrdinary_cons.2 ⟨h, allOrdinary_nil⟩
  have hpen := Pen.ordinary_toIndent h indent
  unfold writeKey
  dsimp only
  split
  · exact Pen.ordinary_mark (hw _ _ hpen) (hone rfl) _ _ _
  · refine Pen.ordinary_mark (Pen.ordinary_toIndent (hw _ _ ?_) indent) (hone rfl) _ _ _
    exact Pen.ordinary_mark hpen (hone rfl) _ _ _

mutual

/-- A value is written in ordinary characters. -/
theorem ordinary_writeNode (names : List Nat) (c : Context) (s : Sheet) (h : s.pen.Ordinary)
    (v : Value) : (writeNode names c s v).pen.Ordinary := by
  have hbegin := Sheet.ordinary_begin h names v
  unfold writeNode
  split
  · refine Pen.ordinary_mark h (allOrdinary_cons.2 ⟨rfl, ?_⟩) _ _ _
    cases hn : nameOf? names v with
    | none => exact allOrdinary_nil
    | some n => exact allOrdinary_nameOf hn
  · generalize s.begin names v = t at hbegin
    have hscalar {f : ScalarForm} (hf : scalarForm? v = some f) : (t.scalar c f).pen.Ordinary :=
      Sheet.ordinary_scalar hbegin c (allOrdinary_tagText (tag_of_scalarForm hf))
    cases v with
    | list l items =>
      dsimp only
      split
      · exact Sheet.ordinary_brackets hbegin rfl rfl
      · exact ordinary_writeItems names _ t hbegin items
    | tuple l items =>
      have htuple : ∀ c ∈ tagText tupleTag, isOrdinary c = true := List.all_eq_true.1 (by decide)
      have htag := Sheet.ordinary_tag hbegin htuple
      dsimp only
      split
      · exact Sheet.ordinary_brackets htag rfl rfl
      · exact ordinary_writeItems names _ _ htag items
    | set l items =>
      have htag :=
        Sheet.ordinary_tag hbegin (allOrdinary_tagText (t := .set) fun _ => Tag.noConfusion)
      dsimp only
      split
      · exact Sheet.ordinary_brackets htag rfl rfl
      · exact ordinary_writeMembers names _ _ htag items
    | map l entries =>
      dsimp only
      split
      · exact Sheet.ordinary_brackets hbegin rfl rfl
      · exact ordinary_writeEntries names _ t hbegin entries
    | again => exact hbegin
    | null | bool | int | float | nan | str | bytes | date | stamp => exact hscalar rfl

/-- The items of a sequence are written in ordinary characters. -/
theorem ordinary_writeItems (names : List Nat) (indent : Nat) (s : Sheet) (h : s.pen.Ordinary) :
    (items : List Value) → (writeItems names indent s items).pen.Ordinary
  | [] => h
  | v :: vs =>
    ordinary_writeItems names indent _
      (ordinary_writeNode names _ _ (Sheet.ordinary_dash h indent) v) vs

/-- The members of a set are written in ordinary characters. -/
theorem ordinary_writeMembers (names : List Nat) (indent : Nat) (s : Sheet) (h : s.pen.Ordinary) :
    (items : List Value) → (writeMembers names indent s items).pen.Ordinary
  | [] => h
  | v :: vs => by
    have hkey := ordinary_writeKey h names indent v fun c s hs => ordinary_writeNode names c s hs v
    have hnull : AllOrdinary (tagText .null) := allOrdinary_tagText fun _ => Tag.noConfusion
    exact ordinary_writeMembers names indent _ (Sheet.ordinary_scalar hkey _ hnull) vs

/-- The entries of a mapping are written in ordinary characters. -/
theorem ordinary_writeEntries (names : List Nat) (indent : Nat) (s : Sheet) (h : s.pen.Ordinary) :
    (entries : List (Value × Value)) → (writeEntries names indent s entries).pen.Ordinary
  | [] => h
  | (k, v) :: rest => by
    have hkey := ordinary_writeKey h names indent k fun c s hs => ordinary_writeNode names c s hs k
    exact ordinary_writeEntries names indent _ (ordinary_writeNode names _ _ hkey v) rest

end

/-- **A written document has ordinary characters only.** -/
theorem isOrdinary_of_mem_writeDocument (v : Value) :
    ∀ c ∈ writeDocument v, isOrdinary c = true := by
  intro c hc
  have h := ordinary_writeNode (namesOf v) ⟨none, false, false⟩ {} allOrdinary_nil v
  exact Pen.ordinary_toIndent h 0 c (List.mem_reverse.1 hc)

end LineShell.Yaml
