import LineShell.Yaml.Token

/-!
# The faults of reading tokens

Tokens are read by many small readers, and each of them gives up for one of three reasons: the text
is not well formed, an escape names no character, or a version has too many digits
(`Fault.isLexical`). There is one statement for each reader, that a fault of its own is such a one;
a reader that calls others takes over their statements. Reading all tokens of a source adds but the
flaw that the source came with (`fault_ofSource`).
-/

namespace LineShell.Yaml

/-- The faults that lie in the characters of a text. -/
def Fault.isLexical : Fault → Bool
  | malformed | codePoint _ | digits _ => true
  | _ => false

variable {α β : Type} {c : Cursor} {s : Stop}

/-! ## Giving up -/

@[grind →]
theorem isLexical_of_stop {f : Fault} {n : Nat} (h : (c.stop f n : Except Stop α) = .error s)
    (hf : f.isLexical = true) : s.fault.isLexical = true := by
  cases h
  exact hf

@[grind →]
theorem isLexical_of_fail {n : Nat} (h : (c.fail n : Except Stop α) = .error s) :
    s.fault.isLexical = true :=
  isLexical_of_stop h rfl

theorem map_eq_ok_iff {ε : Type} {r : Except ε α} {f : α → β} {b : β} :
    r.map f = .ok b ↔ ∃ a, r = .ok a ∧ f a = b := by
  cases r <;> simp [Except.map]

@[grind =]
theorem map_eq_error_iff {ε : Type} {r : Except ε α} {f : α → β} {e : ε} :
    r.map f = .error e ↔ r = .error e := by
  cases r with
  | ok a => exact ⟨nofun, nofun⟩
  | error d =>
    constructor
    · rintro ⟨⟩
      rfl
    · rintro ⟨⟩
      rfl

/-! ## Readers -/

theorem isLexical_of_ite {p : Prop} [Decidable p] {a b : Except Stop α}
    (h : (if p then a else b) = .error s) (ha : a = .error s → s.fault.isLexical = true)
    (hb : b = .error s → s.fault.isLexical = true) : s.fault.isLexical = true := by
  split at h
  · exact ha h
  · exact hb h

@[grind →]
theorem isLexical_of_readBreaks (h : readBreaks c = .error s) : s.fault.isLexical = true := by
  fun_induction readBreaks c <;> grind

@[grind →]
theorem isLexical_of_readNumericEscape (h : readNumericEscape c = .error s) :
    s.fault.isLexical = true := by
  grind [readNumericEscape, Fault.isLexical]

@[grind →]
theorem isLexical_of_readEscape (h : readEscape c = .error s) : s.fault.isLexical = true := by
  grind [readEscape]

@[grind →]
theorem isLexical_of_readWhite (h : readWhite c = .error s) : s.fault.isLexical = true := by
  grind [readWhite]

@[grind →]
theorem isLexical_of_readPiece {double : Bool} (h : readPiece double c = .error s) :
    s.fault.isLexical = true := by
  grind [readPiece]

@[grind →]
theorem isLexical_of_readPieces {double : Bool} (h : readPieces double c = .error s) :
    s.fault.isLexical = true := by
  fun_induction readPieces double c <;> grind

@[grind →]
theorem isLexical_of_readHeader (h : readHeader c = .error s) : s.fault.isLexical = true := by
  grind [readHeader]

@[grind →]
theorem isLexical_of_readBlock {folded : Bool} {indent : Int}
    (h : readBlock folded indent c = .error s) : s.fault.isLexical = true := by
  unfold readBlock at h
  split at h
  · next hheader =>
    cases h
    exact isLexical_of_readHeader hheader
  · cases h

@[grind →]
theorem isLexical_of_readTagText (h : readTagText c = .error s) : s.fault.isLexical = true := by
  grind [readTagText]

@[grind →]
theorem isLexical_of_readHandle (h : readHandle c = .error s) : s.fault.isLexical = true := by
  grind [readHandle]

@[grind →]
theorem isLexical_of_readTag (h : readTag c = .error s) : s.fault.isLexical = true := by
  grind [readTag]

@[grind →]
theorem isLexical_of_readAnchor (h : readAnchor c = .error s) : s.fault.isLexical = true := by
  exact isLexical_of_ite h isLexical_of_fail nofun

@[grind →]
theorem isLexical_of_readNumber (h : readNumber c = .error s) : s.fault.isLexical = true := by
  grind [readNumber, Fault.isLexical]

@[grind →]
theorem isLexical_of_readDirectiveValue {name : List Char}
    (h : readDirectiveValue name c = .error s) : s.fault.isLexical = true := by
  grind [readDirectiveValue]

@[grind →]
theorem isLexical_of_readDirective (h : readDirective c = .error s) : s.fault.isLexical = true := by
  grind [readDirective]

/-! ## The lexer -/

namespace Lexer

variable {l : Lexer}

@[grind →]
theorem isLexical_of_dropStale (h : l.dropStale = .error s) : s.fault.isLexical = true := by
  grind [dropStale, Lexer.fail]

@[grind →]
theorem isLexical_of_dropPlace (h : l.dropPlace = .error s) : s.fault.isLexical = true := by
  grind [dropPlace, Lexer.fail]

@[grind →]
theorem isLexical_of_savePlace (h : l.savePlace = .error s) : s.fault.isLexical = true := by
  grind [savePlace]

@[grind →]
theorem isLexical_of_closeAll (h : l.closeAll = .error s) : s.fault.isLexical = true := by
  grind [closeAll]

@[grind →]
theorem isLexical_of_fetchBlockEntry (h : l.fetchBlockEntry = .error s) :
    s.fault.isLexical = true := by
  grind [fetchBlockEntry, Lexer.fail]

@[grind →]
theorem isLexical_of_fetchKey (h : l.fetchKey = .error s) : s.fault.isLexical = true := by
  grind [fetchKey, Lexer.fail]

@[grind →]
theorem isLexical_of_fetchValue (h : l.fetchValue = .error s) : s.fault.isLexical = true := by
  grind [fetchValue, Lexer.fail]

@[grind →]
theorem isLexical_of_openFlow {t : Token} (h : l.openFlow t = .error s) :
    s.fault.isLexical = true := by
  grind [openFlow]

@[grind →]
theorem isLexical_of_closeFlow {t : Token} (h : l.closeFlow t = .error s) :
    s.fault.isLexical = true := by
  grind [closeFlow]

@[grind →]
theorem isLexical_of_fetchPlain (h : l.fetchPlain = .error s) : s.fault.isLexical = true := by
  grind [fetchPlain]

theorem isLexical_of_fetchNode {read : Reader Token} (h : l.fetchNode read = .error s)
    (hread : ∀ s, read = .error s → s.fault.isLexical = true) : s.fault.isLexical = true := by
  unfold fetchNode at h
  split at h
  · cases h
  · next hplace =>
    cases h
    exact isLexical_of_savePlace hplace
  · cases h
    exact hread _ rfl

/-- Whatever token begins here, reading it comes to no other faults. -/
theorem isLexical_of_fetch (h : l.fetch = .error s) : s.fault.isLexical = true := by
  unfold fetch at h
  split at h
  · next hstale =>
    cases h
    exact isLexical_of_dropStale hstale
  · next l' _ =>
    dsimp only at h
    cases hx : l'.cursor.peek with
    | none =>
      rw [hx] at h
      cases h
    | some x =>
      rw [hx] at h
      replace h := map_eq_error_iff.1 h
      -- one branch for each character that a token can begin with
      refine isLexical_of_ite h (fun h => ?_) fun h => ?_
      · split at h
        · cases h
        · next hclose =>
          cases h
          exact isLexical_of_closeAll hclose
        · next hread _ =>
          cases h
          exact isLexical_of_readDirective hread
      refine isLexical_of_ite h (fun h => isLexical_of_closeAll (map_eq_error_iff.1 h)) fun h => ?_
      refine isLexical_of_ite h isLexical_of_openFlow fun h => ?_
      refine isLexical_of_ite h isLexical_of_openFlow fun h => ?_
      refine isLexical_of_ite h isLexical_of_closeFlow fun h => ?_
      refine isLexical_of_ite h isLexical_of_closeFlow fun h => ?_
      refine isLexical_of_ite h (fun h => isLexical_of_dropPlace (map_eq_error_iff.1 h)) fun h => ?_
      refine isLexical_of_ite h isLexical_of_fetchBlockEntry fun h => ?_
      refine isLexical_of_ite h isLexical_of_fetchKey fun h => ?_
      refine isLexical_of_ite h isLexical_of_fetchValue fun h => ?_
      refine isLexical_of_ite h (fun h => ?_) fun h => ?_
      · exact isLexical_of_fetchNode h fun _ hr => isLexical_of_readAnchor (map_eq_error_iff.1 hr)
      refine isLexical_of_ite h (fun h => ?_) fun h => ?_
      · exact isLexical_of_fetchNode h fun _ hr => isLexical_of_readAnchor (map_eq_error_iff.1 hr)
      refine isLexical_of_ite h (fun h => ?_) fun h => ?_
      · exact isLexical_of_fetchNode h fun _ hr => isLexical_of_readTag hr
      refine isLexical_of_ite h (fun h => ?_) fun h => ?_
      · split at h
        · cases h
        · next hplace =>
          cases h
          exact isLexical_of_dropPlace hplace
        · next hread _ =>
          cases h
          exact isLexical_of_readBlock hread
      refine isLexical_of_ite h (fun h => ?_) fun h => ?_
      · exact isLexical_of_fetchNode h fun _ hr => isLexical_of_readPieces (map_eq_error_iff.1 hr)
      exact isLexical_of_ite h isLexical_of_fetchPlain isLexical_of_fail

theorem fault_stopAt {l : Lexer} {f g : Fault} (h : (l.stopAt f).fault = some g) : f = g :=
  Option.some.inj h

/-- Reading tokens stops at the flaw of the source, or at a fault in its characters. -/
theorem fault_readAll {flaw : Option Fault} {l : Lexer} {f : Fault}
    (h : (l.readAll flaw).fault = some f) : flaw = some f ∨ f.isLexical = true := by
  fun_induction Lexer.readAll flaw l with
  | case1 l s hstale =>
    obtain rfl := fault_stopAt h
    exact .inr (isLexical_of_dropStale hstale)
  | case2 l l' _ t s hfetch =>
    obtain rfl := fault_stopAt h
    have hs := isLexical_of_fetch hfetch
    cases flaw <;> grind
  | case3 =>
    obtain rfl := fault_stopAt h
    exact .inl ‹_›
  | case4 =>
    obtain rfl := fault_stopAt h
    exact .inr (isLexical_of_dropPlace ‹_›)
  | case5 => cases h
  | case6 l l' _ t m _ hend =>
    obtain rfl := fault_stopAt h
    cases flaw with
    | none => simp at hend
    | some g => exact .inl rfl
  | case7 l l' _ t m _ _ _ ih => exact ih h
  | case8 =>
    obtain rfl := fault_stopAt h
    exact .inr rfl

/-- At the end of a text, there is nothing to skip. -/
theorem toToken_nil :
    Lexer.toToken { cursor := { rest := [] } } = { cursor := { rest := [] } } := by
  unfold toToken
  rw [skipBlank]
  rfl

end Lexer

namespace Tokens

/-- The tokens of a source end at its flaw, or at a fault in its characters. -/
theorem fault_ofSource {s : Source} {f : Fault} (h : (ofSource s).fault = some f) :
    s.flaw = some f ∨ f.isLexical = true :=
  Lexer.fault_readAll h

/-- A source of which nothing is left has no tokens, and its flaw for a fault. -/
theorem ofSource_nil (f : Fault) : ofSource ⟨[], some f⟩ = ⟨[], some f⟩ := by
  change Lexer.readAll (some f) { cursor := { rest := [] } } = _
  rw [Lexer.readAll]
  split
  · next h => cases h
  · next h =>
    cases h
    simp only [List.filter_nil, Lexer.toToken_nil]
    rfl

end Tokens

end LineShell.Yaml
