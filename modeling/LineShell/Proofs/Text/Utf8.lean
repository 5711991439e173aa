import LineShell.Text.Lines
import LineShell.Text.Utf8

/-!
# Reading back what was written in UTF-8

The bytes of a text are those of its characters, one after the other (`encode`). The decoder reads
each character back from its own bytes, and tells bytes that are only the beginning of a character
from bytes that are none.

* `Sequence` - the four shapes that the bytes of a character have
* `decodeFrom_encodeChar` - a character is read back from its bytes
* `exists_decodeFrom_take` - so is what a cut leaves of a text, down to the character that was cut
* `unifyNewlines_append` - texts can be put together before or after their line ends are unified
-/

namespace LineShell.Text.Utf8

/-- The bytes of a text. -/
def encode (cs : List Char) : List UInt8 := cs.flatMap String.utf8EncodeChar

@[simp] theorem encode_nil : encode [] = [] := rfl

theorem encode_cons (c : Char) (cs : List Char) :
    encode (c :: cs) = String.utf8EncodeChar c ++ encode cs := List.flatMap_cons

/-- The bytes of a string are those of its characters. -/
theorem toList_data_toUTF8 (s : String) : s.toUTF8.data.toList = encode s.toList := by
  rw [String.toUTF8_eq_toByteArray, ← String.utf8Encode_toList]
  exact List.toList_data_toByteArray

/-! ## One character -/

/-- Whether a second byte may follow a first one, in numbers. -/
theorem isSecond_iff {a b : UInt8} : isSecond a b = true ↔
    0x80 ≤ b.toNat ∧ b.toNat ≤ 0xBF ∧ (a.toNat = 0xE0 → 0xA0 ≤ b.toNat) ∧
      (a.toNat = 0xED → b.toNat ≤ 0x9F) ∧ (a.toNat = 0xF0 → 0x90 ≤ b.toNat) ∧
      (a.toNat = 0xF4 → b.toNat ≤ 0x8F) := by
  unfold isSecond secondRange
  simp only [beq_iff_eq, ← UInt8.toNat_inj, UInt8.reduceToNat, UInt8.le_iff_toNat_le,
    Bool.and_eq_true, decide_eq_true_eq]
  split
  · simp only [UInt8.reduceToNat]
    omega
  · split
    · simp only [UInt8.reduceToNat]
      omega
    · split
      · simp only [UInt8.reduceToNat]
        omega
      · split
        · simp only [UInt8.reduceToNat]
          omega
        · simp only [UInt8.reduceToNat]
          omega

/-- The shapes that the bytes of a character have. -/
inductive Sequence (c : Char) : List UInt8 → Prop where
  | one {a : UInt8} : a < 0x80 → Char.ofNat a.toNat = c → Sequence c [a]
  | two {a b : UInt8} : 0xC2 ≤ a → a < 0xE0 → isSecond a b = true →
      assemble (a.toNat - 0xC0) [b] = c → Sequence c [a, b]
  | three {a b d : UInt8} : 0xE0 ≤ a → a < 0xF0 → isSecond a b = true → isContinuation d = true →
      assemble (a.toNat - 0xE0) [b, d] = c → Sequence c [a, b, d]
  | four {a b d e : UInt8} : 0xF0 ≤ a → a < 0xF5 → isSecond a b = true → isContinuation d = true →
      isContinuation e = true → assemble (a.toNat - 0xF0) [b, d, e] = c → Sequence c [a, b, d, e]

theorem isContinuation_iff {b : UInt8} :
    isContinuation b = true ↔ 0x80 ≤ b.toNat ∧ b.toNat ≤ 0xBF := by
  simp only [isContinuation, UInt8.le_iff_toNat_le, UInt8.reduceToNat, Bool.and_eq_true,
    decide_eq_true_eq]

/-- The bytes of a character have one of the shapes. -/
theorem sequence_encodeChar (c : Char) : Sequence c (String.utf8EncodeChar c) := by
  -- no code point is a surrogate, which is what the bounds on the second byte say
  have hv : c.val.toNat < 0xD800 ∨ 0xDFFF < c.val.toNat ∧ c.val.toNat < 0x110000 := c.valid
  have hc (n : Nat) (h : n = c.val.toNat) : Char.ofNat n = c := by
    rw [h]
    exact c.ofNat_toNat
  have ht (n : Nat) (h : n < 0x100) : (UInt8.ofNat n).toNat = n := UInt8.toNat_ofNat_of_lt h
  unfold String.utf8EncodeChar
  generalize c.val.toNat = n at *
  dsimp only
  have hlast := ht (n % 0x40 + 0x80) (by omega)
  split
  · have ha := ht n (by omega)
    refine .one ?_ (hc _ ha)
    show (UInt8.ofNat n).toNat < 0x80
    omega
  · have hmid := ht (n / 64 % 0x40 + 0x80) (by omega)
    split
    · have ha := ht (n / 64 % 0x20 + 0xC0) (by omega)
      refine .two ?_ ?_ (isSecond_iff.2 ?_) (hc _ ?_)
      · show 0xC2 ≤ (UInt8.ofNat (n / 64 % 0x20 + 0xC0)).toNat
        omega
      · show (UInt8.ofNat (n / 64 % 0x20 + 0xC0)).toNat < 0xE0
        omega
      · omega
      · simp only [List.foldl_cons, List.foldl_nil]
        omega
    · split
      · have ha := ht (n / 4096 % 0x10 + 0xE0) (by omega)
        refine .three ?_ ?_ (isSecond_iff.2 ?_) (isContinuation_iff.2 ?_) (hc _ ?_)
        · show 0xE0 ≤ (UInt8.ofNat (n / 4096 % 0x10 + 0xE0)).toNat
          omega
        · show (UInt8.ofNat (n / 4096 % 0x10 + 0xE0)).toNat < 0xF0
          omega
        · omega
        · omega
        · simp only [List.foldl_cons, List.foldl_nil]
          omega
      · have ha := ht (n / 262144 % 0x08 + 0xF0) (by omega)
        have hb := ht (n / 4096 % 0x40 + 0x80) (by omega)
        refine .four ?_ ?_ (isSecond_iff.2 ?_) (isContinuation_iff.2 ?_) (isContinuation_iff.2 ?_)
          (hc _ ?_)
        · show 0xF0 ≤ (UInt8.ofNat (n / 262144 % 0x08 + 0xF0)).toNat
          omega
        · show (UInt8.ofNat (n / 262144 % 0x08 + 0xF0)).toNat < 0xF5
          omega
        · omega
        · omega
        · omega
        · simp only [List.foldl_cons, List.foldl_nil]
          omega

theorem encodeChar_ne_nil (c : Char) : String.utf8EncodeChar c ≠ [] := by
  have h := sequence_encodeChar c
  generalize String.utf8EncodeChar c = bs at h
  cases h <;> simp

/-- The first byte of a longer sequence starts one. -/
theorem starts_of_le {a : UInt8} (h1 : 0xC2 ≤ a) (h2 : a < 0xF5) :
    ¬a < 0x80 ∧ ¬(decide (a < 0xC2) || decide (0xF5 ≤ a)) = true := by
  refine ⟨UInt8.not_lt.2 (UInt8.le_trans (by decide) h1), ?_⟩
  rw [Bool.or_eq_true, decide_eq_true_eq, decide_eq_true_eq]
  rintro (h | h)
  · exact UInt8.not_lt.2 h1 h
  · exact UInt8.not_lt.2 h h2

/-- A character is read back from its bytes. -/
theorem decodeFrom_encodeChar (c : Char) (rest : List UInt8) (pos : Nat) :
    ∃ next, decodeFrom pos (String.utf8EncodeChar c ++ rest) = (decodeFrom next rest).cons c := by
  have h := sequence_encodeChar c
  generalize String.utf8EncodeChar c = bs at h
  cases h with
  | one h hc =>
    refine ⟨pos + 1, ?_⟩
    rw [List.singleton_append, decodeFrom.eq_def]
    simp only [if_pos h, hc]
  | @two a b h1 h2 hb hc =>
    obtain ⟨hn, hs⟩ := starts_of_le h1 (UInt8.lt_trans h2 (by decide))
    refine ⟨pos + 2, ?_⟩
    simp only [List.cons_append, List.nil_append]
    rw [decodeFrom.eq_def]
    simp only [if_neg hn, if_neg hs, hb, Bool.not_true, Bool.false_eq_true, if_false, if_pos h2, hc]
  | @three a b d h1 h2 hb hd hc =>
    obtain ⟨hn, hs⟩ := starts_of_le (UInt8.le_trans (by decide) h1) (UInt8.lt_trans h2 (by decide))
    refine ⟨pos + 3, ?_⟩
    simp only [List.cons_append, List.nil_append]
    rw [decodeFrom.eq_def]
    simp only [if_neg hn, if_neg hs, hb, hd, Bool.not_true, Bool.false_eq_true, if_false,
      if_neg (UInt8.not_lt.2 h1), if_pos h2, hc]
  | @four a b d e h1 h2 hb hd he hc =>
    obtain ⟨hn, hs⟩ := starts_of_le (UInt8.le_trans (by decide) h1) h2
    have h3 : ¬a < 0xE0 := UInt8.not_lt.2 (UInt8.le_trans (by decide) h1)
    refine ⟨pos + 4, ?_⟩
    simp only [List.cons_append, List.nil_append]
    rw [decodeFrom.eq_def]
    simp only [if_neg hn, if_neg hs, hb, hd, he, Bool.not_true, Bool.false_eq_true, if_false,
      if_neg h3, if_neg (UInt8.not_lt.2 h1), hc]

/-- A text is read back from its bytes. -/
theorem decodeFrom_encode (cs : List Char) (pos : Nat) :
    decodeFrom pos (encode cs) = ⟨cs, none⟩ := by
  induction cs generalizing pos with
  | nil => rfl
  | cons c cs ih =>
    obtain ⟨next, hnext⟩ := decodeFrom_encodeChar c (encode cs) pos
    rw [encode_cons, hnext, ih]
    rfl

/-- The beginning of a character is known to be one. -/
theorem decodeFrom_take_encodeChar (c : Char) {k : Nat} (h0 : 0 < k)
    (hk : k < (String.utf8EncodeChar c).length) (pos : Nat) :
    decodeFrom pos ((String.utf8EncodeChar c).take k) =
      .stop pos ((String.utf8EncodeChar c).take k) .truncated := by
  have h := sequence_encodeChar c
  generalize String.utf8EncodeChar c = bs at h hk
  cases h with
  | one h hc =>
    simp only [List.length_singleton] at hk
    omega
  | @two a b h1 h2 hb hc =>
    obtain ⟨hn, hs⟩ := starts_of_le h1 (UInt8.lt_trans h2 (by decide))
    obtain rfl : k = 1 := by simp only [List.length_cons, List.length_nil] at hk; omega
    simp only [List.take_succ_cons, List.take_zero]
    rw [decodeFrom.eq_def]
    simp only [if_neg hn, if_neg hs]
  | @three a b d h1 h2 hb hd hc =>
    obtain ⟨hn, hs⟩ := starts_of_le (UInt8.le_trans (by decide) h1) (UInt8.lt_trans h2 (by decide))
    obtain rfl | rfl : k = 1 ∨ k = 2 := by
      simp only [List.length_cons, List.length_nil] at hk
      omega
    · simp only [List.take_succ_cons, List.take_zero]
      rw [decodeFrom.eq_def]
      simp only [if_neg hn, if_neg hs]
    · simp only [List.take_succ_cons, List.take_zero]
      rw [decodeFrom.eq_def]
      simp only [if_neg hn, if_neg hs, hb, Bool.not_true, Bool.false_eq_true, if_false,
        if_neg (UInt8.not_lt.2 h1)]
  | @four a b d e h1 h2 hb hd he hc =>
    obtain ⟨hn, hs⟩ := starts_of_le (UInt8.le_trans (by decide) h1) h2
    have h3 : ¬a < 0xE0 := UInt8.not_lt.2 (UInt8.le_trans (by decide) h1)
    obtain rfl | rfl | rfl : k = 1 ∨ k = 2 ∨ k = 3 := by
      simp only [List.length_cons, List.length_nil] at hk; omega
    · simp only [List.take_succ_cons, List.take_zero]
      rw [decodeFrom.eq_def]
      simp only [if_neg hn, if_neg hs]
    · simp only [List.take_succ_cons, List.take_zero]
      rw [decodeFrom.eq_def]
      simp only [if_neg hn, if_neg hs, hb, Bool.not_true, Bool.false_eq_true, if_false, if_neg h3]
    · simp only [List.take_succ_cons, List.take_zero]
      rw [decodeFrom.eq_def]
      simp only [if_neg hn, if_neg hs, hb, hd, Bool.not_true, Bool.false_eq_true, if_false,
        if_neg h3, if_neg (UInt8.not_lt.2 h1)]

/-! ## Texts -/

/-- A text is read back as it was written, down to a character that was cut. -/
theorem exists_decodeFrom_take (cs : List Char) (m pos : Nat) :
    ∃ a b held, cs = a ++ b ∧ (encode cs).take m = encode a ++ held ∧
      ((held = [] ∧ decodeFrom pos ((encode cs).take m) = ⟨a, none⟩) ∨
        (∃ start, held ≠ [] ∧ encode b ≠ held ∧
          decodeFrom pos ((encode cs).take m) = ⟨a, some ⟨start, held, .truncated⟩⟩)) := by
  induction cs generalizing m pos with
  | nil => exact ⟨[], [], [], rfl, by simp, .inl ⟨rfl, by simp [decodeFrom]⟩⟩
  | cons c cs ih =>
    rw [encode_cons]
    by_cases hm : m < (String.utf8EncodeChar c).length
    · -- the cut is inside of this character, or in front of it
      rw [List.take_append_of_le_length (Nat.le_of_lt hm)]
      rcases Nat.eq_zero_or_pos m with rfl | h0
      · exact ⟨[], c :: cs, [], rfl, by simp, .inl ⟨rfl, by simp [decodeFrom]⟩⟩
      · refine ⟨[], c :: cs, _, rfl, rfl, .inr ⟨pos, ?_, ?_, ?_⟩⟩
        · intro h
          rcases List.take_eq_nil_iff.1 h with h | h
          · omega
          · exact encodeChar_ne_nil c h
        · intro h
          have := congrArg List.length h
          rw [encode_cons, List.length_append, List.length_take] at this
          omega
        · rw [decodeFrom_take_encodeChar c h0 hm]
          rfl
    · rw [List.take_append, List.take_of_length_le (Nat.le_of_not_lt hm)]
      -- this character is there as a whole, and the cut is in what follows
      obtain ⟨next, hn⟩ := decodeFrom_encodeChar c
        ((encode cs).take (m - (String.utf8EncodeChar c).length)) pos
      obtain ⟨a, b, held, hcs, ht, hd⟩ := ih (m - (String.utf8EncodeChar c).length) next
      refine ⟨c :: a, b, held, by rw [hcs]; rfl, ?_, ?_⟩
      · rw [ht, encode_cons, List.append_assoc]
      · rw [hn]
        rcases hd with ⟨hh, hd⟩ | ⟨start, hh, hb, hd⟩
        · exact .inl ⟨hh, by rw [hd]; rfl⟩
        · exact .inr ⟨start, hh, hb, by rw [hd]; rfl⟩

/-! ## Only the bytes of a text -/

/-- The code point of a character is the number that it was made of. -/
theorem toNat_val_ofNat {n : Nat} (h : n.isValidChar) : (Char.ofNat n).val.toNat = n := by
  rw [Char.ofNat, dif_pos h]
  rfl

/-- A byte is known by its number. -/
theorem eq_ofNat {a : UInt8} {n : Nat} (h : a.toNat = n) : a = UInt8.ofNat n := by
  rw [← h, UInt8.ofNat_toNat]

/-- A character has no other bytes than its own. -/
theorem Sequence.eq_encodeChar {c : Char} {bs : List UInt8} (h : Sequence c bs) :
    bs = String.utf8EncodeChar c := by
  unfold String.utf8EncodeChar
  cases h with
  | @one a h hc =>
    have ha : a.toNat < 0x80 := h
    have hv : c.val.toNat = a.toNat := hc ▸ toNat_val_ofNat (.inl (by omega))
    rw [hv, if_pos (by omega), UInt8.ofNat_toNat]
  | @two a b h1 h2 hb hc =>
    have ha : 0xC2 ≤ a.toNat ∧ a.toNat < 0xE0 := ⟨h1, h2⟩
    obtain ⟨hb1, hb2, -⟩ := isSecond_iff.1 hb
    have hv : c.val.toNat = (a.toNat - 0xC0) * 64 + (b.toNat - 0x80) :=
      hc ▸ toNat_val_ofNat (.inl (by simp only [List.foldl_cons, List.foldl_nil]; omega))
    generalize c.val.toNat = n at hv
    dsimp only
    rw [if_neg (by omega), if_pos (by omega)]
    rw [← eq_ofNat (show a.toNat = _ by omega), ← eq_ofNat (show b.toNat = _ by omega)]
  | @three a b d h1 h2 hb hd hc =>
    have ha : 0xE0 ≤ a.toNat ∧ a.toNat < 0xF0 := ⟨h1, h2⟩
    obtain ⟨hb1, hb2, hb3, hb4, -⟩ := isSecond_iff.1 hb
    obtain ⟨hd1, hd2⟩ := isContinuation_iff.1 hd
    have hv : c.val.toNat =
        ((a.toNat - 0xE0) * 64 + (b.toNat - 0x80)) * 64 + (d.toNat - 0x80) :=
      hc ▸ toNat_val_ofNat (by simp only [List.foldl_cons, List.foldl_nil, Nat.isValidChar]; omega)
    generalize c.val.toNat = n at hv
    dsimp only
    rw [if_neg (by omega), if_neg (by omega), if_pos (by omega)]
    rw [← eq_ofNat (show a.toNat = _ by omega), ← eq_ofNat (show b.toNat = _ by omega),
      ← eq_ofNat (show d.toNat = _ by omega)]
  | @four a b d e h1 h2 hb hd he hc =>
    have ha : 0xF0 ≤ a.toNat ∧ a.toNat < 0xF5 := ⟨h1, h2⟩
    obtain ⟨hb1, hb2, -, -, hb3, hb4⟩ := isSecond_iff.1 hb
    obtain ⟨hd1, hd2⟩ := isContinuation_iff.1 hd
    obtain ⟨he1, he2⟩ := isContinuation_iff.1 he
    have hv : c.val.toNat =
        (((a.toNat - 0xF0) * 64 + (b.toNat - 0x80)) * 64 + (d.toNat - 0x80)) * 64 +
          (e.toNat - 0x80) :=
      hc ▸ toNat_val_ofNat (by simp only [List.foldl_cons, List.foldl_nil, Nat.isValidChar]; omega)
    generalize c.val.toNat = n at hv
    dsimp only
    rw [if_neg (by omega), if_neg (by omega), if_neg (by omega)]
    rw [← eq_ofNat (show a.toNat = _ by omega), ← eq_ofNat (show b.toNat = _ by omega),
      ← eq_ofNat (show d.toNat = _ by omega), ← eq_ofNat (show e.toNat = _ by omega)]

/-- Where a reading stops: at the end, or in front of bytes that no reading gets past. -/
inductive StopsAt : Option Fault → List UInt8 → Prop where
  | done : StopsAt none []
  | stuck {start : Nat} {bs rest : List UInt8} {flaw : Flaw} : rest ≠ [] →
      (∀ pos, decodeFrom pos rest = .stop pos bs flaw) → (flaw = .truncated → bs = rest) →
      StopsAt (some ⟨start, bs, flaw⟩) rest

/-- What was read before a reading stopped are the bytes in front of that place. -/
def ReadUpTo (d : Decoded) (bytes : List UInt8) : Prop :=
  ∃ rest, bytes = encode d.text ++ rest ∧ StopsAt d.fault rest

variable {d : Decoded} {c : Char} {bs bytes : List UInt8}

theorem ReadUpTo.cons (h : ReadUpTo d bytes) (hc : Sequence c bs) :
    ReadUpTo (d.cons c) (bs ++ bytes) := by
  obtain ⟨rest, hbytes, hstop⟩ := h
  refine ⟨rest, ?_, hstop⟩
  rw [Decoded.cons, encode_cons, ← hc.eq_encodeChar, List.append_assoc, ← hbytes]

theorem readUpTo_stop {pos : Nat} {flaw : Flaw} (hne : bytes ≠ [])
    (h : ∀ pos, decodeFrom pos bytes = .stop pos bs flaw) (ht : flaw = .truncated → bs = bytes) :
    ReadUpTo (.stop pos bs flaw) bytes :=
  ⟨bytes, rfl, .stuck hne h ht⟩

/-- A reading goes through characters, up to where it stops. -/
theorem readUpTo_decodeFrom (pos : Nat) (bytes : List UInt8) :
    ReadUpTo (decodeFrom pos bytes) bytes := by
  fun_induction decodeFrom pos bytes with
  | case1 => exact ⟨[], rfl, .done⟩
  | case2 pos a rest ha ih => exact ih.cons (.one ha rfl)
  | case6 pos a hlow hstart b rest hb h2 ih =>
    rw [Bool.or_eq_true, decide_eq_true_eq, decide_eq_true_eq, not_or, UInt8.not_lt] at hstart
    exact ih.cons (.two hstart.1 h2 (by simpa using hb) rfl)
  | case9 pos a hlow hstart b hb h2 d rest hd h3 ih =>
    exact ih.cons (.three (UInt8.not_lt.1 h2) h3 (by simpa using hb) (by simpa using hd) rfl)
  | case12 pos a hlow hstart b hb h2 d hd h3 e rest he ih =>
    rw [Bool.or_eq_true, decide_eq_true_eq, decide_eq_true_eq, not_or, UInt8.not_le] at hstart
    exact ih.cons (.four (UInt8.not_lt.1 h3) hstart.2 (by simpa using hb) (by simpa using hd)
      (by simpa using he) rfl)
  | _ =>
    -- the same tests fail wherever the bytes stand
    refine readUpTo_stop (by simp) (fun q => ?_) (by simp)
    rw [decodeFrom.eq_def]
    simp only [*]
    simp

theorem encode_text_of_fault_eq_none {pos : Nat} (h : (decodeFrom pos bytes).fault = none) :
    encode (decodeFrom pos bytes).text = bytes := by
  obtain ⟨rest, hbytes, hstop⟩ := readUpTo_decodeFrom pos bytes
  rw [h] at hstop
  cases hstop
  rw [List.append_nil] at hbytes
  exact hbytes.symm

/-- **The bytes that are read as a text are those of the text, and no others.** -/
theorem decode_eq_ok_iff {cs : List Char} : decode bytes = .ok cs ↔ bytes = encode cs := by
  constructor
  · intro h
    unfold decode at h
    dsimp only at h
    split at h
    · next hnone => rw [← Except.ok.inj h, encode_text_of_fault_eq_none hnone]
    · cases h
  · rintro rfl
    rw [decode, decodeFrom_encode]

theorem length_le_length_encode (cs : List Char) : cs.length ≤ (encode cs).length := by
  induction cs with
  | nil => exact Nat.le_refl _
  | cons c cs ih =>
    have hc : 0 < (String.utf8EncodeChar c).length := List.length_pos_iff.2 (encodeChar_ne_nil c)
    rw [encode_cons, List.length_append, List.length_cons]
    omega

/-- Where something stops a reading, fewer characters than bytes have been read. -/
theorem length_text_lt {pos : Nat} {f : Fault} (h : (decodeFrom pos bytes).fault = some f) :
    (decodeFrom pos bytes).text.length < bytes.length := by
  obtain ⟨rest, hbytes, hstop⟩ := readUpTo_decodeFrom pos bytes
  rw [h] at hstop
  cases hstop with
  | stuck hne _ _ =>
    have hlength := congrArg List.length hbytes
    have hrest := List.length_pos_iff.2 hne
    have hread := length_le_length_encode (decodeFrom pos bytes).text
    rw [List.length_append] at hlength
    omega

/-- A character that breaks off is no text by itself either. -/
theorem decodeFrom_bytes_of_truncated {pos : Nat} {f : Fault}
    (h : (decodeFrom pos bytes).fault = some f) (ht : f.flaw = .truncated) (q : Nat) :
    decodeFrom q f.bytes = .stop q f.bytes .truncated := by
  obtain ⟨rest, -, hstop⟩ := readUpTo_decodeFrom pos bytes
  rw [h] at hstop
  cases hstop with
  | stuck _ hstuck hall =>
    obtain rfl := hall ht
    obtain rfl : _ = Flaw.truncated := ht
    exact hstuck q

end LineShell.Text.Utf8

namespace LineShell.Text

/-! ## Newlines -/

/-- A character that is not the first of a pair is unified by itself. -/
theorem unifyNewlines_cons {c : Char} {cs : List Char} (h : c ≠ '\r' ∨ cs.head? ≠ some '\n') :
    unifyNewlines (c :: cs) = (if c = '\r' then '\n' else c) :: unifyNewlines cs := by
  refine unifyNewlines.eq_3 c cs ?_
  rintro cs' rfl rfl
  simp at h

/-- Texts can be put together before or after their line ends are unified, unless a line end lies
across the joint. -/
theorem unifyNewlines_append {a b : List Char}
    (h : a.getLast? ≠ some '\r' ∨ b.head? ≠ some '\n') :
    unifyNewlines (a ++ b) = unifyNewlines a ++ unifyNewlines b := by
  fun_induction unifyNewlines a with
  | case1 => rfl
  | case2 cs ih =>
    rw [List.cons_append, List.cons_append, unifyNewlines, List.cons_append, ih]
    rcases h with h | h
    · cases cs with
      | nil => exact .inl (by simp)
      | cons c cs => exact .inl (by simpa using h)
    · exact .inr h
  | case3 c cs hne ih =>
    cases cs with
    | nil =>
      rw [List.singleton_append, unifyNewlines_cons]
      · rfl
      · simpa using h
    | cons x xs =>
      have hx : c ≠ '\r' ∨ x ≠ '\n' := by
        by_cases hc : c = '\r'
        · exact .inr fun hx => hne xs hc (by rw [hx])
        · exact .inl hc
      rw [List.cons_append, unifyNewlines_cons (by simpa using hx), ih (by simpa using h),
        List.cons_append]

/-- A text without carriage returns stays as it is. -/
theorem unifyNewlines_eq_self {cs : List Char} (h : '\r' ∉ cs) : unifyNewlines cs = cs := by
  induction cs with
  | nil => rfl
  | cons c cs ih =>
    have hc : c ≠ '\r' := fun hc => h (hc ▸ List.mem_cons_self)
    rw [unifyNewlines_cons (.inl hc), if_neg hc, ih fun hx => h (List.mem_cons_of_mem c hx)]

/-- Unifying line ends makes no text longer. -/
theorem length_unifyNewlines_le (cs : List Char) : (unifyNewlines cs).length ≤ cs.length := by
  fun_induction unifyNewlines cs with
  | case1 => exact Nat.le_refl _
  | case2 cs ih => simp only [List.length_cons]; omega
  | case3 c cs _ ih => simp only [List.length_cons]; omega

/-- No carriage return is left. -/
theorem notMem_unifyNewlines (cs : List Char) : '\r' ∉ unifyNewlines cs := by
  fun_induction unifyNewlines cs with
  | case1 => exact List.not_mem_nil
  | case2 cs ih => simp [ih]
  | case3 c cs _ ih =>
    split
    · simp [ih]
    · next hc => simp [ih, Ne.symm hc]

end LineShell.Text
