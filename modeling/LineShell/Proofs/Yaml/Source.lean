import LineShell.Proofs.Text.Utf8
import LineShell.Yaml.Source

/-!
# The source of a file that was written as a text

A file is read in blocks, and a block may end inside of a character or between the two halves of a
line end. None of this shows in the text: whatever the blocks are, the source of the bytes of a text
is the text with its line ends unified (`ofBytes_encode`).

The loop over the blocks keeps two facts, for the part of the text that has been read so far:

* `Decoding.HasRead` - what is there is that part; only a carriage return at its end waits for what
  follows
* what is held back are the first bytes of the next character, and not all of them

Bytes that are no text are another matter. They break a source off where they stand, and so it is
only certain that they are found if a single block takes them all (`exists_ofBytes`).
-/

namespace LineShell.Yaml.Source

open Text Text.Utf8

variable {d : Decoding} {done cs : List Char} {bytes : List UInt8}

/-- What has been decoded is the text `done`. A carriage return at its end is not in yet. -/
def Decoding.HasRead (d : Decoding) (done : List Char) : Prop :=
  ∃ before, done = before ++ (if d.returned then ['\r'] else []) ∧
    d.read.reverse = unifyNewlines before ∧
    (d.returned = false → before.getLast? ≠ some '\r')

/-- In the beginning, nothing has been read. -/
theorem hasRead_start : Decoding.HasRead {} [] := ⟨[], rfl, rfl, fun _ => by simp⟩

/-- The characters of a block are put behind those that were read before. -/
theorem hasRead_add (h : d.HasRead done) (size : Nat) (new : List Char) (held : List UInt8) :
    (d.add size new held).HasRead (done ++ new) := by
  obtain ⟨before, hdone, hread, hlast⟩ := h
  -- what the block adds, with the carriage return that waited for it
  obtain ⟨text, ht⟩ : ∃ text, text = if d.returned then '\r' :: new else new := ⟨_, rfl⟩
  have hsplit : done ++ new = before ++ text := by
    rw [hdone, ht]
    split <;> simp
  have hjoint : before.getLast? ≠ some '\r' ∨ text.head? ≠ some '\n' := by
    cases hr : d.returned with
    | false => exact .inl (hlast hr)
    | true => exact .inr (by simp [ht, hr])
  by_cases hend : text.getLast? = some '\r'
  · obtain ⟨init, rfl⟩ := List.getLast?_eq_some_iff.1 hend
    refine ⟨before ++ init, ?_, ?_, ?_⟩
    · simp only [Decoding.add, ← ht, hend, beq_self_eq_true, if_true, hsplit, List.append_assoc]
    · simp only [Decoding.add, ← ht, hend, beq_self_eq_true, if_true, List.dropLast_concat,
        List.reverse_append, List.reverse_reverse, hread]
      refine (unifyNewlines_append ?_).symm
      cases init with
      | nil => exact .inr (by simp)
      | cons c cs => exact hjoint.imp_right fun h => by simpa using h
    · intro hr
      simp [Decoding.add, ← ht] at hr
  · have hr : (text.getLast? == some '\r') = false := by simpa using hend
    refine ⟨before ++ text, ?_, ?_, ?_⟩
    · simp only [Decoding.add, ← ht, hr, Bool.false_eq_true, if_false, hsplit, List.append_nil]
    · simp only [Decoding.add, ← ht, hr, Bool.false_eq_true, if_false, List.reverse_append,
        List.reverse_reverse, hread]
      exact (unifyNewlines_append hjoint).symm
    · intro _
      rw [List.getLast?_append]
      cases htl : text.getLast? with
      | none =>
        have hnil : text = [] := List.getLast?_eq_none_iff.1 htl
        have hret : d.returned = false := by
          cases hr : d.returned with
          | false => rfl
          | true => simp [ht, hr] at hnil
        simpa using hlast hret
      | some c => simpa [htl] using hend

/-- One block is read up to the character that it cuts. -/
theorem exists_block (h : d.HasRead done) {m : Nat} (hm : d.held ++ bytes = (encode cs).take m) :
    ∃ d' a b, d.block bytes = .ok d' ∧ cs = a ++ b ∧ (encode cs).take m = encode a ++ d'.held ∧
      d'.HasRead (done ++ a) ∧ (d'.held = [] ∨ encode b ≠ d'.held) := by
  obtain ⟨a, b, held, hcs, ht, hd⟩ := exists_decodeFrom_take cs m 0
  refine ⟨d.add bytes.length a held, a, b, ?_, hcs, ht, hasRead_add h .., ?_⟩
  · rcases hd with ⟨rfl, hd⟩ | ⟨start, _, _, hd⟩
    · simp only [Decoding.block, hm, hd]
    · simp only [Decoding.block, hm, hd, if_true]
  · exact hd.imp And.left fun ⟨_, _, hb, _⟩ => hb

/-- The end of the bytes is the end of the text. -/
theorem finish_of_hasRead (h : d.HasRead done) (hd : d.held = []) :
    d.finish = (unifyNewlines done, none) := by
  obtain ⟨before, hdone, hread, hlast⟩ := h
  simp only [Decoding.finish, hd, decodeFrom]
  rw [hdone]
  cases hr : d.returned with
  | false => simpa using hread
  | true =>
    rw [if_pos rfl, if_pos rfl, unifyNewlines_append (.inr (by simp)), List.reverse_cons, hread]
    rfl

/-- The blocks make the text again. -/
theorem decodeBlocks_of_hasRead (h : d.HasRead done) (hb : d.held ++ bytes = encode cs)
    (hd : d.held = [] ∨ encode cs ≠ d.held) :
    decodeBlocks d bytes = (unifyNewlines (done ++ cs), none) := by
  induction hn : bytes.length using Nat.strongRecOn generalizing d done cs bytes with
  | ind n ih =>
    rw [decodeBlocks]
    -- the last block has been read, or one more is cut off and what it holds back is put in front
    by_cases hnil : bytes = []
    · rw [dif_pos hnil]
      rw [hnil, List.append_nil] at hb
      have hheld : d.held = [] := hd.resolve_right fun hne => hne hb.symm
      have hcs : cs = [] := by
        cases cs with
        | nil => rfl
        | cons c cs =>
          rw [hheld, encode_cons] at hb
          exact absurd (List.append_eq_nil_iff.1 hb.symm).1 (encodeChar_ne_nil c)
      rw [finish_of_hasRead h hheld, hcs, List.append_nil]
    · rw [dif_neg hnil]
      have hm : d.held ++ bytes.take d.request = (encode cs).take (d.held.length + d.request) := by
        rw [← hb, List.take_length_add_append]
      obtain ⟨d', a, b, hblock, hcs, ht, hread, hheld⟩ := exists_block h hm
      simp only [hblock]
      have hrest : d'.held ++ bytes.drop d.request = encode b := by
        have hall : encode a ++ (d'.held ++ bytes.drop d.request) = encode a ++ encode b := by
          rw [← List.append_assoc, ← ht, ← hm, List.append_assoc, List.take_append_drop, hb, hcs,
            encode, List.flatMap_append]
          rfl
        exact List.append_cancel_left hall
      have hlt : (bytes.drop d.request).length < n := by
        have h0 : 0 < d.request := Nat.lt_of_lt_of_le (by decide) (Nat.le_max_left blockSize _)
        have h1 : 0 < bytes.length := List.length_pos_iff.2 hnil
        rw [List.length_drop]
        omega
      rw [ih _ hlt hread hrest hheld rfl, hcs, List.append_assoc]

/-- **The source of the bytes of a text is the text, with its line ends unified.** -/
theorem ofBytes_encode (cs : List Char) :
    ofBytes (encode cs) = ofText (unifyNewlines cs) none := by
  have h : decodeBlocks {} (encode cs) = (unifyNewlines ([] ++ cs), none) :=
    decodeBlocks_of_hasRead hasRead_start rfl (.inl rfl)
  rw [ofBytes, h, List.nil_append]

/-! ## Bytes that are no text -/

/-- Blocks are spoiled by nothing but bytes that are no character. -/
theorem exists_of_decodeBlocks {n : Nat} {f : Fault} (h : (decodeBlocks d bytes).2 = some (n, f)) :
    ∃ u, f = .undecodable u := by
  fun_induction decodeBlocks d bytes with
  | case1 d =>
    unfold Decoding.finish at h
    dsimp only at h
    split at h
    · cases h
    · next u _ =>
      cases h
      exact ⟨u, rfl⟩
  | case2 d bytes hne u hblock =>
    cases h
    exact ⟨u, rfl⟩
  | case3 d bytes hne d' hblock ih => exact ih h

/-- Cutting a text off at a character that no document may have brings no other flaw in. -/
theorem flaw_ofText {text : List Char} {flaw : Option (Nat × Fault)} {f : Fault}
    (h : (ofText text flaw).flaw = some f) : f = .malformed ∨ ∃ n, flaw = some (n, f) := by
  unfold ofText at h
  by_cases hclean : (text.takeWhile isDocumentChar).length < text.length
  · simp only [hclean, if_true] at h
    cases flaw with
    | none => exact .inl (Option.some.inj h).symm
    | some p =>
      simp only [Option.map_some] at h
      split at h
      · exact .inr ⟨p.1, by rw [← Option.some.inj h]⟩
      · exact .inl (Option.some.inj h).symm
  · simp only [hclean, if_false] at h
    cases flaw with
    | none => cases h
    | some p => exact .inr ⟨p.1, by rw [← Option.some.inj h]⟩

/-- A flaw in the first piece leaves no text at all. -/
theorem ofText_of_early {n : Nat} (hn : n < 2 * pieceSize) (text : List Char) (f : Fault) :
    ofText text (some (n, f)) = ⟨[], some f⟩ := by
  have hcut : cutAt n = 0 := if_pos (Nat.le_of_lt_succ (Nat.div_lt_of_lt_mul (by omega)))
  unfold ofText
  simp only [Option.map_some, hcut]
  by_cases hclean : (text.takeWhile isDocumentChar).length < text.length
  · simp only [hclean, if_true, Nat.zero_le, List.take_zero]
  · simp only [hclean, if_false, List.take_zero]

/-- The flaw of a source is a character that no document may have, unless the bytes are no text. -/
theorem flaw_ofBytes {f : Fault} (h : (ofBytes bytes).flaw = some f) :
    f = .malformed ∨ (∃ u, f = .undecodable u) ∧ ∀ cs, bytes ≠ encode cs := by
  by_cases htext : ∃ cs, bytes = encode cs
  · obtain ⟨cs, rfl⟩ := htext
    rw [ofBytes_encode] at h
    exact .inl ((flaw_ofText h).resolve_right nofun)
  · rcases flaw_ofText h with rfl | ⟨n, hn⟩
    · exact .inl rfl
    · exact .inr ⟨exists_of_decodeBlocks hn, fun cs hcs => htext ⟨cs, hcs⟩⟩

/-- What is held back at the end and is no text is a fault behind all that has been read. -/
theorem exists_finish {u : Text.Utf8.Fault} (h : (decodeFrom 0 d.held).fault = some u) :
    ∃ text, d.finish = (text, some (d.count, .undecodable u)) := by
  simp only [Decoding.finish, h]
  exact ⟨_, rfl⟩

/-- Bytes that are no text, and so few that one block takes them all, spoil the first piece. -/
theorem exists_decodeBlocks {u : Text.Utf8.Fault} (h : (decodeFrom 0 bytes).fault = some u)
    (hsize : bytes.length ≤ blockSize) :
    ∃ text n w, decodeBlocks {} bytes = (text, some (n, .undecodable w)) ∧ n < blockSize := by
  have hne : bytes ≠ [] := by
    rintro rfl
    cases h
  have htake : bytes.take (Decoding.request {}) = bytes := List.take_of_length_le hsize
  have hdrop : bytes.drop (Decoding.request {}) = [] := List.drop_eq_nil_of_le hsize
  rw [decodeBlocks, dif_neg hne, htake, hdrop]
  by_cases ht : u.flaw = .truncated
  · -- the character that breaks off is held back, and then found to be none
    have hblock : Decoding.block {} bytes =
        .ok (Decoding.add {} bytes.length (decodeFrom 0 bytes).text u.bytes) := by
      simp only [Decoding.block, List.nil_append, h, ht, if_true]
    have hcount : (Decoding.add {} bytes.length (decodeFrom 0 bytes).text u.bytes).count ≤
        (decodeFrom 0 bytes).text.length := by
      simp only [Decoding.add, Bool.false_eq_true, if_false, Nat.zero_add]
      refine Nat.le_trans (length_unifyNewlines_le _) ?_
      split
      · exact List.length_dropLast ▸ Nat.sub_le _ _
      · exact Nat.le_refl _
    have hless := length_text_lt h
    have hheld : (decodeFrom 0 (Decoding.add {} bytes.length (decodeFrom 0 bytes).text
        u.bytes).held).fault = some ⟨0, u.bytes, .truncated⟩ :=
      congrArg Decoded.fault (decodeFrom_bytes_of_truncated h ht 0)
    obtain ⟨text, hfinish⟩ := exists_finish hheld
    simp only [hblock]
    rw [decodeBlocks, dif_pos rfl, hfinish]
    exact ⟨_, _, _, rfl, Nat.lt_of_le_of_lt hcount (Nat.lt_of_lt_of_le hless hsize)⟩
  · have hblock : Decoding.block {} bytes = .error u := by
      simp only [Decoding.block, List.nil_append, h, ht, if_false]
    simp only [hblock]
    exact ⟨_, _, _, rfl, by decide⟩

/-- Such bytes are a source without any text. -/
theorem exists_ofBytes {u : Text.Utf8.Fault} (h : decode bytes = .error u)
    (hsize : bytes.length ≤ blockSize) : ∃ w, ofBytes bytes = ⟨[], some (.undecodable w)⟩ := by
  have hfault : (decodeFrom 0 bytes).fault = some u := by
    unfold decode at h
    dsimp only at h
    split at h
    · cases h
    · next hf => rw [hf, Except.error.inj h]
  obtain ⟨text, n, w, hblocks, hn⟩ := exists_decodeBlocks hfault hsize
  refine ⟨w, ?_⟩
  rw [ofBytes, hblocks]
  exact ofText_of_early hn text _

end LineShell.Yaml.Source
