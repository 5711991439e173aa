import LineShell.Proofs.Config.Reload
import LineShell.Proofs.Yaml.Remarks
import LineShell.Proofs.Yaml.Source
import LineShell.Proofs.Yaml.Writing

/-!
# Loading what was saved

A saved configuration is a few remarks, of which one names the version, and the document of its
mapping (`ConfigStore.savedText`). The version stands in its remark as it is. If it does not end the
remark, or only goes on with others (`Config.fitsRemark`), what is in the file is read as the
document alone, and describes the configuration (`describes_of_fitsRemark`). That is what it takes
for the configuration to be loaded again from the file (`loadFile_of_saved_iff`).

The way back is put together from one fact for each layer: the bytes are read as the text that they
were written from, the remarks are skipped, the document is read back - which is where
`Yaml.ReadsBack` is needed -, and the mapping describes the same configuration.
-/

namespace LineShell

open Text Text.Utf8 Yaml

/-- Whether a version can stand in a remark: as it is read from a file, it has only characters that
a document may have, and each line of it but the first is blank or a remark of its own. -/
def Config.fitsRemark (version : String) : Bool :=
  let text := unifyNewlines version.toList
  isRemarks true text && text.all Source.isDocumentChar

namespace ConfigStore

variable {fs : Files} {c : Config} {st : ConfigStore} {file : Option String}

/-! ## The text of a saved configuration -/

/-- What stands in front of the version in a saved configuration. -/
def remarkHead : List Char := saveHeading.toList ++ "# Version: ".toList

theorem toList_savedText (h : writeFlaw? c.toValue = none) :
    (savedText c).toList =
      remarkHead ++ (c.version.toList ++ '\n' :: '\n' :: writeDocument c.toValue) := by
  have hnone : (writeFlaw? c.toValue).isNone = true := by rw [h]; rfl
  simp only [savedText, if_pos hnone, versionLine, remarkHead, String.toList_append,
    String.toList_ofList, List.append_assoc]
  rfl

/-- The line ends behind a text are two, or the first of them belongs to the text. -/
theorem unifyNewlines_twoLines (cs rest : List Char) : ∃ t, (t = [] ∨ t = ['\n']) ∧
    unifyNewlines (cs ++ '\n' :: '\n' :: rest) =
      unifyNewlines cs ++ t ++ '\n' :: unifyNewlines rest := by
  have hline (rest : List Char) : unifyNewlines ('\n' :: rest) = '\n' :: unifyNewlines rest := by
    rw [unifyNewlines_cons (.inl (by decide))]
    rfl
  -- a carriage return at the end takes the first line feed to itself
  by_cases h : cs.getLast? = some '\r'
  · obtain ⟨init, rfl⟩ := List.getLast?_eq_some_iff.1 h
    have hjoin (b : List Char) :
        unifyNewlines (init ++ '\r' :: b) = unifyNewlines init ++ unifyNewlines ('\r' :: b) :=
      unifyNewlines_append (.inr (by simp))
    refine ⟨[], .inl rfl, ?_⟩
    rw [List.append_assoc, List.singleton_append, hjoin, hjoin, unifyNewlines, hline,
      List.append_nil, List.append_assoc]
    rfl
  · refine ⟨['\n'], .inr rfl, ?_⟩
    rw [unifyNewlines_append (.inl h), hline, hline, List.append_assoc]
    rfl

/-- Behind the head of the remarks, the remark of the version begins. -/
theorem isRemarks_remarkHead (text : List Char) :
    isRemarks false (remarkHead ++ text) = isRemarks true text := by
  have hlines : remarkHead = '#' :: (" Interactive CLI Configuration".toList ++
      '\n' :: '#' :: (" Generated configuration file".toList ++
        '\n' :: '#' :: " Version: ".toList)) := by decide +kernel
  have hfirst (rest : List Char) : isRemarks false ('#' :: rest) = isRemarks true rest := rfl
  have hnext (rest : List Char) : isRemarks true ('\n' :: '#' :: rest) = isRemarks true rest := rfl
  have hskip (line : String) (hl : line.toList.all (!isBreak ·) = true) (rest : List Char) :
      isRemarks true (line.toList ++ rest) = isRemarks true rest :=
    isRemarks_append (fun x hx => by simpa using List.all_eq_true.1 hl x hx) rest
  rw [hlines, List.cons_append, List.append_assoc, List.cons_append, List.cons_append,
    List.append_assoc, List.cons_append, List.cons_append, hfirst, hskip _ (by decide), hnext,
    hskip _ (by decide), hnext, hskip _ (by decide)]

/-- A version that fits makes remarks in front of the document. -/
theorem exists_remarks (h : Config.fitsRemark c.version = true)
    (hw : writeFlaw? c.toValue = none) :
    ∃ text, unifyNewlines (savedText c).toList = text ++ '\n' :: writeDocument c.toValue ∧
      isRemarks false text = true ∧ (∀ x ∈ text, Source.isDocumentChar x = true) := by
  obtain ⟨hremark, hchars⟩ := Bool.and_eq_true_iff.1 h
  have hdump : '\r' ∉ writeDocument c.toValue := fun hr =>
    Bool.noConfusion (isOrdinary_of_mem_writeDocument c.toValue '\r' hr)
  have hhead : '\r' ∉ remarkHead ∧ remarkHead.getLast? ≠ some '\r' := by decide +kernel
  have hall : ∀ x ∈ remarkHead, Source.isDocumentChar x = true :=
    List.all_eq_true.1 (by decide +kernel)
  obtain ⟨t, ht, hu⟩ := unifyNewlines_twoLines c.version.toList (writeDocument c.toValue)
  refine ⟨remarkHead ++ (unifyNewlines c.version.toList ++ t), ?_, ?_, ?_⟩
  · rw [toList_savedText hw, unifyNewlines_append (.inl hhead.2), unifyNewlines_eq_self hhead.1, hu,
      unifyNewlines_eq_self hdump, List.append_assoc remarkHead]
  · rw [isRemarks_remarkHead]
    rcases ht with rfl | rfl
    · rw [List.append_nil]
      exact hremark
    · rw [isRemarks_append_break true rfl, hremark]
      rfl
  · intro x hx
    rcases List.mem_append.1 hx with hx | hx
    · exact hall x hx
    · rcases List.mem_append.1 hx with hx | hx
      · exact List.all_eq_true.1 hchars x hx
      · rcases ht with rfl | rfl
        · exact absurd hx List.not_mem_nil
        · rw [List.mem_singleton.1 hx]
          rfl

/-! ## The document in the file -/

/-- Whether the text of a saved configuration, remarks and document together, is the document of a
configuration with the same settings. -/
def Describes (path : String) (c : Config) : Prop :=
  ∃ w d, readDocument (Source.ofText (unifyNewlines (savedText c).toList) none) = .ok w ∧
    (ofDocument path w).1 = .ok d ∧ Config.Same c d

/-- An ordinary character may stand in a document. -/
theorem isDocumentChar_of_isOrdinary {x : Char} (h : isOrdinary x = true) :
    Source.isDocumentChar x = true := by
  rcases Bool.or_eq_true_iff.1 h with h | h
  · rw [eq_of_beq h]
    rfl
  · simp [Source.isDocumentChar, h]

/-- If the version fits, what is read from the text of a saved configuration is its document. -/
theorem readDocument_savedText (h : Config.fitsRemark c.version = true)
    (hw : writeFlaw? c.toValue = none) :
    readDocument (Source.ofText (unifyNewlines (savedText c).toList) none) =
      readDocument ⟨writeDocument c.toValue, none⟩ := by
  obtain ⟨text, htext, hremarks, hchars⟩ := exists_remarks h hw
  have hdump := isOrdinary_of_mem_writeDocument c.toValue
  have hclean : ∀ x ∈ text ++ '\n' :: writeDocument c.toValue,
      Source.isDocumentChar x = true := by
    intro x hx
    rcases List.mem_append.1 hx with hx | hx
    · exact hchars x hx
    · rcases List.mem_cons.1 hx with rfl | hx
      · rfl
      · exact isDocumentChar_of_isOrdinary (hdump x hx)
  have hr : '\r' ∉ text := by
    have hn := notMem_unifyNewlines (savedText c).toList
    rw [htext] at hn
    exact fun hr => hn (List.mem_append_left _ hr)
  have hmark : (writeDocument c.toValue).head? ≠ some orderMark := fun hm =>
    Bool.noConfusion (hdump orderMark (List.mem_of_head? hm))
  rw [htext, Source.ofText_clean hclean]
  exact readDocument_remarks hremarks hr rfl (by decide) hmark none

/-- A saved configuration whose version fits describes itself. -/
theorem describes_of_fitsRemark (h : Config.fitsRemark c.version = true)
    (hw : writeFlaw? c.toValue = none) (hy : ReadsBack c.toValue)
    (hlevel : Text.upper c.console.logLevel = c.console.logLevel) (path : String) :
    Describes path c := by
  obtain ⟨w, hread, hsame⟩ := hy
  obtain ⟨d, hd, hsame⟩ := exists_ofDocument hsame hlevel path
  refine ⟨w, d, ?_, ?_, hsame⟩
  · rw [readDocument_savedText h hw, hread]
  · rw [hd]

/-! ## Saving and loading -/

/-- What saving does when it succeeds: the directories are made, and the whole configuration is
written into the file. -/
theorem save_eq_true (hc : st.config = some c) (h : (st.save fs file).result = .ok true) :
    writeFlaw? c.toValue = none ∧ (st.save fs file).store = st ∧
      ∃ made, fs.makeDirs (st.target file).parent = .ok made ∧
        made.write (st.target file).render (bytesOf (savedText c)) =
          .ok (st.save fs file).files := by
  have hreport (message : String) (u : Files.Unfinished) :
      (reportWrite message u st).result ≠ .ok true := by
    unfold reportWrite
    split
    · intro h
      cases h
    · intro h
      cases h
  unfold save at h ⊢
  dsimp only at h ⊢
  rw [hc, Option.map_some, Option.getD_some] at h ⊢
  split at h
  · exact absurd h (hreport _ _)
  · next made hmade =>
    split at h
    · exact absurd h (hreport _ _)
    · next written hwritten =>
      cases hw : writeFlaw? c.toValue with
      | some w =>
        rw [saveFault?, hw] at h
        cases h
      | none =>
        rw [saveFault?, hw, hmade]
        exact ⟨rfl, rfl, made, rfl, hwritten⟩

/-- Saving lets files grow. -/
theorem grows_save (hc : st.config = some c) (h : (st.save fs file).result = .ok true) :
    Files.Grows fs (st.save fs file).files := by
  obtain ⟨_, _, made, hmade, hwritten⟩ := save_eq_true hc h
  have hdirs := Files.extends_makeDirs fs (st.target file).parent
  have hfile := Files.grows_write made (st.target file).render (bytesOf (savedText c))
  rw [hmade] at hdirs
  rw [hwritten] at hfile
  exact hdirs.grows.trans hfile

/-- The document in the file is that of the text that was saved. -/
theorem readFile_of_saved (hc : st.config = some c) (h : (st.save fs file).result = .ok true)
    (hf : (st.save fs file).files.isFile (st.target file).render = .ok true)
    (hr : ((st.save fs file).files.readBytes (st.target file).render).isOk = true) :
    readFile (st.save fs file).files (st.target file).render =
      (readDocument (Source.ofText (unifyNewlines (savedText c).toList) none)).mapError
        .document := by
  obtain ⟨_, _, made, _, hwritten⟩ := save_eq_true hc h
  rw [readFile, Files.readBytes_write hwritten hf hr]
  dsimp only
  rw [bytesOf, toList_data_toUTF8, Source.ofBytes_encode]

/-- **A configuration is loaded from the file that it was saved in if its text describes it, and
only then.** -/
theorem loadFile_of_saved_iff (hc : st.config = some c) (h : (st.save fs file).result = .ok true)
    (hf : (st.save fs file).files.isFile (st.target file).render = .ok true)
    (hr : ((st.save fs file).files.readBytes (st.target file).render).isOk = true)
    (hy : ReadsBack c.toValue) :
    (∃ d, (loadFile (st.save fs file).files (st.target file).render).1 = .ok d ∧
      Config.Same c d) ↔ Describes (st.target file).render c := by
  have hfile := readFile_of_saved hc h hf hr
  unfold loadFile
  constructor
  · rintro ⟨d, hd, hsame⟩
    cases hr : readDocument (Source.ofText (unifyNewlines (savedText c).toList) none) with
    | ok w =>
      rw [hfile, hr] at hd
      exact ⟨w, d, hr, hd, hsame⟩
    | error f =>
      -- the default has a version that fits, so its document would have been read
      rw [hfile, hr] at hd
      dsimp only [Except.mapError] at hd
      split at hd
      · obtain rfl := Except.ok.inj hd
        have hversion : c.version = "1.0" := hsame.version.symm
        have hfits : Config.fitsRemark c.version = true := by
          rw [hversion]
          decide
        obtain ⟨w, hread, _⟩ := hy
        rw [readDocument_savedText hfits (save_eq_true hc h).1, hread] at hr
        cases hr
      · cases hd
  · rintro ⟨w, d, hr, hd, hsame⟩
    refine ⟨d, ?_, hsame⟩
    rw [hfile, hr]
    exact hd

end ConfigStore

end LineShell
