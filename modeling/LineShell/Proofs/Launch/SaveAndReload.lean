import LineShell.Launch.Setup
import LineShell.Proofs.Config.Saving
import LineShell.Proofs.Options.Appended
import Mathlib.Control.Monad.Basic

/-!
# Setting up from what was saved

Setting up may save its configuration into a file. Whether setting up again from that file comes to
the same configuration (`Returns`) depends on nothing but the text that was saved: the command line
names the file in both runs (`saves_of_run`), the files have only grown in between, and the
configuration that is loaded passes the check because the one that was saved did
(`ready_iff_of_present`).

* If the version fits into the remark in front of the document, the configuration returns.
* `bracketed` has a version that does not fit. What follows its line end is taken for a part of the
  document, which then is none, and the next run falls back on the default configuration.
-/

namespace LineShell.Setup

variable {fs : Files} {args : List String} {file : String} {c : Config} {st : ConfigStore}
  {o : Options}

/-! ## The run that saves -/

/-- A line is not a record. -/
theorem line_notMem_logged (text : String) (log : List Log.Record) : line text ∉ logged log := by
  intro h
  obtain ⟨_, _, h⟩ := List.mem_map.1 h
  cases h

/-- What setting up does when it comes to a configuration and says that it has saved it. -/
structure Saves (fs : Files) (file : String) (c : Config) (r : Result) : Prop where
  passed : Config.check fs c = .ok []
  saved : ∃ s : ConfigStore, s.config = some c ∧ (s.save fs (some file)).result = .ok true ∧
    (s.save fs (some file)).files = r.files

/-- What was said to be saved has been saved. -/
theorem saved_of_line {name : Option String} {d : Config} {st' : ConfigStore} {text : String}
    {log : List Log.Record} (h : (saveTo name d st fs (logged log)).result = .ok (.ready c st'))
    (hs : line text ∈ (saveTo name d st fs (logged log)).events) :
    d = c ∧ ∃ n, name = some n ∧ (st.save fs (some n)).result = .ok true ∧
      (st.save fs (some n)).files = (saveTo name d st fs (logged log)).files := by
  cases name with
  | none => exact absurd hs (line_notMem_logged _ _)
  | some n =>
    unfold saveTo at h hs ⊢
    dsimp only at h hs ⊢
    split at h
    · cases h
    · next saved hr =>
      obtain ⟨⟨rfl, rfl⟩⟩ := h
      rw [hr] at hs
      cases saved with
      | true => exact ⟨rfl, n, rfl, hr, rfl⟩
      | false =>
        dsimp only at hs
        rw [if_neg (by decide), List.append_nil] at hs
        rcases List.mem_append.1 hs with hs | hs
        · exact absurd hs (line_notMem_logged _ _)
        · exact absurd hs (line_notMem_logged _ _)

/-- A configuration with options over it is the present one. -/
theorem config_override (h : (st.override fs o).result = .ok c) :
    (st.override fs o).store.config = some c := by
  unfold ConfigStore.override at h ⊢
  generalize (st.config.getD {}).override o = r at h ⊢
  obtain ⟨d, fault⟩ := r
  cases fault with
  | none =>
    obtain rfl := Except.ok.inj h
    rfl
  | some f => cases h

/-- A configuration that setting up comes to and saves has passed its check. -/
theorem saves_of_configure {text : String} (h : (configure fs o).result = .ok (.ready c st))
    (hs : line text ∈ (configure fs o).events) :
    ∃ file, operandText o.saveConfig = some file ∧ Saves fs file c (configure fs o) := by
  unfold configure at h hs ⊢
  dsimp only at h hs ⊢
  split at h
  · cases h
  · next hl =>
    rw [hl] at hs
    split at h
    · cases h
    · cases h
    · next d ha hcheck =>
      rw [ha, hcheck] at hs
      obtain ⟨rfl, file, hname, hsaved, hfiles⟩ := saved_of_line h hs
      have hconfig := config_override ha
      refine ⟨file, hname, ?_, _, hconfig, hsaved, hfiles⟩
      rw [ConfigStore.check, ConfigStore.require, hconfig] at hcheck
      exact hcheck
    · cases h

/-! ## The run that loads -/

/-- A name that is not empty is the name of a file. -/
theorem nonEmpty_some (h : file ≠ "") : ConfigStore.nonEmpty (some file) = some file := by
  simpa [ConfigStore.nonEmpty] using h

/-- The command line that names a file to load. -/
theorem parse_config (h : file ≠ "--") (hc : Options.classify file = .ok .plain) :
    Options.parse ["-c", file] = .ok { config := some (.text file) } :=
  @Options.parse_pair "-c" file .config List.mem_cons_self rfl h hc

/-- What loading a file that is present gives. -/
theorem load_of_present (hne : file ≠ "")
    (hp : fs.present (Path.ofString file).render = .ok true) :
    (ConfigStore.load fs (some file) {}).result =
        (ConfigStore.loadFile fs (Path.ofString file).render).1 ∧
      ∀ d, (ConfigStore.load fs (some file) {}).result = .ok d →
        (ConfigStore.load fs (some file) {}).store.config = some d := by
  unfold ConfigStore.load
  simp only [nonEmpty_some hne, Option.some_or, hp]
  unfold ConfigStore.take
  generalize ConfigStore.loadFile fs (Path.ofString file).render = r
  obtain ⟨result, log⟩ := r
  cases result with
  | error f =>
    refine ⟨rfl, ?_⟩
    intro d hd
    cases hd
  | ok d =>
    refine ⟨rfl, ?_⟩
    intro e he
    obtain rfl := Except.ok.inj he
    rfl

/-- Setting up from a file that is present comes to the configuration that is loaded from it, if
that passes the check. -/
theorem ready_iff_of_present
    (h : Options.parse ["-c", file] = .ok { config := some (.text file) }) (hne : file ≠ "")
    (hp : fs.present (Path.ofString file).render = .ok true) :
    (∃ st', (run fs ["-c", file]).result = .ok (.ready c st')) ↔
      (ConfigStore.loadFile fs (Path.ofString file).render).1 = .ok c ∧
        Config.check fs c = .ok [] := by
  obtain ⟨hload, hstore⟩ := load_of_present hne hp
  have hname : operandText (some (.text file)) = some file := by
    simpa [operandText, Operand.nonEmpty?] using hne
  have hrun : run fs ["-c", file] = configure fs { config := some (.text file) } := by
    rw [run, h]
    rfl
  rw [hrun, ← hload]
  unfold configure
  simp only [hname]
  generalize ConfigStore.load fs (some file) {} = a at hstore ⊢
  cases hr : a.result with
  | error f =>
    constructor
    · rintro ⟨_, h⟩
      cases h
    · rintro ⟨h, _⟩
      cases h
  | ok d =>
    have hover : a.store.override fs { config := some (.text file) } =
        ⟨.ok d, { a.store with config := some d }, fs, []⟩ := by
      rw [ConfigStore.override, hstore d hr]
      rfl
    have hcheck : ConfigStore.check fs { a.store with config := some d } = Config.check fs d := rfl
    simp only [hover, hcheck]
    cases hk : Config.check fs d with
    | error f =>
      constructor
      · rintro ⟨_, h⟩
        cases h
      · rintro ⟨h, hpass⟩
        obtain rfl := Except.ok.inj h
        cases hk.symm.trans hpass
    | ok objections =>
      cases objections with
      | nil =>
        constructor
        · rintro ⟨_, h⟩
          obtain ⟨⟨rfl, _⟩⟩ := h
          exact ⟨rfl, hk⟩
        · rintro ⟨h, _⟩
          obtain rfl := Except.ok.inj h
          exact ⟨_, rfl⟩
      | cons first more =>
        constructor
        · rintro ⟨_, h⟩
          cases h
        · rintro ⟨h, hpass⟩
          obtain rfl := Except.ok.inj h
          cases hk.symm.trans hpass

/-! ## Both runs -/

/-- Whether setting up from a file comes to a configuration with the same settings. -/
def Returns (fs : Files) (file : String) (c : Config) : Prop :=
  ∃ d st, (run fs ["-c", file]).result = .ok (.ready d st) ∧ Config.Same c d

/-- A text that an operand is given as is not empty. -/
theorem eq_of_operandText {x : String} (h : operandText (some (.text file)) = some x) :
    x = file ∧ file ≠ "" := by
  unfold operandText Operand.nonEmpty? at h
  dsimp only at h
  split at h
  · cases h
  · next hne =>
    obtain rfl := Option.some.inj h
    exact ⟨rfl, by simpa using hne⟩

/-- A command line that asks for saving in the end: the file that it names can be named to be
loaded, and setting up saves there if it comes to a configuration and says so. -/
theorem saves_of_run {text : String}
    (h : (run fs (args ++ ["--save-config", file])).result = .ok (.ready c st))
    (hs : line text ∈ (run fs (args ++ ["--save-config", file])).events) :
    Options.parse ["-c", file] = .ok { config := some (.text file) } ∧ file ≠ "" ∧
      Saves fs file c (run fs (args ++ ["--save-config", file])) := by
  unfold run at h hs ⊢
  split at h
  · cases h
  · next o hparse =>
    rw [hparse] at hs
    obtain ⟨hdashes, hplain, before, hset⟩ :=
      @Options.parse_append args "--save-config" file o .saveConfig List.mem_cons_self rfl hparse
    have hfile : o.saveConfig = some (.text file) := by rw [← Except.ok.inj hset]
    split at h
    · unfold sample at h
      dsimp only at h
      split at h
      · cases h
      · cases h
      · cases h
    · next hname =>
      dsimp only at hs
      rw [hname] at hs
      obtain ⟨other, hother, hsaves⟩ := saves_of_configure h hs
      rw [hfile] at hother
      obtain ⟨rfl, hne⟩ := eq_of_operandText hother
      exact ⟨parse_config hdashes hplain, hne, hsaves⟩

/-- **The run after one that saved its configuration comes to the same configuration** if the
version fits into a remark, and in any case just if the text that was saved describes the
configuration. What was named to be saved in is a file and no device, and it may be read. -/
theorem returns_of_saved (h : (run fs (args ++ ["--save-config", file])).result = .ok (.ready c st))
    (hs : line s!"Configuration saved to: {file}" ∈
      (run fs (args ++ ["--save-config", file])).events)
    (hf : (run fs (args ++ ["--save-config", file])).files.isFile (Path.ofString file).render =
      .ok true)
    (hr : ((run fs (args ++ ["--save-config", file])).files.readBytes
      (Path.ofString file).render).isOk = true) (hy : Yaml.ReadsBack c.toValue) :
    (Config.fitsRemark c.version = true →
      Returns (run fs (args ++ ["--save-config", file])).files file c) ∧
    (Returns (run fs (args ++ ["--save-config", file])).files file c ↔
      ConfigStore.Describes (Path.ofString file).render c) := by
  obtain ⟨hparse, hne, hpassed, s, hc, hsaved, hfiles⟩ := saves_of_run h hs
  rw [← hfiles] at hf hr ⊢
  have htarget : s.target (some file) = Path.ofString file := by
    rw [ConfigStore.target, nonEmpty_some hne]
  -- from here on only the file counts, and neither command line
  have hload := ConfigStore.loadFile_of_saved_iff hc hsaved (htarget ▸ hf) (htarget ▸ hr) hy
  rw [htarget] at hload
  have hpresent := Files.present_of_isFile hf
  have hiff : Returns (s.save fs (some file)).files file c ↔
      ConfigStore.Describes (Path.ofString file).render c := by
    rw [← hload]
    constructor
    · rintro ⟨d, st', hready, hsame⟩
      obtain ⟨hd, _⟩ := (ready_iff_of_present hparse hne hpresent).1 ⟨st', hready⟩
      exact ⟨d, hd, hsame⟩
    · rintro ⟨d, hd, hsame⟩
      -- a script that was there for the check is still there, since files only grow
      have hcheck := Config.check_of_same hsame (ConfigStore.grows_save hc hsaved) hpassed
      obtain ⟨st', hready⟩ := (ready_iff_of_present hparse hne hpresent).2 ⟨hd, hcheck⟩
      exact ⟨d, st', hready, hsame⟩
  refine ⟨fun hv => hiff.2 ?_, hiff⟩
  exact ConfigStore.describes_of_fitsRemark hv (ConfigStore.save_eq_true hc hsaved).1 hy
    (Config.upper_logLevel (Config.passes_of_check hpassed)) _

/-- Whether setting up comes to a configuration that passes a test. -/
def Result.comesTo (r : Result) (test : Config → Bool) : Bool :=
  match r.result with
  | .ok (.ready c _) => test c
  | _ => false

theorem Result.exists_of_comesTo {r : Result} {test : Config → Bool} (h : r.comesTo test = true) :
    ∃ c st, r.result = .ok (.ready c st) ∧ test c = true := by
  unfold comesTo at h
  split at h
  · next c st hr => exact ⟨c, st, hr, h⟩
  · cases h

/-- A prompt that has to be put between quotes and two variables are there again in the next run. -/
theorem returns_of_saved_options :
    ∃ c st, (run ∅ (["--prompt", "a: b", "-D", "x=1: y", "-D", "a="] ++
        ["--save-config", "saved.yaml"])).result = .ok (.ready c st) ∧
      Returns (run ∅ (["--prompt", "a: b", "-D", "x=1: y", "-D", "a="] ++
        ["--save-config", "saved.yaml"])).files "saved.yaml" c := by
  have hc : (run ∅ (["--prompt", "a: b", "-D", "x=1: y", "-D", "a="] ++
      ["--save-config", "saved.yaml"])).comesTo
        (fun c => Config.fitsRemark c.version && Yaml.isReadBack c.toValue) = true := by
    decide +kernel
  obtain ⟨c, st, h, htest⟩ := Result.exists_of_comesTo hc
  obtain ⟨hv, hy⟩ := Bool.and_eq_true_iff.1 htest
  have hreturns := returns_of_saved h (by decide +kernel) (by decide +kernel) (by decide +kernel)
    (Yaml.readsBack_of_isReadBack hy)
  exact ⟨c, st, h, hreturns.1 hv⟩

/-! ## A version that does not fit -/

/-- Files with a configuration whose version goes on behind a line end. -/
def bracketed : Files :=
  (∅ : Files).put ["a.yaml"]
    (.file (ConfigStore.bytesOf "config_version: \"2\\nextra: [\"\n"))

/-- The configuration is saved, and its own document would be read back; but the next run does not
come to it. -/
theorem not_returns_of_bracketed :
    ∃ c st, (run bracketed (["-c", "a.yaml"] ++ ["--save-config", "b.yaml"])).result =
        .ok (.ready c st) ∧
      line "Configuration saved to: b.yaml" ∈
        (run bracketed (["-c", "a.yaml"] ++ ["--save-config", "b.yaml"])).events ∧
      (run bracketed (["-c", "a.yaml"] ++ ["--save-config", "b.yaml"])).files.isFile
        (Path.ofString "b.yaml").render = .ok true ∧
      Yaml.ReadsBack c.toValue ∧
      ¬Returns (run bracketed (["-c", "a.yaml"] ++ ["--save-config", "b.yaml"])).files "b.yaml"
        c := by
  have hc : (run bracketed (["-c", "a.yaml"] ++ ["--save-config", "b.yaml"])).comesTo
      (fun c => c.version != "1.0" && Yaml.isReadBack c.toValue) = true := by decide +kernel
  have hd : (run (run bracketed (["-c", "a.yaml"] ++ ["--save-config", "b.yaml"])).files
      ["-c", "b.yaml"]).comesTo (fun d => d.version == "1.0") = true := by decide +kernel
  obtain ⟨c, st, h, htest⟩ := Result.exists_of_comesTo hc
  obtain ⟨hv, hy⟩ := Bool.and_eq_true_iff.1 htest
  refine ⟨c, st, h, by decide +kernel, by decide +kernel, Yaml.readsBack_of_isReadBack hy, ?_⟩
  rintro ⟨d, st', hready, hsame⟩
  obtain ⟨e, _, he, hdefault⟩ := Result.exists_of_comesTo hd
  obtain ⟨⟨rfl, _⟩⟩ := Except.ok.inj (hready.symm.trans he)
  rw [bne_iff_ne] at hv
  rw [beq_iff_eq, hsame.version] at hdefault
  exact hv hdefault

end LineShell.Setup
