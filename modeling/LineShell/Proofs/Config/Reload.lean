import LineShell.Config.Store
import LineShell.Proofs.Config.Checking
import LineShell.Proofs.Files.Growth
import LineShell.Proofs.Value.Datum

/-!
# From a configuration to its mapping and back

A configuration is written as the mapping `Config.toValue` and made from a mapping by
`ConfigStore.ofDocument`. What reading adds on the way - defaults for what is missing, texts for
what has to be one, upper case for the level - changes nothing that a configuration has that passes
its own check (`exists_ofDocument`), and the configuration that is made passes it as well
(`check_of_same`).

Values may lose their labels on the way, so settings are compared as data (`Config.Same`); texts and
variables are compared as they are, the variables in their order.
-/

namespace LineShell

/-- Whether two configurations have the same settings, and the same variables in the same order. -/
structure Config.Same (c d : Config) : Prop where
  version : d.version = c.version
  description : Value.Same c.description d.description
  prompt : Value.Same c.shell.prompt d.shell.prompt
  runAsync : Value.Same c.shell.runAsync d.shell.runAsync
  script : Value.Same c.shell.script d.shell.script
  echoScript : Value.Same c.shell.echoScript d.shell.echoScript
  builtins : Value.Same c.shell.builtins d.shell.builtins
  verbose : Value.Same c.console.verbose d.console.verbose
  quiet : Value.Same c.console.quiet d.console.quiet
  logLevel : d.console.logLevel = c.console.logLevel
  vars : d.vars = c.vars

namespace Config

variable {fs fs' : Files} {c d : Config} {v w : Value} {es : Entries}

/-! ## Passing the check -/

/-- A script that is there stays where it is. -/
theorem isFileAt_of_same (hs : Value.Same v w) (hg : Files.Grows fs fs')
    (h : isFileAt fs v = .ok true) : isFileAt fs' w = .ok true := by
  cases v with
  | str s =>
    obtain rfl := hs.eq_str
    have hf : fs.isFile (Path.ofString s).render = .ok true := by
      cases hr : fs.isFile (Path.ofString s).render with
      | error e =>
        rw [isFileAt, hr] at h
        cases h
      | ok found =>
        rw [isFileAt, hr] at h
        obtain rfl := Except.ok.inj h
        rfl
    rw [isFileAt, hg.isFile hf]
    rfl
  | _ => cases h

/-- **A configuration passes its check if one with the same settings passed before.** -/
theorem check_of_same (hs : Same c d) (hg : Files.Grows fs fs') (h : check fs c = .ok []) :
    check fs' d = .ok [] := by
  have hp := passes_of_check h
  refine check_of_passes ⟨?_, ?_, ?_, ?_, ?_⟩
  · have hprompt := hp.prompt
    have hsame := hs.prompt
    cases hv : c.shell.prompt with
    | str s =>
      rw [hv] at hsame
      rw [hsame.eq_str]
      rfl
    | _ => rw [hv] at hprompt; cases hprompt
  · rw [hs.logLevel]
    exact hp.level
  · rw [← hs.verbose.holds_eq, ← hs.quiet.holds_eq]
    exact hp.volume
  · rw [hs.vars]
    exact hp.names
  · intro hscript
    rw [← hs.script.holds_eq] at hscript
    exact isFileAt_of_same hs.script hg (hp.script hscript)

/-! ## From the mapping -/

/-- The level of a configuration that passes is in upper case already. -/
theorem upper_logLevel (h : Passes fs c) : Text.upper c.console.logLevel = c.console.logLevel := by
  obtain ⟨l, hl⟩ := exists_level h.level
  rw [hl, upper_name]

/-- The entries of variables, one for each. -/
theorem variableEntries_eq_map (vars : Assoc String String) :
    variableEntries vars = vars.entries.map fun p => (.str p.1, .str p.2) := rfl

/-- The variables of a configuration are read back in their order. -/
theorem variablesOf_variableEntries (vars : Assoc String String) :
    variablesOf? (variableEntries vars) = some vars := by
  have hall (l : List (String × String)) :
      (l.map fun p => (Value.str p.1, Value.str p.2)).mapM variableOf? = some l := by
    induction l with
    | nil => rfl
    | cons p l ih =>
      rw [List.map_cons, List.mapM_cons, ih]
      rfl
  rw [variablesOf?, variableEntries_eq_map, hall, Option.map_some, Assoc.ofList_entries]

/-- Entries that are the same as those of the settings of a shell are such. -/
theorem exists_shell_of_same {t : ShellSettings} (h : Value.SameEntries t.entries es) :
    ∃ u : ShellSettings, es = u.entries ∧ Value.Same t.prompt u.prompt ∧
      Value.Same t.runAsync u.runAsync ∧ Value.Same t.script u.script ∧
      Value.Same t.echoScript u.echoScript ∧ Value.Same t.builtins u.builtins := by
  obtain ⟨prompt, es, rfl, hprompt, h⟩ := h.exists_cons
  obtain ⟨runAsync, es, rfl, hasync, h⟩ := h.exists_cons
  obtain ⟨script, es, rfl, hscript, h⟩ := h.exists_cons
  obtain ⟨echoScript, es, rfl, hecho, h⟩ := h.exists_cons
  obtain ⟨builtins, es, rfl, hbuiltins, h⟩ := h.exists_cons
  obtain rfl := h.eq_nil
  exact ⟨⟨prompt, runAsync, script, echoScript, builtins⟩, rfl, hprompt, hasync, hscript, hecho,
    hbuiltins⟩

/-- Entries that are the same as those of the settings of a console are such. -/
theorem exists_console_of_same {t : ConsoleSettings} (h : Value.SameEntries t.entries es) :
    ∃ u : ConsoleSettings, es = u.entries ∧ Value.Same t.verbose u.verbose ∧
      Value.Same t.quiet u.quiet ∧ u.logLevel = t.logLevel := by
  obtain ⟨verbose, es, rfl, hverbose, h⟩ := h.exists_cons
  obtain ⟨quiet, es, rfl, hquiet, h⟩ := h.exists_cons
  obtain ⟨level, es, rfl, hlevel, h⟩ := h.exists_cons
  obtain rfl := h.eq_nil
  obtain rfl := hlevel.eq_str
  exact ⟨⟨verbose, quiet, t.logLevel⟩, rfl, hverbose, hquiet, rfl⟩

/-- Entries that are the same as those of variables are the same variables. -/
theorem eq_of_same_variableEntries {vars : Assoc String String}
    (h : Value.SameEntries (variableEntries vars) es) : es = variableEntries vars := by
  have hall (l : List (String × String)) {es : Entries}
      (h : Value.SameEntries (l.map fun p => (Value.str p.1, Value.str p.2)) es) :
      es = l.map fun p => (Value.str p.1, Value.str p.2) := by
    induction l generalizing es with
    | nil => exact h.eq_nil
    | cons p l ih =>
      obtain ⟨w, rest, rfl, hw, hrest⟩ := h.exists_cons
      rw [hw.eq_str, ih hrest]
      rfl
  exact hall vars.entries h

/-- The entries of a configuration, when its sections have labels. -/
def labelledEntries (shell console vars : Option Nat) (c : Config) : Entries :=
  [(.str "config_version", .str c.version), (.str "description", c.description),
    (.str "shell", .map shell c.shell.entries), (.str "console", .map console c.console.entries),
    (.str "variables", .map vars (variableEntries c.vars))]

/-- A mapping that is the same as that of a configuration describes one with the same settings. -/
theorem exists_labelled_of_same (h : Value.Same c.toValue w) :
    ∃ l l₁ l₂ l₃ d, w = .map l (labelledEntries l₁ l₂ l₃ d) ∧ Same c d := by
  obtain ⟨l, es, rfl, hes⟩ := h.exists_map
  obtain ⟨_, es, rfl, hversion, hes⟩ := hes.exists_cons
  obtain ⟨description, es, rfl, hdescription, hes⟩ := hes.exists_cons
  obtain ⟨_, es, rfl, hshell, hes⟩ := hes.exists_cons
  obtain ⟨_, es, rfl, hconsole, hes⟩ := hes.exists_cons
  obtain ⟨_, es, rfl, hvars, hes⟩ := hes.exists_cons
  obtain rfl := hes.eq_nil
  obtain rfl := hversion.eq_str
  obtain ⟨l₁, _, rfl, hs⟩ := hshell.exists_map
  obtain ⟨l₂, _, rfl, hk⟩ := hconsole.exists_map
  obtain ⟨l₃, _, rfl, hv⟩ := hvars.exists_map
  obtain ⟨shell, rfl, hprompt, hasync, hscript, hecho, hbuiltins⟩ := exists_shell_of_same hs
  obtain ⟨console, rfl, hverbose, hquiet, hlevel⟩ := exists_console_of_same hk
  obtain rfl := eq_of_same_variableEntries hv
  exact ⟨l, l₁, l₂, l₃, ⟨shell, console, c.vars, c.version, description⟩, rfl, rfl, hdescription,
    hprompt, hasync, hscript, hecho, hbuiltins, hverbose, hquiet, hlevel, rfl⟩

/-- A configuration is made from its own entries, if its level is in upper case. -/
theorem ofEntries_labelledEntries (l₁ l₂ l₃ : Option Nat)
    (h : Text.upper c.console.logLevel = c.console.logLevel) :
    ofEntries? (labelledEntries l₁ l₂ l₃ c) = some c := by
  have hconsole : ConsoleSettings.ofEntries? c.console.entries = some c.console := by
    have hmade : ConsoleSettings.ofEntries? c.console.entries =
        some { c.console with logLevel := Text.upper c.console.logLevel } := rfl
    rw [hmade, h]
  simp [labelledEntries, ofEntries?, section?, Value.find?, hconsole, variablesOf_variableEntries]

/-- The entries of a configuration have a text where one is needed, since they are texts there. -/
theorem flawIn?_labelledEntries (l₁ l₂ l₃ : Option Nat) (c : Config) :
    flawIn? (labelledEntries l₁ l₂ l₃ c) = none := by
  have hspelled : spelled (labelledEntries l₁ l₂ l₃ c) = .str c.version ::
      .str c.console.logLevel :: (variableEntries c.vars).flatMap fun e => [e.1, e.2] := rfl
  rw [flawIn?, hspelled, List.findSome?_eq_none_iff]
  intro w hw
  obtain ⟨s, rfl⟩ : ∃ s, w = .str s := by
    rw [List.mem_cons, List.mem_cons, List.mem_flatMap] at hw
    obtain rfl | rfl | ⟨e, he, hw⟩ := hw
    · exact ⟨_, rfl⟩
    · exact ⟨_, rfl⟩
    · obtain ⟨p, -, rfl⟩ := List.mem_map.1 he
      rw [List.mem_cons, List.mem_singleton] at hw
      obtain rfl | rfl := hw <;> exact ⟨_, rfl⟩
  rfl

/-- Entries of data are as they are by themselves. -/
theorem entriesIn_of_data {l : Option Nat} {ds : List (String × Datum)}
    (h : Value.entryData? es = some ds) : entriesIn (.map l es) = es := by
  have hopen (es : Entries) {ds : List (String × Datum)} (h : Value.entryData? es = some ds) :
      es.map openSection = es := by
    induction es generalizing ds with
    | nil => rfl
    | cons e es ih =>
      obtain ⟨key, v⟩ := e
      obtain ⟨k, d, rest, _, hkey, hd, hrest⟩ := Value.entryData?_cons_eq_some h
      obtain rfl : key = .str k := hkey
      rw [List.map_cons, ih hrest]
      cases v with
      | map m inner =>
        rw [openSection, Value.parts_of_isTree (Value.isTree_of_datum _ hd), ite_self]
      | _ => rfl
  rw [entriesIn, Value.parts_of_isTree (Value.entriesAreTrees_of_data es h), hopen es h]

end Config

namespace ConfigStore

variable {c : Config} {w : Value}

/-- **A configuration is read back from data that are the same as its mapping.** -/
theorem exists_ofDocument (h : Value.Same c.toValue w)
    (hlevel : Text.upper c.console.logLevel = c.console.logLevel) (path : String) :
    ∃ d, ofDocument path w = (.ok d, []) ∧ Config.Same c d := by
  obtain ⟨l, l₁, l₂, l₃, d, rfl, hsame⟩ := Config.exists_labelled_of_same h
  -- the labels that reading gives do not lead anywhere
  have hentries : Config.entriesIn (.map l (Config.labelledEntries l₁ l₂ l₃ d)) =
      Config.labelledEntries l₁ l₂ l₃ d := by
    obtain ⟨_, _, hw⟩ := h
    obtain ⟨ds, hds, _⟩ := Option.map_eq_some_iff.1 hw
    exact Config.entriesIn_of_data hds
  have hknown : unknownKeys path (Config.labelledEntries l₁ l₂ l₃ d) = [] := rfl
  -- reading raises the level to upper case, where it is already
  have hmade := Config.ofEntries_labelledEntries l₁ l₂ l₃ (by rw [hsame.logLevel]; exact hlevel)
  refine ⟨d, ?_, hsame⟩
  have hholds : (Value.map l (Config.labelledEntries l₁ l₂ l₃ d)).holds = true := rfl
  unfold ofDocument
  rw [if_pos hholds]
  simp only [hentries, hknown, hmade, Config.flawIn?_labelledEntries]

end ConfigStore

end LineShell
