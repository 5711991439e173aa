import LineShell.Config.Check

/-!
# What a check comes to

A check that does not fail lists its objections in three parts: to the settings, to the names of
variables, and to the script (`check_eq_ok`). A configuration passes if there is nothing to object
to in any of them (`Passes`); a configuration in which all is well but for the volume of its console
gets the one objection to that (`check_of_rest`).
-/

namespace LineShell.Config

variable {fs : Files} {c : Config}

/-! ## Objections that apply -/

theorem applying_eq_nil_iff {os : List (Bool × Objection)} :
    applying os = [] ↔ ∀ o ∈ os, o.1 = false := by
  simp [applying, List.filterMap_eq_nil_iff]

theorem mem_applying {os : List (Bool × Objection)} {o : Objection} :
    o ∈ applying os ↔ (true, o) ∈ os := by
  simp only [applying, List.mem_filterMap, Option.ite_none_right_eq_some, Option.some.injEq]
  constructor
  · rintro ⟨⟨applies, o'⟩, ho, rfl, rfl⟩
    exact ho
  · exact fun ho => ⟨(true, o), ho, rfl, rfl⟩

/-- The objections to the settings, each with whether it applies. -/
def settingObjections (c : Config) : List (Bool × Objection) :=
  [(!c.shell.prompt.isStr, .prompt c.shell.prompt.literal),
    ((Log.Level.ofName? c.console.logLevel).isNone, .level c.console.logLevel),
    (c.console.verbose.holds && c.console.quiet.holds, .loudAndQuiet)]

/-- The objections to the names of variables. -/
def nameObjections (c : Config) : List Objection :=
  (c.vars.keys.filter fun n => !isVariableName n).map .name

/-- What a check comes to that does not fail. -/
theorem check_eq_ok {os : List Objection} (h : check fs c = .ok os) :
    ∃ found : Bool, os = applying c.settingObjections ++ c.nameObjections ++
        applying [(!found, .script c.shell.script.display)] ∧
      (c.shell.script.holds = true → isFileAt fs c.shell.script = .ok found) ∧
      (c.shell.script.holds = false → found = true) := by
  unfold check at h
  dsimp only at h
  split at h
  · cases h
  · split at h
    · next hs =>
      cases hf : isFileAt fs c.shell.script with
      | error f => rw [hf] at h; cases h
      | ok found =>
        rw [hf] at h
        exact ⟨found, (Except.ok.inj h).symm, fun _ => rfl, fun hn => by rw [hs] at hn; cases hn⟩
    · next hs =>
      refine ⟨true, ?_, fun h => absurd h hs, fun _ => rfl⟩
      rw [← Except.ok.inj h]
      exact (List.append_nil _).symm

/-! ## Passing -/

/-- When a configuration passes its check. -/
structure Passes (fs : Files) (c : Config) : Prop where
  prompt : c.shell.prompt.isStr = true
  level : (Log.Level.ofName? c.console.logLevel).isSome = true
  volume : (c.console.verbose.holds && c.console.quiet.holds) = false
  names : ∀ n ∈ c.vars.keys, isVariableName n = true
  script : c.shell.script.holds = true → isFileAt fs c.shell.script = .ok true

/-- A configuration without objections passes. -/
theorem passes_of_check (h : check fs c = .ok []) : Passes fs c := by
  obtain ⟨found, hnil, hscript, -⟩ := check_eq_ok h
  rw [eq_comm, List.append_eq_nil_iff, List.append_eq_nil_iff] at hnil
  obtain ⟨⟨hsettings, hnames⟩, hfound⟩ := hnil
  have hall := applying_eq_nil_iff.1 hsettings
  simp only [settingObjections, List.forall_mem_cons] at hall
  obtain ⟨hprompt, hlevel, hvolume, -⟩ := hall
  refine ⟨by simpa using hprompt, by simpa using hlevel, hvolume, ?_, ?_⟩
  · intro n hn
    have hnone := List.filter_eq_nil_iff.1 (List.map_eq_nil_iff.1 hnames) n hn
    simpa using hnone
  · intro hs
    have hthere := applying_eq_nil_iff.1 hfound _ List.mem_cons_self
    simp only [Bool.not_eq_false'] at hthere
    rw [hscript hs, hthere]

/-- Where nothing else is wrong, there is the volume to object to, or nothing. -/
theorem check_of_rest (hprompt : c.shell.prompt.isStr = true)
    (hlevel : (Log.Level.ofName? c.console.logLevel).isSome = true)
    (hnames : ∀ n ∈ c.vars.keys, isVariableName n = true)
    (hscript : c.shell.script.holds = true → isFileAt fs c.shell.script = .ok true) :
    check fs c =
      .ok (if c.console.verbose.holds && c.console.quiet.holds then [.loudAndQuiet] else []) := by
  have hsettings : applying c.settingObjections =
      if c.console.verbose.holds && c.console.quiet.holds then [.loudAndQuiet] else [] := by
    have hlevel' : (Log.Level.ofName? c.console.logLevel).isNone = false := by simpa using hlevel
    rw [settingObjections, hprompt, hlevel']
    cases c.console.verbose.holds && c.console.quiet.holds <;> rfl
  have hnone : c.nameObjections = [] := by
    rw [nameObjections, List.map_eq_nil_iff, List.filter_eq_nil_iff]
    intro n hn
    simp [hnames n hn]
  have hw : c.shell.prompt.flaw? = none := by
    cases hv : c.shell.prompt with
    | str s => rfl
    | _ => rw [hv] at hprompt; cases hprompt
  unfold check
  dsimp only
  rw [hw, ← settingObjections, ← nameObjections, hsettings, hnone]
  dsimp only
  split
  · next hs =>
    rw [hscript hs]
    simp [Except.map, applying]
  · simp

/-- There are no objections to a configuration that passes. -/
theorem check_of_passes (h : Passes fs c) : check fs c = .ok [] := by
  rw [check_of_rest h.prompt h.level h.names h.script, h.volume]
  rfl

/-! ## Levels -/

theorem exists_level (h : (Log.Level.ofName? c.console.logLevel).isSome = true) :
    ∃ l : Log.Level, c.console.logLevel = l.name := by
  obtain ⟨l, hl⟩ := Option.isSome_iff_exists.1 h
  have hname : l.name = c.console.logLevel := by simpa using List.find?_some hl
  exact ⟨l, hname.symm⟩

/-- The name of a level is in upper case already. -/
theorem upper_name (l : Log.Level) : Text.upper l.name = l.name := by
  cases l <;> decide

end LineShell.Config
