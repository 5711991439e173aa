import LineShell.Proofs.Config.Overriding

/-!
# Options against a configuration

Options go before what a configuration says, setting by setting. But verbose, quiet and the level
are one matter in three settings, and options can only raise flags. So a flag that a configuration
has raised stays up whatever the options say: it can clash with the other flag, and it can hide the
level that an option has chosen. Both are told here exactly: when options that pass by themselves
pass over a configuration that passes (`Config.clashes`), and when the console then shows what the
options ask for (`Config.yields`).

## How the proofs go

Overriding is a record update, once all definitions have a text (`override_eq_ok`). Apart from the
volume, each part of the outcome is one of the configuration or one that the options would also give
to the default configuration (`check_overridden`). What the console shows is read off three flags
and two levels (`rank_of_level`).
-/

namespace LineShell.Config

variable {fs : Files} {c d : Config} {o : Options}

/-! ## What overriding comes to -/

/-- The variables that options define, in their order. -/
def defined (o : Options) : List (String × String) := o.definitions.filterMap Operand.definition?

/-- A configuration with all options over it. -/
def overridden (c : Config) (o : Options) : Config :=
  { c with
    shell := overrideShell o c.shell
    console := overrideConsole o c.console
    vars := c.vars.insertAll (defined o) }

/-- Overriding does not fail exactly if every definition has a text. -/
theorem override_eq_ok : c.override o = (d, none) ↔
    o.definitions.all (fun d => d.definition?.isSome) = true ∧ d = c.overridden o := by
  obtain ⟨ds, h | ⟨rest, h⟩⟩ := Definition.all_or_cut o.definitions
  · have hdefined : defined o = ds.map Definition.pair := by
      rw [defined, h, List.filterMap_map, ← List.filterMap_eq_map]
      exact congrArg (List.filterMap · ds) (funext Definition.definition?_operand)
    have hall : o.definitions.all (fun d => d.definition?.isSome) = true := by
      simp [h, Definition.definition?_operand]
    rw [override_defining h, overridden, hdefined]
    simp [hall, eq_comm]
  · rw [override_cut h]
    simp [h, Operand.definition?]

theorem holds_raise (given : Bool) (v : Value) : (raise given v).holds = (given || v.holds) := by
  cases given <;> rfl

/-! ## Passing -/

/-- Whether options and a configuration raise one of the flags each. -/
def clashes (c : Config) (o : Options) : Bool :=
  c.console.verbose.holds && o.quiet || c.console.quiet.holds && o.verbose

/-- The level that options choose, if they do. -/
def chosenLevel (o : Options) : Option String :=
  (o.logLevel.bind Operand.nonEmpty?).map Text.upper

theorem volume_overridden (hc : (c.console.verbose.holds && c.console.quiet.holds) = false)
    (ho : (o.verbose && o.quiet) = false) :
    ((c.overridden o).console.verbose.holds && (c.overridden o).console.quiet.holds) =
      c.clashes o := by
  have hall : ∀ v q v' q' : Bool, (v && q) = false → (v' && q') = false →
      ((v' || v) && (q' || q)) = (v && q' || q && v') := by decide
  simp only [overridden, overrideConsole, holds_raise, clashes]
  exact hall _ _ _ _ hc ho

/-- Options that pass over the default configuration pass over every configuration that passes, but
for the volume. -/
theorem check_overridden (hc : Passes fs c) (hd : Passes fs (overridden {} o)) :
    check fs (c.overridden o) = .ok (if c.clashes o then [.loudAndQuiet] else []) := by
  have hgiven : (o.verbose && o.quiet) = false := by
    have hvolume := hd.volume
    simp only [overridden, overrideConsole, holds_raise] at hvolume
    simpa [Value.holds] using hvolume
  rw [← volume_overridden hc.volume hgiven]
  -- every other part is the configuration's own, or the one that the options give to any
  refine check_of_rest ?prompt ?level ?names ?script
  case prompt =>
    have hprompt := hd.prompt
    simp only [overridden, overrideShell] at hprompt ⊢
    cases hp : o.prompt with
    | none => exact hc.prompt
    | some p => rwa [hp] at hprompt
  case level =>
    have hlevel := hd.level
    simp only [overridden, overrideConsole] at hlevel ⊢
    cases hl : o.logLevel.bind Operand.nonEmpty? with
    | none => exact hc.level
    | some l => rwa [hl] at hlevel
  case names =>
    intro n hn
    rcases Assoc.mem_keys_insertAll.1 hn with hn | hn
    · exact hc.names n hn
    · exact hd.names n (Assoc.mem_keys_insertAll.2 (.inr hn))
  case script =>
    have hscript := hd.script
    simp only [overridden, overrideShell] at hscript ⊢
    cases hs : o.script.bind Operand.nonEmpty? with
    | none => exact hc.script
    | some path => rwa [hs] at hscript

/-! ## What the console shows -/

/-- The rank of what a console shows whose level is one of the levels. -/
theorem rank_of_level {c : ConsoleSettings} {l : Log.Level} (h : c.logLevel = l.name) :
    c.rank = .ok (if c.verbose.holds then Log.Level.debug.rank
      else if c.quiet.holds then Log.Level.warning.rank else l.rank) := by
  have hname : rankOfName (Text.upper l.name) = .ok l.rank := by
    rw [upper_name]
    cases l <;> rfl
  rw [ConsoleSettings.rank, rankOf, h, hname]
  split
  · rfl
  · split <;> rfl

/-- Whether the console shows what options ask for, although they stand over a configuration. -/
def yields (c : Config) (o : Options) : Prop :=
  if o.verbose then True
  else if o.quiet then c.console.verbose.holds = false
  else match chosenLevel o with
    | some l => (c.console.verbose.holds = true → l = Log.Level.debug.name) ∧
        (c.console.quiet.holds = true → l = Log.Level.warning.name)
    | none => c.console.rank = .ok Log.Level.info.rank

theorem logLevel_overridden (c : Config) (o : Options) :
    (c.overridden o).console.logLevel = (chosenLevel o).getD c.console.logLevel := rfl

/-- What the console shows with options over a configuration. -/
theorem rank_overridden {l : Log.Level} (h : (c.overridden o).console.logLevel = l.name) :
    (c.overridden o).console.rank = .ok (if o.verbose || c.console.verbose.holds then
      Log.Level.debug.rank else if o.quiet || c.console.quiet.holds then
      Log.Level.warning.rank else l.rank) := by
  rw [rank_of_level h]
  simp only [overridden, overrideConsole, holds_raise]

/-- Over the default configuration, options get what they ask for. -/
theorem rank_overridden_default {l : Log.Level}
    (h : (overridden {} o).console.logLevel = l.name) :
    (overridden {} o).console.rank = .ok (if o.verbose then Log.Level.debug.rank
      else if o.quiet then Log.Level.warning.rank else l.rank) := by
  rw [rank_overridden h]
  simp [Value.holds]

/-- The console shows what the options ask for exactly if the configuration yields to them. -/
theorem rank_overridden_iff (hc : Passes fs c) (hd : Passes fs (overridden {} o)) :
    (c.overridden o).console.rank = (overridden {} o).console.rank ↔ c.yields o := by
  have hloud := hc.volume
  cases hchosen : chosenLevel o with
  | none =>
    -- each has its own level
    obtain ⟨l, hl⟩ := exists_level hc.level
    have hm : (c.overridden o).console.logLevel = l.name := by
      rw [logLevel_overridden, hchosen, Option.getD_none, hl]
    have hdefault : (overridden {} o).console.logLevel = Log.Level.info.name := by
      rw [logLevel_overridden, hchosen]
      rfl
    rw [rank_overridden hm, rank_overridden_default hdefault, yields, hchosen, rank_of_level hl]
    cases o.verbose with
    | true => simp
    | false =>
      cases o.quiet with
      | true => cases c.console.verbose.holds <;> simp [Log.Level.rank]
      | false => simp
  | some name =>
    -- both have the level that is chosen
    obtain ⟨l, hl⟩ := exists_level hd.level
    rw [logLevel_overridden, hchosen, Option.getD_some] at hl
    have hboth (c : Config) : (c.overridden o).console.logLevel = l.name := by
      rw [logLevel_overridden, hchosen, Option.getD_some, hl]
    rw [rank_overridden (hboth c), rank_overridden_default (hboth {}), yields, hchosen, hl]
    cases o.verbose with
    | true => simp
    | false =>
      cases o.quiet with
      | true => cases c.console.verbose.holds <;> simp [Log.Level.rank]
      | false =>
        revert hloud
        cases c.console.verbose.holds <;> cases c.console.quiet.holds <;> cases l <;>
          simp [Log.Level.rank, Log.Level.name]

/-! ## Both -/

/-- **Options pass over a configuration unless their flags clash, and the console shows what they
ask for unless a flag of the configuration hides it.** Both the configuration and the options, over
the default configuration, are to pass by themselves. -/
theorem override_passes_unless_clash (hc : c.check fs = .ok [])
    (ho : ({} : Config).override o = (d, none)) (hd : d.check fs = .ok []) :
    ∃ m, c.override o = (m, none) ∧
      m.check fs = .ok (if c.clashes o then [.loudAndQuiet] else []) ∧
      (m.console.rank = d.console.rank ↔ c.yields o) := by
  obtain ⟨hall, rfl⟩ := override_eq_ok.1 ho
  have hc := passes_of_check hc
  have hd := passes_of_check hd
  exact ⟨c.overridden o, override_eq_ok.2 ⟨hall, rfl⟩, check_overridden hc hd,
    rank_overridden_iff hc hd⟩

/-- A configuration with a quiet console, and with a level that this hides. -/
def quietConsole : Config := { console := { quiet := .bool true, logLevel := "ERROR" } }

/-- Options for the level of a quiet console, and for a variable. -/
def warningsOnly : Options :=
  { logLevel := some (.text "WARNING"), definitions := [.text "who=Bob"] }

/-- A quiet console does not hide a level that comes to the same. -/
theorem warning_over_quiet :
    let fs : Files := ∅
    let d := overridden {} warningsOnly
    quietConsole.check fs = .ok [] ∧ ({} : Config).override warningsOnly = (d, none) ∧
      d.check fs = .ok [] ∧
      ∃ m, quietConsole.override warningsOnly = (m, none) ∧ m.check fs = .ok [] ∧
        m.console.rank = .ok Log.Level.warning.rank := by
  intro fs d
  have hc : quietConsole.check fs = .ok [] := rfl
  have ho : ({} : Config).override warningsOnly = (d, none) := rfl
  have hd : d.check fs = .ok [] := rfl
  obtain ⟨m, hm, hcheck, hrank⟩ := override_passes_unless_clash hc ho hd
  have hyields : quietConsole.yields warningsOnly := ⟨nofun, fun _ => upper_name .warning⟩
  have hshown : (overridden {} warningsOnly).console.rank = .ok Log.Level.warning.rank := rfl
  exact ⟨hc, ho, hd, m, hm, hcheck, (hrank.2 hyields).trans hshown⟩

/-- A flag that a configuration has raised stays up: options for more do not pass over a quiet
console, and a level that they choose does nothing at a loud one. -/
theorem raised_flags_stay :
    let fs : Files := ∅
    let quiet : Config := { console := { quiet := .bool true } }
    let loud : Config := { console := { verbose := .bool true } }
    ∃ more level, Options.parse ["-v"] = .ok more ∧
      Options.parse ["--log-level", "error"] = .ok level ∧
      (quiet.check fs = .ok [] ∧ (({} : Config).override more).1.check fs = .ok [] ∧
        (quiet.override more).1.check fs = .ok [.loudAndQuiet]) ∧
      (loud.check fs = .ok [] ∧ (({} : Config).override level).1.check fs = .ok [] ∧
        (loud.override level).1.check fs = .ok [] ∧
        (({} : Config).override level).1.console.rank = .ok Log.Level.error.rank ∧
        (loud.override level).1.console.rank = .ok Log.Level.debug.rank) := by
  exact ⟨{ verbose := true }, { logLevel := some (.text "ERROR") }, rfl, rfl, ⟨rfl, rfl, rfl⟩,
    rfl, rfl, rfl, rfl, rfl⟩

end LineShell.Config
