import LineShell.Proofs.Config.Names
import LineShell.Proofs.Files.Growth

/-!
# What a check says

Five kinds of rules are to be kept by a configuration (`Config.Rule`), and a check lists what is
wrong by them: one objection for each rule that is broken, in their order, hence none exactly if all
are kept. But a setting may hold anything, and some of what it may hold keeps the check from coming
to its list: a prompt that cannot be quoted, since a number in it is too long or it is nested too
deep, and a script that is no text, or one of which the system does not say what stands there. Then
the check fails (`Config.Unjudged`), and in no other case (`Config.check_tells_broken_rules`).

## How the proofs go

Each rule is said without the check, and what the check looks at is the same (`Rule.passes_iff`).
What a check comes to that does not fail is known in three parts (`check_eq_ok`); each part is what
the broken rules among some come to.
-/

namespace LineShell.Config

variable {fs : Files} {c : Config} {r : Rule} {f : Fault} {v : Value}

/-! ## Rules -/

/-- What a configuration is to keep to. -/
inductive Rule where
  /-- The prompt is a text. -/
  | prompt
  /-- The level is one of the levels. -/
  | level
  /-- The console is not to show both more and less. -/
  | volume
  /-- The variable of this name can be named. -/
  | name (n : String)
  /-- If there is to be a script, there is a file. -/
  | script

namespace Rule

/-- Whether a configuration keeps a rule. -/
def Kept (fs : Files) (c : Config) : Rule → Prop
  | prompt => ∃ s, c.shell.prompt = .str s
  | level => ∃ l : Log.Level, c.console.logLevel = l.name
  | volume => ¬ (c.console.verbose.holds = true ∧ c.console.quiet.holds = true)
  | name n => Line.isName n.toList = true ∨
      ∃ m : String, Line.isName m.toList = true ∧ n = m ++ "\n"
  | script => c.shell.script.holds = false ∨
      ∃ p bytes, c.shell.script = .str p ∧ fs.look (Path.ofString p).render = .ok (.file bytes)

/-- The objection to a configuration that breaks a rule. -/
def objection (c : Config) : Rule → Objection
  | prompt => .prompt c.shell.prompt.literal
  | level => .level c.console.logLevel
  | volume => .loudAndQuiet
  | name n => .name n
  | script => .script c.shell.script.display

/-- Whether a check finds a rule kept. -/
def passes (fs : Files) (c : Config) : Rule → Bool
  | prompt => c.shell.prompt.isStr
  | level => (Log.Level.ofName? c.console.logLevel).isSome
  | volume => !(c.console.verbose.holds && c.console.quiet.holds)
  | name n => isVariableName n
  | script => !c.shell.script.holds || isFileAt fs c.shell.script matches .ok true

end Rule

theorem isStr_iff : v.isStr = true ↔ ∃ s, v = .str s := by
  cases v <;> simp [Value.isStr]

theorem mapError_eq_ok {ε ε' α : Type} {x : Except ε α} {g : ε → ε'} {a : α} :
    x.mapError g = .ok a ↔ x = .ok a := by
  cases x <;> simp [Except.mapError]

theorem mapError_eq_error {ε ε' α : Type} {x : Except ε α} {g : ε → ε'} {e : ε'} :
    x.mapError g = .error e ↔ ∃ d, x = .error d ∧ g d = e := by
  cases x <;> simp [Except.mapError]

theorem isFileAt_iff : isFileAt fs v = .ok true ↔
    ∃ p bytes, v = .str p ∧ fs.look (Path.ofString p).render = .ok (.file bytes) := by
  cases v with
  | str p =>
    rw [isFileAt, mapError_eq_ok, Files.isFile_iff]
    simp
  | _ => simp [isFileAt]

theorem Rule.passes_iff : r.passes fs c = true ↔ r.Kept fs c := by
  cases r with
  | prompt => exact isStr_iff
  | level =>
    constructor
    · exact exists_level
    · rintro ⟨l, hl⟩
      rw [passes, hl, Log.Level.ofName?_name]
      rfl
  | volume => rw [passes, Kept, Bool.not_eq_true', ← Bool.and_eq_true, Bool.not_eq_true]
  | name n => exact isVariableName_iff
  | script =>
    rw [passes, Kept, ← isFileAt_iff, Bool.or_eq_true, Bool.not_eq_true']
    refine or_congr_right ?_
    split <;> simp_all

instance : Decidable (r.Kept fs c) := decidable_of_iff _ Rule.passes_iff

/-- The rules for a configuration, in the order in which they are looked at. -/
def rules (c : Config) : List Rule :=
  [.prompt, .level, .volume] ++ c.vars.keys.map .name ++ [.script]

/-- The objections to the rules that are broken, one for each. -/
def objections (fs : Files) (c : Config) : List Objection :=
  (c.rules.filter fun r => ¬ r.Kept fs c).map (Rule.objection c)

/-! ## Objections -/

theorem applying_map {α : Type} (p : α → Bool) (g : α → Objection) (l : List α) :
    applying (l.map fun x => (p x, g x)) = (l.filter p).map g := by
  induction l with
  | nil => rfl
  | cons x l ih =>
    rw [List.map_cons, applying, List.filterMap_cons, List.filter_cons]
    cases p x with
    | true => exact congrArg _ ih
    | false => exact ih

/-- What a check comes to, if it does not fail. -/
theorem objections_of_check {os : List Objection} (h : check fs c = .ok os) :
    os = objections fs c := by
  obtain ⟨found, rfl, hfound, hnone⟩ := check_eq_ok h
  have hkept : (fun r => decide ¬ Rule.Kept fs c r) = fun r => !r.passes fs c := by
    funext r
    simp only [← Rule.passes_iff]
    cases r.passes fs c <;> rfl
  have hscript : found = Rule.script.passes fs c := by
    rw [Rule.passes]
    cases hs : c.shell.script.holds with
    | false => exact hnone hs
    | true =>
      rw [hfound hs]
      cases found <;> rfl
  rw [objections, hkept, rules, List.filter_append, List.filter_append, List.map_append,
    List.map_append]
  congr 2
  · rw [← applying_map]
    simp only [settingObjections, List.map_cons, List.map_nil, Rule.passes, Rule.objection,
      Bool.not_not, Option.not_isSome]
  · rw [List.filter_map, List.map_map]
    rfl
  · rw [← applying_map, hscript]
    rfl

/-! ## Checks that fail -/

/-- Why a check does not come to its objections. -/
inductive Unjudged (fs : Files) (c : Config) : Fault → Prop where
  /-- The prompt cannot be quoted. -/
  | unquoted {w : Value.Flaw} (h : c.shell.prompt.flaw? = some w) : Unjudged fs c (.unshown w)
  /-- The script is something else than a text. -/
  | notPath (hw : c.shell.prompt.flaw? = none) (hs : c.shell.script.holds = true)
      (h : ∀ p, c.shell.script ≠ .str p) : Unjudged fs c (.notPath c.shell.script.kind)
  /-- Looking for the script fails, and not because nothing is there. -/
  | unseen {p : String} {e : FileError} (hw : c.shell.prompt.flaw? = none)
      (hs : c.shell.script.holds = true) (hp : c.shell.script = .str p)
      (h : fs.look (Path.ofString p).render = .error e) (he : e.isAbsence = false) :
      Unjudged fs c (.file e)

theorem isFileAt_eq_error_iff : isFileAt fs v = .error f ↔
    ((∀ p, v ≠ .str p) ∧ f = .notPath v.kind) ∨
      ∃ p e, v = .str p ∧ f = .file e ∧
        fs.look (Path.ofString p).render = .error e ∧ e.isAbsence = false := by
  cases v with
  | str p =>
    rw [isFileAt, mapError_eq_error]
    simp only [Files.isFile, Files.test_eq_error_iff]
    constructor
    · rintro ⟨e, he, rfl⟩
      exact .inr ⟨p, e, rfl, rfl, he⟩
    · rintro (⟨h, -⟩ | ⟨p', e, hp, rfl, he⟩)
      · exact absurd rfl (h p)
      · obtain rfl := Value.str.inj hp
        exact ⟨e, he, rfl⟩
  | _ =>
    constructor
    · exact fun h => .inl ⟨nofun, (Except.error.inj h).symm⟩
    · rintro (⟨-, rfl⟩ | ⟨p, e, hp, -⟩)
      · rfl
      · cases hp

/-- A check fails for these reasons only. -/
theorem check_eq_error_iff : check fs c = .error f ↔ Unjudged fs c f := by
  unfold check
  dsimp only
  constructor
  · intro h
    split at h
    · next w hw =>
      obtain rfl := Except.error.inj h
      exact .unquoted hw
    · next hw =>
      split at h
      · next hs =>
        cases hf : isFileAt fs c.shell.script with
        | ok found => rw [hf] at h; cases h
        | error f' =>
          rw [hf] at h
          obtain rfl := Except.error.inj h
          rcases isFileAt_eq_error_iff.1 hf with ⟨hv, rfl⟩ | ⟨p, e, hp, rfl, hlook, he⟩
          · exact .notPath hw hs hv
          · exact .unseen hw hs hp hlook he
      · cases h
  · intro h
    cases h with
    | unquoted hw => rw [hw]
    | notPath hw hs hv =>
      rw [hw]
      dsimp only
      rw [if_pos hs, isFileAt_eq_error_iff.2 (.inl ⟨hv, rfl⟩)]
      rfl
    | unseen hw hs hp hlook he =>
      rw [hw]
      dsimp only
      rw [if_pos hs, isFileAt_eq_error_iff.2 (.inr ⟨_, _, hp, rfl, hlook, he⟩)]
      rfl

/-- A configuration passes exactly if it keeps all rules. -/
theorem passes_iff_kept : Passes fs c ↔ ∀ r ∈ c.rules, r.Kept fs c := by
  have hrules : (∀ r ∈ c.rules, r.Kept fs c) ↔ Rule.prompt.Kept fs c ∧ Rule.level.Kept fs c ∧
      Rule.volume.Kept fs c ∧ (∀ n ∈ c.vars.keys, (Rule.name n).Kept fs c) ∧
      Rule.script.Kept fs c := by
    simp [rules, or_imp, forall_and]
  have hscript : (c.shell.script.holds = true → isFileAt fs c.shell.script = .ok true) ↔
      Rule.script.Kept fs c := by
    rw [Rule.Kept, ← isFileAt_iff]
    cases c.shell.script.holds <;> simp
  rw [hrules, ← hscript]
  simp only [← Rule.passes_iff, Rule.passes, Bool.not_eq_true']
  exact ⟨fun h => ⟨h.prompt, h.level, h.volume, h.names, h.script⟩,
    fun ⟨hprompt, hlevel, hvolume, hnames, hscript⟩ =>
      ⟨hprompt, hlevel, hvolume, hnames, hscript⟩⟩

/-- **A check tells which rules are broken, one by one, and nothing if all are kept, unless it
cannot quote the prompt or cannot find out what stands at the script.** -/
theorem check_tells_broken_rules (fs : Files) (c : Config) :
    (c.check fs = .ok [] ↔ ∀ r ∈ c.rules, r.Kept fs c) ∧
    ((∃ f, Unjudged fs c f ∧ c.check fs = .error f) ∨
      (∀ f, ¬ Unjudged fs c f) ∧ c.check fs = .ok (objections fs c)) := by
  refine ⟨⟨fun h => passes_iff_kept.1 (passes_of_check h),
    fun h => check_of_passes (passes_iff_kept.2 h)⟩, ?_⟩
  cases h : c.check fs with
  | error f => exact .inl ⟨f, check_eq_error_iff.1 h, rfl⟩
  | ok os =>
    refine .inr ⟨fun f hf => ?_, congrArg _ (objections_of_check h)⟩
    rw [check_eq_error_iff.2 hf] at h
    cases h

example : check ∅
    { shell := { prompt := .null }
      console := { verbose := .int 1, quiet := .str "no", logLevel := "LOUD" }
      vars := Assoc.ofList [("a b", ""), ("c", ""), ("d!", "")] } =
    .ok [.prompt "None", .level "LOUD", .loudAndQuiet, .name "a b", .name "d!"] := rfl

/-- A configuration whose script is a number. -/
def numberScript : Config := { shell := { script := .int 5 } }

/-- A script that is a number is no path, and the check fails although the number is true. -/
theorem number_not_judged :
    ofEntries? [(.str "shell", .map none [(.str "startup_script", .int 5)])] = some numberScript ∧
      numberScript.check ∅ = .error (.notPath "int") :=
  ⟨rfl, rfl⟩

end LineShell.Config
