import LineShell.Config.Store
import LineShell.Launch.Build
import LineShell.Proofs.Config.Checking
import LineShell.Proofs.Options.Appended
import LineShell.Proofs.Shell.Alike

/-!
# What options make of a configuration

Options go over a configuration setting by setting, and the variables that they define are written
into its variables one after the other. A definition is cut at its first equals sign, and every text
is a definition. But what an option is given need not be a text: two dashes behind its equals sign
leave nothing, and nothing cannot be cut. All other options take nothing as they take an empty text,
or as it is; a definition of nothing makes overriding fail halfway
(`ConfigStore.overrides_unless_textless`).

## How the proofs go

* A definition is a name without an equals sign, with a value behind one or without
  (`Definition`); every text is one of them and no other (`Definition.exists_text`,
  `Definition.text_injective`).
* Definitions are written in their order up to the first one that is no text
  (`Config.define_append`). So options come to one of two record updates
  (`Config.override_defining`, `Config.override_cut`), and each of them may be made twice
  (`Config.override_override`).
* That a level which was read is the name of one holds for whatever has been consumed so far
  (`Options.level_consume`).
-/

namespace LineShell

variable {c : Config} {o : Options}

/-! ## Definitions -/

/-- A definition of a variable: its name, and its value behind an equals sign, if there is one. -/
structure Definition where
  name : String
  value : Option String
  /-- The name ends at the first equals sign. -/
  pure : '=' ∉ name.toList

namespace Definition

/-- The definition as it is written. -/
def text (d : Definition) : String :=
  match d.value with
  | none => d.name
  | some v => d.name ++ "=" ++ v

/-- The definition as it is given. -/
def operand (d : Definition) : Operand := .text d.text

/-- The variable that it defines. -/
def pair (d : Definition) : String × String := (d.name, d.value.getD "")

theorem cutAtEquals_append {name : List Char} (h : '=' ∉ name) (rest : List Char) :
    Options.cutAtEquals (name ++ '=' :: rest) = (name, some rest) := by
  induction name with
  | nil => rfl
  | cons c name ih =>
    rw [List.mem_cons, not_or] at h
    rw [List.cons_append, Options.cutAtEquals, if_neg (Ne.symm h.1), ih h.2]

theorem cutAtEquals_of_notMem {name : List Char} (h : '=' ∉ name) :
    Options.cutAtEquals name = (name, none) := by
  induction name with
  | nil => rfl
  | cons c name ih =>
    rw [List.mem_cons, not_or] at h
    rw [Options.cutAtEquals, if_neg (Ne.symm h.1), ih h.2]

/-- A definition is cut into its name and its value. -/
theorem cutAtEquals_text (d : Definition) :
    Options.cutAtEquals d.text.toList = (d.name.toList, d.value.map String.toList) := by
  unfold text
  split
  · next h => rw [cutAtEquals_of_notMem d.pure, h]; rfl
  · next v h =>
    rw [String.toList_append, String.toList_append, List.append_assoc, h]
    exact cutAtEquals_append d.pure v.toList

/-- A definition that is written defines its variable. -/
theorem definition?_operand (d : Definition) : d.operand.definition? = some d.pair := by
  simp only [operand, Operand.definition?, pair, d.cutAtEquals_text]
  cases d.value with
  | none => simp
  | some v => simp

/-- A text is one definition only. -/
theorem text_injective {d e : Definition} (h : d.text = e.text) : d = e := by
  have hcut := d.cutAtEquals_text
  rw [h, e.cutAtEquals_text, Prod.mk.injEq, String.toList_inj] at hcut
  obtain ⟨hname, hvalue⟩ := hcut
  have hvalue : e.value = d.value :=
    Option.map_injective (fun _ _ => String.toList_inj.1) hvalue
  cases d; cases e; simp_all

/-- Every text is a definition. -/
theorem exists_text (s : String) : ∃ d : Definition, d.text = s := by
  by_cases h : '=' ∈ s.toList
  · obtain ⟨name, rest, hs, hname⟩ := List.eq_append_cons_of_mem h
    refine ⟨⟨String.ofList name, some (String.ofList rest), by simpa using hname⟩, ?_⟩
    rw [← String.toList_inj, hs]
    simp [text]
  · exact ⟨⟨s, none, h⟩, rfl⟩

/-- What was given as definitions is texts, or there is something else behind some of them. -/
theorem all_or_cut (os : List Operand) : ∃ ds : List Definition,
    os = ds.map Definition.operand ∨
      ∃ rest, os = ds.map Definition.operand ++ .nothing :: rest := by
  induction os with
  | nil => exact ⟨[], .inl rfl⟩
  | cons x os ih =>
    cases x with
    | nothing => exact ⟨[], .inr ⟨os, rfl⟩⟩
    | text s =>
      obtain ⟨d, rfl⟩ := exists_text s
      obtain ⟨ds, rfl | ⟨rest, rfl⟩⟩ := ih
      · exact ⟨d :: ds, .inl rfl⟩
      · exact ⟨d :: ds, .inr ⟨rest, rfl⟩⟩

end Definition

/-! ## Levels -/

namespace Options

variable {acc acc' : Consumed} {opts opts' : Options} {marks : List (String × Mark)}

/-- Whether the level that is chosen, if any, is the name of one. -/
def HasLevel (opts : Options) : Prop :=
  ∀ l, opts.logLevel = some (.text l) → ∃ level : Log.Level, l = level.name

theorem level_setFlag {x : Opt} (h : setFlag x opts = .ok opts') :
    opts'.logLevel = opts.logLevel := by
  cases x with
  | help => cases h
  | _ =>
    obtain rfl := Except.ok.inj h
    rfl

theorem level_setFlags {xs : List Opt} (h : setFlags xs opts = .ok opts') :
    opts'.logLevel = opts.logLevel := by
  induction xs generalizing opts with
  | nil => rw [Except.ok.inj h]
  | cons x xs ih =>
    rw [setFlags] at h
    cases hx : setFlag x opts with
    | error s => rw [hx] at h; cases h
    | ok opts₁ =>
      rw [hx] at h
      rw [ih h, level_setFlag hx]

theorem level_levelOf {x y : Operand} (h : levelOf x = .ok y) {l : String} (hy : y = .text l) :
    ∃ level : Log.Level, l = level.name := by
  subst hy
  cases x with
  | nothing => cases h
  | text s =>
    rw [levelOf] at h
    split at h
    · next hmem =>
      obtain ⟨rfl⟩ := Except.ok.inj h
      obtain ⟨level, -, hlevel⟩ := List.mem_map.1 (List.contains_iff_mem.1 hmem)
      exact ⟨level, hlevel.symm⟩
    · cases h

theorem level_setOperand {x : Opt} {y : Operand} (h : setOperand x y opts = .ok opts')
    (hl : opts.HasLevel) : opts'.HasLevel := by
  cases x with
  | logLevel =>
    rw [setOperand] at h
    split at h
    · next z hz =>
      obtain rfl := Except.ok.inj h
      exact fun l hl => level_levelOf hz (Option.some.inj hl)
    · cases h
  | _ =>
    obtain rfl := Except.ok.inj h
    exact hl

theorem level_set {k : Cluster} {text : Option String} (h : k.set text opts = .ok opts')
    (hl : opts.HasLevel) : opts'.HasLevel := by
  rw [Cluster.set] at h
  cases hf : setFlags k.flags opts with
  | error s => rw [hf] at h; cases h
  | ok opts₁ =>
    rw [hf] at h
    have hl₁ : opts₁.HasLevel := fun l h => hl l (level_setFlags hf ▸ h)
    cases text with
    | none => exact fun l hx => hl₁ l (level_setFlag h ▸ hx)
    | some t => exact level_setOperand h hl₁

theorem level_consume (h : consume acc marks = .ok acc') (hl : acc.options.HasLevel) :
    acc'.options.HasLevel := by
  have hgo {k : Cluster} {text : Option String} {acc acc' : Consumed}
      (h : (k.set text acc.options).map (fun opts => { acc with options := opts }) = .ok acc')
      (hl : acc.options.HasLevel) : acc'.options.HasLevel := by
    obtain ⟨opts, hs, rfl⟩ := exists_of_set h
    exact level_set hs hl
  fun_induction consume acc marks with
  | case1 acc =>
    obtain rfl := Except.ok.inj h
    exact hl
  | case2 | case3 | case5 | case7 | case8 => cases h
  | case4 _ _ _ _ _ _ _ _ _ _ hset ih => exact ih h (hgo hset hl)
  | case6 _ _ _ _ _ _ _ _ _ _ _ hset ih => exact ih h (hgo hset hl)
  | case9 _ _ _ _ _ _ _ _ _ _ hset ih => exact ih h (hgo hset hl)
  | case10 _ _ _ _ _ ih => exact ih h hl

/-- A level that was read is the name of one. -/
theorem level_parse {args : List String} (h : parse args = .ok opts) : opts.HasLevel := by
  unfold parse at h
  split at h
  · cases h
  · split at h
    · cases h
    · next hconsume =>
      obtain rfl := Except.ok.inj h
      exact level_consume hconsume nofun
    · cases h

end Options

/-! ## Overriding -/

namespace Config

/-- Definitions are written one after the other, in front of whatever comes behind them. -/
theorem define_append (vars : Assoc String String) (ds : List Definition) (rest : List Operand) :
    define vars (ds.map Definition.operand ++ rest) =
      define (vars.insertAll (ds.map Definition.pair)) rest := by
  induction ds generalizing vars with
  | nil => rfl
  | cons d ds ih =>
    rw [List.map_cons, List.cons_append, define, d.definition?_operand, List.map_cons,
      Assoc.insertAll_cons]
    exact ih _

/-- Options whose definitions are texts. -/
theorem override_defining {ds : List Definition}
    (h : o.definitions = ds.map Definition.operand) (c : Config) :
    c.override o = ({ c with
      shell := overrideShell o c.shell
      console := overrideConsole o c.console
      vars := c.vars.insertAll (ds.map Definition.pair) }, none) := by
  have hdefine := define_append c.vars ds []
  rw [List.append_nil, ← h, define] at hdefine
  rw [override, hdefine]
  rfl

/-- Options with a definition of nothing: what comes behind it is left out. -/
theorem override_cut {ds : List Definition} {rest : List Operand}
    (h : o.definitions = ds.map Definition.operand ++ .nothing :: rest) (c : Config) :
    c.override o = ({ c with
      shell := overrideShell o c.shell
      vars := c.vars.insertAll (ds.map Definition.pair) }, some .noDefinition) := by
  have hdefine := define_append c.vars ds (.nothing :: rest)
  rw [← h, define] at hdefine
  rw [override, hdefine]
  rfl

theorem getD_getD {α : Type} (x : Option α) (a : α) : x.getD (x.getD a) = x.getD a := by
  cases x <;> rfl

theorem raise_raise (given : Bool) (v : Value) : raise given (raise given v) = raise given v := by
  cases given <;> rfl

theorem overrideShell_overrideShell (o : Options) (s : ShellSettings) :
    overrideShell o (overrideShell o s) = overrideShell o s := by
  simp only [overrideShell, getD_getD, raise_raise]
  cases o.noBuiltins <;> rfl

theorem overrideConsole_overrideConsole (o : Options) (s : ConsoleSettings) :
    overrideConsole o (overrideConsole o s) = overrideConsole o s := by
  simp only [overrideConsole, getD_getD, raise_raise]

/-- Overriding a second time changes nothing, not even if it fails. -/
theorem override_override (c : Config) (o : Options) :
    (c.override o).1.override o = c.override o := by
  obtain ⟨ds, h | ⟨rest, h⟩⟩ := Definition.all_or_cut o.definitions
  · simp only [override_defining h, overrideShell_overrideShell, overrideConsole_overrideConsole,
      Assoc.insertAll_insertAll]
  · simp only [override_cut h, overrideShell_overrideShell, Assoc.insertAll_insertAll]

/-- What options make of the settings of the shell. Any prompt counts that is given, but only a
script that is not empty. -/
structure ShellOverridden (o : Options) (s s' : ShellSettings) : Prop where
  prompt_given : ∀ p, o.prompt = some (.text p) → s'.prompt = .str p
  prompt_nothing : o.prompt = some .nothing → s'.prompt = .list none []
  prompt_kept : o.prompt = none → s'.prompt = s.prompt
  script_given : ∀ p, o.script = some (.text p) → p ≠ "" → s'.script = .str p
  script_kept : (∀ p, o.script = some (.text p) → p = "") → s'.script = s.script
  runAsync : s'.runAsync = if o.runAsync then .bool true else s.runAsync
  echoScript : s'.echoScript = if o.printLines then .bool true else s.echoScript
  builtins : s'.builtins = if o.noBuiltins then .bool false else s.builtins

/-- What options make of the settings of the console. -/
structure ConsoleOverridden (o : Options) (s s' : ConsoleSettings) : Prop where
  verbose : s'.verbose = if o.verbose then .bool true else s.verbose
  quiet : s'.quiet = if o.quiet then .bool true else s.quiet
  level_given : ∀ l, o.logLevel = some (.text l) → l ≠ "" → s'.logLevel = Text.upper l
  level_kept : (∀ l, o.logLevel = some (.text l) → l = "") → s'.logLevel = s.logLevel
  /-- A level from a command line is in upper case already. -/
  level_parsed : ∀ args l, Options.parse args = .ok o → o.logLevel = some (.text l) →
    s'.logLevel = l

/-- What definitions make of variables. -/
structure VarsDefined (ds : List Definition) (vars vars' : Assoc String String) : Prop where
  inOrder : vars' = vars.insertAll (ds.map Definition.pair)
  last : ∀ front d back, ds = front ++ d :: back → d.name ∉ back.map Definition.name →
    vars'.get? d.name = some (d.value.getD "")
  others : ∀ n, n ∉ ds.map Definition.name → vars'.get? n = vars.get? n
  places : vars.keys <+: vars'.keys

theorem nonEmpty?_of_given {x : Option Operand} {s : String} (h : x = some (.text s))
    (hs : s ≠ "") : x.bind Operand.nonEmpty? = some s := by
  rw [h, Option.bind_some, Operand.nonEmpty?, if_neg (by simpa using hs)]

theorem nonEmpty?_of_kept {x : Option Operand} (h : ∀ s, x = some (.text s) → s = "") :
    x.bind Operand.nonEmpty? = none := by
  cases x with
  | none => rfl
  | some y =>
    cases y with
    | nothing => rfl
    | text s => rw [h s rfl]; rfl

theorem shellOverridden (o : Options) (s : ShellSettings) :
    ShellOverridden o s (overrideShell o s) where
  prompt_given p h := by rw [overrideShell, h]; rfl
  prompt_nothing h := by rw [overrideShell, h]; rfl
  prompt_kept h := by rw [overrideShell, h]; rfl
  script_given p h hp := by rw [overrideShell, nonEmpty?_of_given h hp]; rfl
  script_kept h := by rw [overrideShell, nonEmpty?_of_kept h]; rfl
  runAsync := rfl
  echoScript := rfl
  builtins := rfl

theorem consoleOverridden (o : Options) (s : ConsoleSettings) :
    ConsoleOverridden o s (overrideConsole o s) where
  verbose := rfl
  quiet := rfl
  level_given l h hl := by rw [overrideConsole, nonEmpty?_of_given h hl]; rfl
  level_kept h := by rw [overrideConsole, nonEmpty?_of_kept h]; rfl
  level_parsed args l hparse h := by
    obtain ⟨level, rfl⟩ := Options.level_parse hparse l h
    have hne : level.name ≠ "" := by cases level <;> decide
    rw [overrideConsole, nonEmpty?_of_given h hne]
    exact upper_name level

theorem varsDefined (ds : List Definition) (vars : Assoc String String) :
    VarsDefined ds vars (vars.insertAll (ds.map Definition.pair)) := by
  have hnames (ds : List Definition) : (ds.map Definition.pair).map Prod.fst =
      ds.map Definition.name := List.map_map ..
  refine ⟨rfl, ?last, ?others, Assoc.keys_prefix_insertAll _ _⟩
  case last =>
    intro front d back h hlast
    rw [h, List.map_append, List.map_cons]
    exact Assoc.get?_insertAll_last (by rwa [hnames]) _ _ _
  case others =>
    intro n hn
    exact Assoc.get?_insertAll_of_notMem (by rwa [hnames]) _

/-! ## The shell of a configuration -/

/-- The built-in commands with their names. -/
def builtinCommands : Assoc String Handler :=
  Assoc.ofList (Builtin.all.map fun b => (b.name, b.handler))

/-- A shell that is made of a configuration has all built-in commands, or none at all. -/
theorem commands_shellOf (c : Config) :
    c.shellOf.commands = if c.shell.builtins.holds then builtinCommands else ∅ := by
  unfold shellOf
  dsimp only
  split
  · rfl
  · rfl

end Config

namespace ConfigStore

open Config

/-- What overriding comes to for all that is not the console. -/
structure Changed (o : Options) (ds : List Definition) (c m : Config) : Prop where
  shell : ShellOverridden o c.shell m.shell
  vars : VarsDefined ds c.vars m.vars
  version : m.version = c.version
  description : m.description = c.description

/-- The answer to overriding, by what it comes to. -/
def answerTo (fs : Files) (st : ConfigStore) (p : Config × Option Fault) : Answer Config :=
  ⟨match p.2 with | none => .ok p.1 | some f => .error f, { st with config := some p.1 }, fs, []⟩

/-- **Options go over a configuration setting by setting, and a shell is made of what this comes
to, unless a definition is no text.** Then only the settings of the shell are overridden, and the
definitions in front of it are written. Either way, overriding a second time changes nothing. -/
theorem overrides_unless_textless (fs : Files) (st : ConfigStore) (o : Options) :
    let c := st.config.getD {}
    let r := st.override fs o
    r.store.override fs o = r ∧
    ((∃ ds m, o.definitions = ds.map Definition.operand ∧
        r = ⟨.ok m, { st with config := some m }, fs, []⟩ ∧
        Changed o ds c m ∧ ConsoleOverridden o c.console m.console ∧
        m.shellOf.vars = m.vars ∧
        m.shellOf.commands = if m.shell.builtins.holds then builtinCommands else ∅) ∨
      ∃ ds rest m, o.definitions = ds.map Definition.operand ++ .nothing :: rest ∧
        r = ⟨.error .noDefinition, { st with config := some m }, fs, []⟩ ∧
        Changed o ds c m ∧ m.console = c.console) := by
  intro c r
  have hr : r = answerTo fs st (c.override o) := rfl
  have hagain : r.store.override fs o = answerTo fs st ((c.override o).1.override o) := rfl
  refine ⟨hagain.trans (congrArg _ (override_override c o)), ?_⟩
  obtain ⟨ds, h | ⟨rest, h⟩⟩ := Definition.all_or_cut o.definitions
  · rw [override_defining h] at hr
    refine .inl ⟨ds, _, h, hr, ?_, consoleOverridden o _, variables_shellOf _, commands_shellOf _⟩
    exact ⟨shellOverridden o _, varsDefined ds _, rfl, rfl⟩
  · rw [override_cut h] at hr
    refine .inr ⟨ds, rest, _, h, hr, ?_, rfl⟩
    exact ⟨shellOverridden o _, varsDefined ds _, rfl, rfl⟩

/-- A store whose configuration has two variables, a script that is no path, and no commands. -/
def twoVariables : ConfigStore where
  config := some
    { shell := { builtins := .bool false, script := .int 5 }
      vars := Assoc.ofList [("a", "1"), ("b", "2")] }

/-- Options with an empty prompt, an empty script, and definitions of new and old variables. -/
def threeDefinitions : Options where
  prompt := some (.text "")
  script := some (.text "")
  definitions := [.text "b=c=d", .text "e=f", .text "e"]

/-- Values may have equals signs, the last one counts, and an empty prompt counts too. -/
theorem two_variables_overridden :
    ∃ m, (twoVariables.override ∅ threeDefinitions).result = .ok m ∧
      m.vars = Assoc.ofList [("a", "1"), ("b", "c=d"), ("e", "")] ∧
      m.shell.prompt = .str "" ∧ m.shell.script = .int 5 ∧ m.shellOf.commands = ∅ := by
  obtain ⟨-, ⟨ds, m, -, hr, hchanged, -, -, hcommands⟩ | ⟨ds, rest, m, hds, -⟩⟩ :=
    overrides_unless_textless ∅ twoVariables threeDefinitions
  · let fs : Files := ∅
    have hvars : (twoVariables.override fs threeDefinitions).store.config.map Config.vars =
        some (Assoc.ofList [("a", "1"), ("b", "c=d"), ("e", "")]) := by decide +kernel
    rw [hr] at hvars
    refine ⟨m, congrArg Answer.result hr, Option.some.inj hvars,
      hchanged.shell.prompt_given "" rfl, ?_, ?_⟩
    · exact hchanged.shell.script_kept fun p hp => (Operand.text.inj (Option.some.inj hp)).symm
    · rw [hcommands, hchanged.shell.builtins]
      rfl
  · have hmem : Operand.nothing ∈ threeDefinitions.definitions :=
      hds ▸ List.mem_append_right _ List.mem_cons_self
    have hnot : Operand.nothing ∉ threeDefinitions.definitions := by decide
    exact absurd hmem hnot

/-- Two dashes in the place of a definition are no text, and overriding fails. -/
theorem dashes_not_defined :
    ∃ o, Options.parse ["--define=--"] = .ok o ∧
      (({} : ConfigStore).override ∅ o).result = .error .noDefinition :=
  ⟨{ definitions := [.nothing] }, by decide +kernel, rfl⟩

end ConfigStore

end LineShell
