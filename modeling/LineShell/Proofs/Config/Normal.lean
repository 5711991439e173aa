import LineShell.Proofs.Config.Reload
import LineShell.Proofs.Text.UpperCase

/-!
# Configurations made from mappings are in normal form

Making a configuration from a mapping turns values into texts, raises the level to upper case, turns
the names of variables into texts, so that some fall together, and passes over what is no mapping
where one is asked for. All that happens once: a configuration that was made is made again from its
own entries, and it did not depend on anything in the mapping that is not known
(`normal_of_ofEntries`).

## How the proof goes

The only part that is changed whenever it is read is the level, so a configuration is made from its
own entries exactly if its level is in upper case (`ofEntries_entries_iff`); and a text in upper
case stays as it is (`Text.upper_upper`). For the second half, `Config.known` is what is left of a
mapping when all else is removed; what stands under a known name, stands there still
(`ofEntries_known`).
-/

namespace LineShell

/-! ## What is known -/

namespace Value

variable {names : List String} {name : String} {es : Entries}

/-- Whether a key is one of some names. -/
def isAmong (names : List String) : Value → Bool
  | .str s => names.contains s
  | _ => false

/-- What a mapping has under some names. -/
def entriesUnder (names : List String) (es : Entries) : Entries :=
  es.filter fun e => e.1.isAmong names

theorem find?_entriesUnder (h : name ∈ names) (es : Entries) :
    find? name (entriesUnder names es) = find? name es := by
  induction es with
  | nil => rfl
  | cons e es ih =>
    obtain ⟨key, v⟩ := e
    cases key with
    | str k =>
      by_cases hk : k = name
      · have hmem : isAmong names (str k) = true := by
          rw [hk]
          exact List.contains_iff_mem.2 h
        simp only [entriesUnder, List.filter_cons, hmem, if_true, find?, if_pos hk]
      · cases hmem : isAmong names (str k) with
        | true =>
          simp only [entriesUnder, List.filter_cons, hmem, if_true, find?, if_neg hk]
          exact ih
        | false =>
          simp only [entriesUnder, List.filter_cons, hmem, Bool.false_eq_true, if_false, find?,
            if_neg hk]
          exact ih
    | null | bool | int | float | nan | bytes | date | stamp | list | tuple | set | map | again =>
      exact ih

end Value

namespace Config

variable {name : String} {names : List String} {es : Entries} {c : Config}

/-- The names of the settings of a section, if it is one of settings. -/
def settingNames? (name : String) : Option (List String) :=
  if name = "shell" then
    some ["prompt", "run_async", "startup_script", "echo_script_lines", "builtins"]
  else if name = "console" then some ["verbose", "quiet", "log_level"]
  else none

/-- What stands under a name, without what is not known in there. -/
def knownPart (name : String) : Value → Value
  | .map l inner =>
    match settingNames? name with
    | some names => .map l (Value.entriesUnder names inner)
    | none => .map l inner
  | v => v

/-- An entry without what is not known in there. -/
def knownEntry : Value × Value → Value × Value
  | (.str name, v) => (.str name, knownPart name v)
  | e => e

/-- A mapping without the entries that are not known, and without those of its sections. -/
def known (es : Entries) : Entries := (Value.entriesUnder knownKeys es).map knownEntry

/-! ## Nothing else is read -/

theorem find?_map_knownEntry (name : String) (es : Entries) :
    Value.find? name (es.map knownEntry) = (Value.find? name es).map (knownPart name) := by
  induction es with
  | nil => rfl
  | cons e es ih =>
    obtain ⟨key, v⟩ := e
    cases key with
    | str k =>
      by_cases hk : k = name
      · obtain rfl := hk
        simp only [List.map_cons, knownEntry, Value.find?, if_true, Option.map_some]
      · simp only [List.map_cons, knownEntry, Value.find?, if_neg hk]
        exact ih
    | null | bool | int | float | nan | bytes | date | stamp | list | tuple | set | map | again =>
      exact ih

theorem find?_known (h : name ∈ knownKeys) (es : Entries) :
    Value.find? name (known es) = (Value.find? name es).map (knownPart name) := by
  rw [known, find?_map_knownEntry, Value.find?_entriesUnder h]

/-- What is no section stays as it is. -/
theorem knownPart_eq_self (h : settingNames? name = none) : knownPart name = id := by
  funext v
  cases v with
  | map l inner => simp only [knownPart, h, id]
  | null | bool | int | float | nan | str | bytes | date | stamp | list | tuple | set | again => rfl

/-- What is known under a name without settings stays as it is. -/
theorem find?_known_eq_self (h : name ∈ knownKeys) (hn : settingNames? name = none)
    (es : Entries) : Value.find? name (known es) = Value.find? name es := by
  rw [find?_known h, knownPart_eq_self hn, Option.map_id, id]

/-- A section keeps its settings. -/
theorem settings_known (h : name ∈ knownKeys) (hn : settingNames? name = some names)
    (es : Entries) : Config.section? name (known es) =
      (Config.section? name es).map (Value.entriesUnder names) := by
  rw [section?, section?, find?_known h]
  cases Value.find? name es with
  | none => rfl
  | some v =>
    cases v with
    | map l inner => simp only [Option.map_some, knownPart, hn]
    | null | bool | int | float | nan | str | bytes | date | stamp | list | tuple | set | again =>
      rfl

theorem shellOfEntries_entriesUnder (es : Entries) :
    ShellSettings.ofEntries (Value.entriesUnder
      ["prompt", "run_async", "startup_script", "echo_script_lines", "builtins"] es) =
      ShellSettings.ofEntries es := by
  simp only [ShellSettings.ofEntries, Value.find?_entriesUnder, List.mem_cons, true_or, or_true]

theorem consoleOfEntries_entriesUnder (es : Entries) :
    ConsoleSettings.ofEntries? (Value.entriesUnder ["verbose", "quiet", "log_level"] es) =
      ConsoleSettings.ofEntries? es := by
  simp only [ConsoleSettings.ofEntries?, Value.find?_entriesUnder, List.mem_cons, true_or, or_true]

/-- What is not known does not matter. -/
theorem ofEntries_known (es : Entries) : ofEntries? (known es) = ofEntries? es := by
  have hversion : Value.find? "config_version" (known es) = Value.find? "config_version" es :=
    find?_known_eq_self (by decide) (by decide) es
  have hdescription : Value.find? "description" (known es) = Value.find? "description" es :=
    find?_known_eq_self (by decide) (by decide) es
  have hvars : section? "variables" (known es) = section? "variables" es := by
    rw [section?, find?_known_eq_self (by decide) (by decide), section?]
  have hshell : (section? "shell" (known es)).map ShellSettings.ofEntries =
      (section? "shell" es).map ShellSettings.ofEntries := by
    rw [settings_known (by decide) rfl, Option.map_map]
    exact congrArg (fun f => Option.map f (section? "shell" es))
      (funext shellOfEntries_entriesUnder)
  have hconsole : section? "console" (known es) =
      (section? "console" es).map (Value.entriesUnder ["verbose", "quiet", "log_level"]) :=
    settings_known (by decide) rfl es
  simp only [ofEntries?, hversion, hdescription, hvars, hshell, hconsole]
  cases section? "console" es with
  | none => rfl
  | some inner => simp only [Option.map_some, consoleOfEntries_entriesUnder]

/-! ## Made again -/

/-- A configuration is made from its own entries exactly if its level is in upper case. -/
theorem ofEntries_entries_iff :
    ofEntries? c.entries = some c ↔ Text.upper c.console.logLevel = c.console.logLevel := by
  refine ⟨fun h => ?_, ofEntries_labelledEntries none none none⟩
  have hmade : ofEntries? c.entries = some { c with
      console := { c.console with logLevel := Text.upper c.console.logLevel } } := by
    simp [entries, ofEntries?, section?, Value.find?, variablesOf_variableEntries,
      ConsoleSettings.ofEntries?, ConsoleSettings.entries]
  rw [hmade] at h
  exact congrArg (fun d : Config => d.console.logLevel) (Option.some.inj h)

/-- The settings of a console that are made have their level in upper case. -/
theorem upper_logLevel_of_console {d : ConsoleSettings}
    (h : ConsoleSettings.ofEntries? es = some d) : Text.upper d.logLevel = d.logLevel := by
  obtain ⟨name, -, rfl⟩ := Option.map_eq_some_iff.1 h
  exact Text.upper_upper name

/-- The console of a configuration that is made is that of the section, if there is one. -/
theorem console_of_ofEntries (h : ofEntries? es = some c) :
    (section? "console" es).elim (some {}) ConsoleSettings.ofEntries? = some c.console := by
  unfold ofEntries? at h
  extract_lets d version console vars at h
  have hconsole : (section? "console" es).elim (some {}) ConsoleSettings.ofEntries? = console := by
    simp only [console]
    cases section? "console" es with
    | none => rfl
    | some inner => rfl
  clear_value version console vars
  split at h
  · obtain rfl := Option.some.inj h
    exact hconsole
  · cases h

/-- A configuration that is made has its level in upper case. -/
theorem upper_logLevel_of_ofEntries (h : ofEntries? es = some c) :
    Text.upper c.console.logLevel = c.console.logLevel := by
  have hconsole := console_of_ofEntries h
  cases hs : section? "console" es with
  | none =>
    rw [hs, Option.elim_none] at hconsole
    rw [← Option.some.inj hconsole]
    decide
  | some inner =>
    rw [hs, Option.elim_some] at hconsole
    exact upper_logLevel_of_console hconsole

/-- **A configuration that was made from a mapping** is made again from its own mapping, with the
variables in the same order; and the mapping may as well have held nothing but what is known. -/
theorem normal_of_ofEntries (h : ofEntries? es = some c) :
    ofEntries? c.entries = some c ∧ (ofEntries? c.entries).map toValue = some c.toValue ∧
      ofEntries? (known es) = some c := by
  have hagain := ofEntries_entries_iff.2 (upper_logLevel_of_ofEntries h)
  refine ⟨hagain, ?_, ?_⟩
  · rw [hagain, Option.map_some]
  · rw [ofEntries_known, h]

/-- A mapping with much that is not asked for: no texts where there have to be some, a list in the
place of a section, names of variables that fall together. -/
def untidy : Entries :=
  [(.str "colour", .str "blue"), (.str "config_version", .bool true), (.int 7, .null),
    (.str "shell", .list none [.str "prompt"]),
    (.str "console", .map none [(.str "log_level", .str "straße"), (.str "beep", .bool true),
      (.str "quiet", .int 0)]),
    (.str "variables", .map none [(.bool true, .bool false), (.str "a", .null),
      (.str "True", .str "x")])]

/-- What is made from it. -/
def tidy : Config where
  version := "True"
  console := { quiet := .int 0, logLevel := "STRASSE" }
  vars := Assoc.ofList [("True", "x"), ("a", "")]

theorem normal_of_untidy :
    ofEntries? untidy = some tidy ∧ ofEntries? tidy.entries = some tidy ∧
      ofEntries? (known untidy) = some tidy := by
  have hmade : ofEntries? untidy = some tidy := by rfl
  obtain ⟨hagain, -, hknown⟩ := normal_of_ofEntries hmade
  exact ⟨hmade, hagain, hknown⟩

end Config

end LineShell
