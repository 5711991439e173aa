import LineShell.Config.Store
import LineShell.Proofs.Files.Growth
import LineShell.Proofs.Value.Flaws
import LineShell.Proofs.Yaml.Faults
import LineShell.Proofs.Yaml.Source

/-!
# Loading from a file, whatever is in it

Of every file it is promised what loading it comes to (`promise`): the configuration that its
mapping describes, or else the default and a word about the problem. The promise is kept unless
something in the file escapes (`Escapes`): a fault of the document that is not one of its form, or a
value that is needed as a text and has none. What escapes is not reported, and loading fails.

`promised_unless_escapes` says so of every file, named or discovered, and for what reasons something
can escape (`Cause`).

## How the proofs go

Where a file is found is one thing (`found`), and what is made of it another (`loadFile`); loading
puts them together (`load_of_found`). The reasons of a failure come from the layers below: bytes
that are no text from `Yaml.Source`, everything else in a document from `Yaml.fault_readDocument`.
-/

namespace LineShell

open Text.Utf8 Yaml

namespace ConfigStore

variable {fs : Files} {file : Option String} {st : ConfigStore} {p : Path} {path : String}
  {r : Except Config.Fault Value} {f : Config.Fault} {es : Entries} {v : Value}

/-! ## The promise -/

/-- The problems in a log. -/
def problems (log : List Log.Record) : List Log.Record := log.filter fun r => r.level == .error

/-- What is promised for a file, by what it is read as: a configuration, unless the entries of the
mapping make none, and what is said about the problem, if there is one. A document that is empty or
says no counts as an empty mapping. -/
def promise (path : String) : Except Config.Fault Value → Option Config × List Log.Record
  | .error f => (some {}, [record .error s!"Error loading config file {path}: {f.message}"])
  | .ok v =>
    if v.holds then
      match v with
      | .map .. => (Config.ofEntries? (Config.entriesIn v), [])
      | _ => (some {}, [record .error s!"Config file {path} is not a YAML mapping"])
    else (Config.ofEntries? [], [])

/-- The promise for a file is kept: the configuration is there, and just the problem is reported. -/
def AsPromised (fs : Files) (p : Path) (a : Answer Config) : Prop :=
  ∃ c, a.result = .ok c ∧ a.store.config = some c ∧
    promise p.render (readFile fs p.render) = (some c, problems a.log)

/-- What is not reported, though it keeps a file from being loaded. -/
inductive Escapes : Except Config.Fault Value → Config.Fault → Prop
  /-- The document has a fault that is not one of its form. -/
  | document {f : Yaml.Fault} (h : f ≠ .malformed) : Escapes (.error (.document f)) (.document f)
  /-- A value is needed as a text and has none: the first of them. -/
  | value {l : Option Nat} {es : Entries} {w : Value.Flaw} (hes : (Value.map l es).holds = true)
      (h : Config.flawIn? (Config.entriesIn (.map l es)) = some w) :
      Escapes (.ok (.map l es)) (.unshown w)

/-! ## Entries -/

/-- A value has no text only if it has a flaw. -/
theorem display?_eq_none_iff : v.display? = none ↔ v.flaw? ≠ none := by
  unfold Value.display?
  cases v.flaw? <;> simp

theorem variableText?_eq_none_iff : Config.variableText? v = none ↔ v.flaw? ≠ none := by
  cases v with
  | bool b => exact iff_of_false nofun (not_not_intro rfl)
  | null => exact iff_of_false nofun (not_not_intro rfl)
  | _ => exact display?_eq_none_iff

theorem variableOf?_eq_none_iff {e : Value × Value} :
    Config.variableOf? e = none ↔ ∃ w ∈ [e.1, e.2], w.flaw? ≠ none := by
  have hpair : (∃ w ∈ [e.1, e.2], w.flaw? ≠ none) ↔
      e.1.display? = none ∨ Config.variableText? e.2 = none := by
    simp [display?_eq_none_iff, variableText?_eq_none_iff]
  rw [hpair]
  unfold Config.variableOf?
  cases e.1.display? <;> cases Config.variableText? e.2 <;> simp

/-- A mapping makes no variables only if some name or value in it has a flaw. -/
theorem variablesOf?_eq_none_iff :
    Config.variablesOf? es = none ↔ ∃ w ∈ es.flatMap fun e => [e.1, e.2], w.flaw? ≠ none := by
  unfold Config.variablesOf?
  rw [Option.map_eq_none_iff]
  induction es with
  | nil => simp
  | cons e es ih =>
    rw [List.mapM_cons, List.flatMap_cons]
    simp only [List.mem_append, or_and_right, exists_or]
    rw [← variableOf?_eq_none_iff, ← ih]
    cases Config.variableOf? e <;> cases es.mapM Config.variableOf? <;> simp

/-- Complaining about keys is no problem. -/
theorem problems_unknownKeys : problems (unknownKeys path es) = [] := by
  induction es with
  | nil => rfl
  | cons e es ih =>
    rw [unknownKeys]
    split
    · exact ih
    · split
      · rfl
      · exact ih

theorem consoleOfEntries?_eq_none_iff : ConsoleSettings.ofEntries? es = none ↔
    ∃ w ∈ Value.find? "log_level" es, w.flaw? ≠ none := by
  unfold ConsoleSettings.ofEntries?
  dsimp only
  rw [Option.map_eq_none_iff]
  cases Value.find? "log_level" es with
  | none => simp
  | some w => simp [display?_eq_none_iff]

/-- A configuration is made unless its version, its console or its variables are not. -/
theorem ofEntries?_eq_none_iff : Config.ofEntries? es = none ↔
    (∃ w ∈ Value.find? "config_version" es, w.flaw? ≠ none) ∨
      (∃ inner ∈ Config.section? "console" es, ConsoleSettings.ofEntries? inner = none) ∨
      (∃ inner ∈ Config.section? "variables" es, Config.variablesOf? inner = none) := by
  have hsome {α β γ : Type} {a : Option α} {b : Option β} {c : Option γ}
      (h : ∀ x y z, a = some x → b = some y → c = some z → False) :
      a = none ∨ b = none ∨ c = none := by
    cases a <;> cases b <;> cases c <;> simp at h ⊢
  simp only [← display?_eq_none_iff, Option.mem_def]
  unfold Config.ofEntries?
  dsimp only
  split
  · next hversion hconsole hvars =>
    refine iff_of_false nofun ?_
    rintro (⟨w, hw, h⟩ | ⟨inner, hinner, h⟩ | ⟨inner, hinner, h⟩)
    · rw [hw] at hversion
      cases hversion.symm.trans h
    · rw [hinner] at hconsole
      cases hconsole.symm.trans h
    · rw [hinner] at hvars
      cases hvars.symm.trans h
  · next hno =>
    refine iff_of_true rfl ?_
    rcases hsome hno with h | h | h
    · split at h
      · next w hw => exact .inl ⟨w, hw, h⟩
      · cases h
    · split at h
      · next inner hinner => exact .inr (.inl ⟨inner, hinner, h⟩)
      · cases h
    · split at h
      · next inner hinner => exact .inr (.inr ⟨inner, hinner, h⟩)
      · cases h

/-- A mapping makes no configuration only if some value in it has a flaw that needs a text. -/
theorem exists_flaw_of_none (h : Config.ofEntries? es = none) :
    ∃ w ∈ Config.spelled es, w.flaw? ≠ none := by
  rcases ofEntries?_eq_none_iff.1 h with ⟨w, hw, hflaw⟩ | ⟨inner, hinner, h⟩ | ⟨inner, hinner, h⟩
  · rw [Option.mem_def] at hw
    exact ⟨w, by simp [Config.spelled, hw], hflaw⟩
  · obtain ⟨w, hw, hflaw⟩ := consoleOfEntries?_eq_none_iff.1 h
    rw [Option.mem_def] at hw hinner
    exact ⟨w, by simp [Config.spelled, hinner, hw], hflaw⟩
  · obtain ⟨w, hw, hflaw⟩ := variablesOf?_eq_none_iff.1 h
    rw [Option.mem_def] at hinner
    refine ⟨w, ?_, hflaw⟩
    rw [Config.spelled, hinner]
    exact List.mem_append_right _ hw

/-- A mapping makes a configuration if all values in it have a text that need one. -/
theorem ofEntries?_ne_none (h : Config.flawIn? es = none) : Config.ofEntries? es ≠ none := by
  intro hnone
  obtain ⟨w, hw, hflaw⟩ := exists_flaw_of_none hnone
  exact hflaw (List.findSome?_eq_none_iff.1 h w hw)

/-! ## What is made of a file -/

/-- A mapping that says something makes a configuration, or a value in it escapes. -/
theorem ofDocument_map {l : Option Nat} (hes : (Value.map l es).holds = true) (path : String) :
    (∃ c, Config.ofEntries? (Config.entriesIn (.map l es)) = some c ∧
      Config.flawIn? (Config.entriesIn (.map l es)) = none ∧
      (ofDocument path (.map l es)).1 = .ok c) ∨
    ∃ w, Config.flawIn? (Config.entriesIn (.map l es)) = some w ∧
      (ofDocument path (.map l es)).1 = .error (.unshown w) := by
  unfold ofDocument
  rw [if_pos hes]
  dsimp only
  cases hflaw : Config.flawIn? (Config.entriesIn (.map l es)) with
  | some w => exact .inr ⟨w, rfl, rfl⟩
  | none =>
    cases hc : Config.ofEntries? (Config.entriesIn (.map l es)) with
    | none => exact absurd hc (ofEntries?_ne_none hflaw)
    | some c => exact .inl ⟨c, rfl, rfl, rfl⟩

/-- Of a mapping, no problem is reported. -/
theorem problems_ofDocument_map (l : Option Nat) (es : Entries) (path : String) :
    problems (ofDocument path (.map l es)).2 = [] := by
  unfold ofDocument
  split
  · exact problems_unknownKeys
  · rfl

/-- What is made of a document is what is promised, unless something in it escapes. -/
theorem ofDocument_cases (path : String) (v : Value) :
    ((∀ f, ¬Escapes (.ok v) f) ∧ ∃ c, (ofDocument path v).1 = .ok c ∧
      promise path (.ok v) = (some c, problems (ofDocument path v).2)) ∨
    ∃ f, Escapes (.ok v) f ∧ (ofDocument path v).1 = .error f := by
  by_cases hmap : v.holds = true ∧ ∃ l es, v = .map l es
  · obtain ⟨hes, l, es, rfl⟩ := hmap
    rcases ofDocument_map hes path with ⟨c, hc, hno, hmade⟩ | ⟨w, hw, hmade⟩
    · refine .inl ⟨fun f h => ?_, c, hmade, ?_⟩
      · cases h with
        | value _ hw => cases hno.symm.trans hw
      · rw [problems_ofDocument_map, promise, if_pos hes]
        exact congrArg (·, []) hc
    · exact .inr ⟨_, .value hes hw, hmade⟩
  · refine .inl ⟨fun f h => ?_, {}, ?_⟩
    · cases h with
      | value hes => exact hmap ⟨hes, _, _, rfl⟩
    · unfold promise ofDocument
      dsimp only
      cases hv : v.holds with
      | false => exact ⟨rfl, rfl⟩
      | true =>
        rw [if_pos rfl, if_pos rfl]
        cases v with
        | map l es => exact absurd ⟨hv, _, _, rfl⟩ hmap
        | _ => exact ⟨rfl, rfl⟩

/-- A directory has no bytes. -/
theorem readBytes_of_isDir (h : fs.isDir path = true) (bytes : List UInt8) :
    fs.readBytes path ≠ .ok bytes := by
  intro hb
  obtain ⟨place, n, hl, hn, -, hkind⟩ := Files.readBytes_eq_ok_iff.1 hb
  rw [Files.isDir, Files.look_eq_ok_iff.2 ⟨place, hl, hn⟩] at h
  obtain rfl | ⟨rfl, -⟩ := hkind <;> cases h

/-- A file that is there is read, unless it is a directory or the system denies it. -/
theorem readFile_cases (h : fs.present path = .ok true) :
    (∃ bytes, fs.readBytes path = .ok bytes ∧
      readFile fs path = (readDocument (Source.ofBytes bytes)).mapError .document) ∨
    ∃ r, readFile fs path = .error (.file (.refused r path)) := by
  unfold Files.present Files.test at h
  cases hlook : fs.look path with
  | error e =>
    rw [hlook] at h
    dsimp only at h
    split at h <;> cases h
  | ok n =>
    obtain ⟨place, hl, hn⟩ := Files.look_eq_ok_iff.1 hlook
    unfold readFile Files.readBytes
    rw [hl]
    dsimp only
    rw [hn]
    cases fs.denials.read.get? place with
    | some r => exact .inr ⟨r, rfl⟩
    | none =>
      cases n with
      | file bytes => exact .inl ⟨bytes, rfl, rfl⟩
      | sink => exact .inl ⟨[], rfl, rfl⟩
      | dir => exact .inr ⟨.isDir, rfl⟩

/-- What is made of a file that is there is what is promised, unless something in it escapes. -/
theorem loadFile_cases (h : fs.present path = .ok true) :
    ((∀ f, ¬Escapes (readFile fs path) f) ∧ ∃ c, (loadFile fs path).1 = .ok c ∧
      promise path (readFile fs path) = (some c, problems (loadFile fs path).2)) ∨
    ∃ f, Escapes (readFile fs path) f ∧ (loadFile fs path).1 = .error f := by
  have hdefault (f : Config.Fault) (hf : isReported f = true) (hr : readFile fs path = .error f) :
      ∃ c, (loadFile fs path).1 = .ok c ∧
        promise path (readFile fs path) = (some c, problems (loadFile fs path).2) := by
    unfold loadFile
    rw [hr]
    dsimp only
    rw [if_pos hf]
    exact ⟨{}, rfl, rfl⟩
  rcases readFile_cases h with ⟨bytes, -, hr⟩ | ⟨r, hr⟩
  · cases hd : readDocument (Source.ofBytes bytes) with
    | ok v =>
      rw [hd] at hr
      unfold loadFile
      rw [hr]
      exact ofDocument_cases path v
    | error g =>
      rw [hd] at hr
      by_cases hg : g = .malformed
      · refine .inl ⟨fun f h => ?_, hdefault _ (by rw [hg]; rfl) hr⟩
        rw [hr] at h
        cases h with
        | document h => exact h hg
      · refine .inr ⟨.document g, ?_, ?_⟩
        · rw [hr]
          exact .document hg
        · unfold loadFile
          rw [hr]
          cases g with
          | malformed => exact absurd rfl hg
          | _ => rfl
  · refine .inl ⟨fun f h => ?_, hdefault _ rfl hr⟩
    rw [hr] at h
    cases h

/-- Only one thing escapes. -/
theorem eq_of_escapes {f g : Config.Fault} (hf : Escapes r f) (hg : Escapes r g) : f = g := by
  cases hf with
  | document => cases hg; rfl
  | value _ hw =>
    cases hg with
    | value _ hw' => rw [Option.some.inj (hw.symm.trans hw')]

/-! ## Loading -/

/-- The path from which a configuration is to be loaded. -/
def found (fs : Files) (file : Option String) (st : ConfigStore) : Except FileError (Option Path) :=
  match (nonEmpty file).or (nonEmpty st.preferred) with
  | some name =>
    let p := Path.ofString name
    (fs.present p.render).map fun there => if there then some p else none
  | none => firstPresent fs (places fs)

theorem present_of_firstPresent {ps : List Path} (h : firstPresent fs ps = .ok (some p)) :
    fs.present p.render = .ok true := by
  induction ps with
  | nil => cases h
  | cons q ps ih =>
    rw [firstPresent] at h
    split at h
    · cases h
    · next hq =>
      cases h
      exact hq
    · exact ih h

/-- Loading from a path is taking what is there. -/
theorem load_of_found (h : found fs file st = .ok (some p)) : fs.present p.render = .ok true ∧
    ∃ words, load fs file st = take fs words p { st with config := some {} } := by
  unfold found at h
  unfold load
  dsimp only
  cases hname : (nonEmpty file).or (nonEmpty st.preferred) with
  | some name =>
    rw [hname] at h
    dsimp only at h ⊢
    cases hp : fs.present (Path.ofString name).render with
    | error e =>
      rw [hp] at h
      cases h
    | ok there =>
      rw [hp] at h
      cases there with
      | false => cases h
      | true =>
        cases h
        exact ⟨hp, _, rfl⟩
  | none =>
    rw [hname] at h
    dsimp only at h ⊢
    rw [h]
    exact ⟨present_of_firstPresent h, _, rfl⟩

/-- A file is loaded as promised, or something in it escapes. -/
theorem load_cases (h : found fs file st = .ok (some p)) :
    ((∀ f, ¬Escapes (readFile fs p.render) f) ∧ AsPromised fs p (load fs file st)) ∨
    ∃ f, Escapes (readFile fs p.render) f ∧ (load fs file st).result = .error f := by
  obtain ⟨hp, words, hload⟩ := load_of_found h
  rw [hload]
  unfold take
  rcases loadFile_cases hp with ⟨hno, c, hc, hpromise⟩ | ⟨f, hf, hmade⟩
  · refine .inl ⟨hno, ?_⟩
    generalize loadFile fs p.render = made at hc hpromise
    obtain ⟨result, log⟩ := made
    dsimp only at hc hpromise
    subst hc
    refine ⟨c, rfl, rfl, ?_⟩
    rw [hpromise]
    simp [problems, record]
  · refine .inr ⟨f, hf, ?_⟩
    generalize loadFile fs p.render = made at hmade
    obtain ⟨result, log⟩ := made
    dsimp only at hmade
    subst hmade
    rfl

/-! ## What escapes -/

/-- Why something in a file with these bytes escapes. -/
inductive Cause (bytes : List UInt8) : Config.Fault → Prop
  /-- The bytes are no text. -/
  | undecodable (u : Text.Utf8.Fault) (h : ∀ cs, bytes ≠ encode cs) :
    Cause bytes (.document (.undecodable u))
  /-- Where the tokens end, an escape names no character, or a version has too many digits. -/
  | lexical {g : Yaml.Fault} (h : (Tokens.ofSource (Source.ofBytes bytes)).fault = some g)
    (hl : g.isLexical = true) : Cause bytes (.document g)
  /-- A text in the tree is no value of the kind that a tag in the tree names. -/
  | scalar {g : Yaml.Fault} {root : Yaml.Node}
    (h : Node.ofTokens? (Tokens.ofSource (Source.ofBytes bytes)) = .ok (some root))
    (hs : g.OfScalar root.nodes) : Cause bytes (.document g)
  /-- The tokens make no tree, because collections lie too deep in each other. -/
  | nested (h : Node.ofTokens? (Tokens.ofSource (Source.ofBytes bytes)) = .error .tooDeep) :
    Cause bytes (.document .tooDeep)
  /-- The tree makes no value, because too many mappings are entered from within each other, to be
  merged or to get at a text. -/
  | entered {root : Yaml.Node}
    (h : Node.ofTokens? (Tokens.ofSource (Source.ofBytes bytes)) = .ok (some root))
    (hm : Making.valueAt (Graph.ofNode root) root.id = .error .tooDeep) :
    Cause bytes (.document .tooDeep)
  /-- A number in a value that is needed as a text is too long for one. -/
  | number {l : Option Nat} {es : Entries} {v : Value} {n : Int}
    (hr : readDocument (Source.ofBytes bytes) = .ok (.map l es))
    (hv : v ∈ Config.spelled (Config.entriesIn (.map l es))) (hn : n ∈ v.numbers)
    (h : Value.isLong n = true) : Cause bytes (.unshown .longNumber)
  /-- A value that is needed as a text has too many levels for one. -/
  | levels {l : Option Nat} {es : Entries} {v : Value}
    (hr : readDocument (Source.ofBytes bytes) = .ok (.map l es))
    (hv : v ∈ Config.spelled (Config.entriesIn (.map l es))) (h : Value.maxLevels < v.levels) :
    Cause bytes (.unshown .tooDeep)

/-- What escapes comes from the bytes of the file, for one of these reasons. -/
theorem exists_cause (h : fs.present path = .ok true) (hf : Escapes (readFile fs path) f) :
    ∃ bytes, fs.readBytes path = .ok bytes ∧ Cause bytes f := by
  rcases readFile_cases h with ⟨bytes, hb, hr⟩ | ⟨r, hr⟩
  · refine ⟨bytes, hb, ?_⟩
    rw [hr] at hf
    cases hd : readDocument (Source.ofBytes bytes) with
    | ok v =>
      rw [hd] at hf
      cases hf with
      | @value _ _ w _ hw =>
        obtain ⟨v, hv, hflaw⟩ := List.exists_of_findSome?_eq_some hw
        have hflaw := Value.of_flaw? hflaw
        cases w with
        | longNumber =>
          obtain ⟨n, hn, hlong⟩ := hflaw
          exact .number hd hv hn hlong
        | tooDeep => exact .levels hd hv hflaw
    | error g =>
      rw [hd] at hf
      cases hf with
      | document hg =>
        rcases fault_readDocument hd with rfl | hflaw | ⟨hend, hlexical⟩ | ⟨rfl, htree⟩ |
          ⟨root, htree, ⟨rfl, hmade⟩ | hscalar⟩
        · exact absurd rfl hg
        · rcases Source.flaw_ofBytes hflaw with rfl | ⟨⟨u, rfl⟩, hno⟩
          · exact absurd rfl hg
          · exact .undecodable u hno
        · exact .lexical hend hlexical
        · exact .nested htree
        · exact .entered htree hmade
        · exact .scalar htree hscalar
  · rw [hr] at hf
    cases hf

/-- Bytes that are no text escape if a single block takes them all. -/
theorem escapes_of_undecodable {bytes : List UInt8} (hb : fs.readBytes path = .ok bytes)
    (hsize : bytes.length ≤ Source.blockSize) (hno : ∀ cs, bytes ≠ encode cs) :
    ∃ u, Escapes (readFile fs path) (.document (.undecodable u)) := by
  have hr : readFile fs path = (readDocument (Source.ofBytes bytes)).mapError .document := by
    rw [readFile, hb]
  cases hd : decode bytes with
  | ok cs => exact absurd (decode_eq_ok_iff.1 hd) (hno cs)
  | error u =>
    obtain ⟨w, hw⟩ := Source.exists_ofBytes hd hsize
    refine ⟨w, ?_⟩
    rw [hr, hw, readDocument_nil]
    exact .document nofun

/-- **A file is loaded as promised unless something in it escapes**, and loading fails with what
escapes. There are seven reasons for that (`Cause`); a directory in the place of the file is none,
and bytes that are no text are one whenever a single block takes them all. -/
theorem promised_unless_escapes (h : found fs file st = .ok (some p)) :
    ((∀ f, ¬Escapes (readFile fs p.render) f) → AsPromised fs p (load fs file st)) ∧
    (∀ f, (load fs file st).result = .error f ↔ Escapes (readFile fs p.render) f) ∧
    (∀ f, Escapes (readFile fs p.render) f →
      ∃ bytes, fs.readBytes p.render = .ok bytes ∧ Cause bytes f) ∧
    (fs.isDir p.render = true → AsPromised fs p (load fs file st)) ∧
    ∀ bytes, fs.readBytes p.render = .ok bytes → bytes.length ≤ Source.blockSize →
      (∀ cs, bytes ≠ encode cs) →
        ∃ u, (load fs file st).result = .error (.document (.undecodable u)) := by
  obtain ⟨hp, -⟩ := load_of_found h
  have hkept (hno : ∀ f, ¬Escapes (readFile fs p.render) f) :
      AsPromised fs p (load fs file st) := by
    rcases load_cases h with ⟨-, hkept⟩ | ⟨f, hf, -⟩
    · exact hkept
    · exact absurd hf (hno f)
  have hfails (f : Config.Fault) :
      (load fs file st).result = .error f ↔ Escapes (readFile fs p.render) f := by
    rcases load_cases h with ⟨hno, c, hc, -⟩ | ⟨g, hg, hresult⟩
    · refine iff_of_false ?_ (hno f)
      rw [hc]
      nofun
    · rw [hresult]
      constructor
      · rintro ⟨⟩
        exact hg
      · intro hf
        rw [eq_of_escapes hf hg]
  refine ⟨hkept, hfails, fun f => exists_cause hp, fun hdir => hkept fun f hf => ?_, ?_⟩
  · obtain ⟨bytes, hb, -⟩ := exists_cause hp hf
    exact readBytes_of_isDir hdir bytes hb
  · intro bytes hb hsize hno
    obtain ⟨u, hu⟩ := escapes_of_undecodable hb hsize hno
    exact ⟨u, (hfails _).2 hu⟩

/-- Files with a sequence where a configuration is looked for. -/
def listed : Files :=
  (({ cwd := ["w"] } : Files).put ["w"] .dir |>.put ["w", "config"] .dir).put
    ["w", "config", "interactive_cli.yaml"] (.file (bytesOf "- prompt\n"))

/-- A sequence is found in one of the usual places, and loaded as promised: the default, and a word
about the problem. -/
theorem promised_of_listed :
    found listed none {} = .ok (some ⟨"/", ["w", "config", "interactive_cli.yaml"]⟩) ∧
      AsPromised listed ⟨"/", ["w", "config", "interactive_cli.yaml"]⟩ (load listed none {}) ∧
      problems (load listed none {}).log =
        [record .error "Config file /w/config/interactive_cli.yaml is not a YAML mapping"] := by
  have hfound : found listed none {} =
      .ok (some ⟨"/", ["w", "config", "interactive_cli.yaml"]⟩) := by rfl
  have hok : (load listed none {}).result.isOk = true := by decide +kernel
  obtain ⟨hkept, hfails, -⟩ := promised_unless_escapes hfound
  refine ⟨hfound, hkept fun f hf => ?_, by decide +kernel⟩
  rw [(hfails f).2 hf] at hok
  cases hok

/-- Files with a byte that no text has. -/
def spoilt : Files := (∅ : Files).put ["a.yaml"] (.file [0xFF])

/-- A file that is no text is not loaded as promised: loading fails, and nothing is reported. -/
theorem not_promised_of_spoilt :
    found spoilt (some "a.yaml") {} = .ok (some ⟨"", ["a.yaml"]⟩) ∧
      (load spoilt (some "a.yaml") {}).result.isOk = false ∧
      (load spoilt (some "a.yaml") {}).log = [] ∧
      ¬AsPromised spoilt ⟨"", ["a.yaml"]⟩ (load spoilt (some "a.yaml") {}) := by
  have hfails : (load spoilt (some "a.yaml") {}).result.isOk = false := by decide +kernel
  refine ⟨by rfl, hfails, by decide +kernel, ?_⟩
  rintro ⟨c, hc, -⟩
  rw [hc] at hfails
  cases hfails

end ConfigStore

end LineShell
