import LineShell.Proofs.Config.Loading

/-!
# Where a configuration came from

A store remembers the file that it has loaded a configuration from (`ConfigStore.source`), and saves
there when no other file is named. Every load begins with the default configuration, but only one
that reads a file changes what is remembered. So over any run of operations, with the files changing
in between, the source is the file of the last load that read one (`source_of_last_read`): it is
that of the present configuration unless a later load found nothing or failed.

## How the proofs go

One operation changes the source only by what it reads (`source_after`), and a run is put together
by induction (`source_run`). Saving adds directories and writes one file, so whatever stood at
another place stays (`node?_save`).
-/

namespace LineShell

namespace ConfigStore

variable {fs : Files} {file : Option String} {st : ConfigStore} {p : Path}

/-! ## Loads -/

/-- What a load comes to, as far as its file goes. -/
inductive Attempt where
  /-- A configuration was read from the file at this path. -/
  | read (p : Path)
  /-- There is something at this path, but no configuration could be read from it. -/
  | failed (p : Path)
  /-- There is no file to load. -/
  | nothing
deriving DecidableEq, Repr

/-- The path that was read. -/
def Attempt.read? : Attempt → Option Path
  | read p => some p
  | _ => none

/-- What loading comes to. -/
def attempt (fs : Files) (file : Option String) (st : ConfigStore) : Attempt :=
  match found fs file st with
  | .ok (some p) => if (loadFile fs p.render).1.isOk then .read p else .failed p
  | _ => .nothing

/-- Where no file is found, the source stays what it was. -/
theorem source_load_of_nothing (h : ∀ p, found fs file st ≠ .ok (some p)) :
    (load fs file st).store.source = st.source := by
  unfold found at h
  unfold load
  dsimp only
  cases hname : (nonEmpty file).or (nonEmpty st.preferred) with
  | some name =>
    rw [hname] at h
    dsimp only at h ⊢
    cases hp : fs.present (Path.ofString name).render with
    | error e => rfl
    | ok there =>
      rw [hp] at h
      cases there with
      | false => rfl
      | true => exact absurd rfl (h (Path.ofString name))
  | none =>
    rw [hname] at h
    dsimp only at h ⊢
    cases hp : firstPresent fs (places fs) with
    | error e => rfl
    | ok q =>
      cases q with
      | none => rfl
      | some q => exact absurd hp (h q)

/-- Loading changes the source if it reads a file, and only then. -/
theorem source_load (fs : Files) (file : Option String) (st : ConfigStore) :
    (load fs file st).store.source = (attempt fs file st).read?.or st.source := by
  unfold attempt
  split
  · next p hp =>
    obtain ⟨-, words, hload⟩ := load_of_found hp
    rw [hload]
    unfold take
    generalize loadFile fs p.render = made
    obtain ⟨result, log⟩ := made
    cases result <;> rfl
  · next hno => exact source_load_of_nothing hno

/-! ## Saving -/

theorem files_reportWrite (message : String) (u : Files.Unfinished) (st : ConfigStore) :
    (reportWrite message u st).files = u.files := by
  unfold reportWrite
  split <;> rfl

theorem store_reportWrite (message : String) (u : Files.Unfinished) (st : ConfigStore) :
    (reportWrite message u st).store = st := by
  unfold reportWrite
  split <;> rfl

/-- Saving does not change what is saved. -/
theorem store_save (fs : Files) (file : Option String) (st : ConfigStore) :
    (save fs file st).store = st := by
  unfold save
  dsimp only
  split
  · exact store_reportWrite ..
  · split
    · exact store_reportWrite ..
    · split <;> rfl

theorem store_writeSample (fs : Files) (file : Option String) (st : ConfigStore) :
    (writeSample fs file st).store = st := by
  unfold writeSample
  dsimp only
  split
  · exact store_reportWrite ..
  · rfl

/-- The files that saving leaves: those in which directories were made or not, and then those in
which the file was written or not. -/
theorem files_save (fs : Files) (file : Option String) (st : ConfigStore) :
    let made := fs.makeDirs (st.target file).parent
    (save fs file st).files = Files.left made ∨
      ∃ bytes, (save fs file st).files =
        Files.left ((Files.left made).write (st.target file).render bytes) := by
  intro made
  unfold save
  dsimp only
  cases hmade : fs.makeDirs (st.target file).parent with
  | error u =>
    refine .inl ?_
    rw [show made = _ from hmade, files_reportWrite, Files.left]
  | ok fs' =>
    refine .inr ⟨bytesOf ((st.config.map savedText).getD saveHeading), ?_⟩
    rw [show made = _ from hmade, Files.left]
    dsimp only
    cases fs'.write (st.target file).render
        (bytesOf ((st.config.map savedText).getD saveHeading)) with
    | error u => exact files_reportWrite ..
    | ok written => dsimp only; split <;> rfl

/-- Saving leaves everything where it is but what stands at its path, also if it breaks off. -/
theorem node?_save {place : List String} {n : Node} (hn : fs.node? place = some n)
    (hl : (save fs file st).files.locate (st.target file).render ≠ .ok place) :
    (save fs file st).files.node? place = some n := by
  have hkept := (Files.extends_makeDirs fs (st.target file).parent).node hn
  obtain h | ⟨bytes, h⟩ := files_save fs file st
  · rw [h]
    exact hkept
  · rw [h] at hl ⊢
    exact Files.node?_write hkept hl

end ConfigStore

/-! ## Runs -/

/-- A store, and the files that it works on. -/
structure Workspace where
  store : ConfigStore
  files : Files

namespace Workspace

open ConfigStore

/-- An operation on a store, or a change of the files by others. -/
inductive Operation where
  | load (file : Option String)
  | override (o : Options)
  | check
  | save (file : Option String)
  | writeSample (file : Option String)
  /-- The files become others, and so does what the system denies. -/
  | change (nodes : Assoc (List String) Node) (denials : Denials)

/-- What an answer leaves behind. -/
def ofAnswer {α : Type} (a : ConfigStore.Answer α) : Workspace := ⟨a.store, a.files⟩

/-- What an operation leaves behind. Checking only looks. -/
def after (w : Workspace) : Operation → Workspace
  | .load file => ofAnswer (w.store.load w.files file)
  | .override o => ofAnswer (w.store.override w.files o)
  | .check => w
  | .save file => ofAnswer (w.store.save w.files file)
  | .writeSample file => ofAnswer (w.store.writeSample w.files file)
  | .change nodes denials =>
    { w with files := { w.files with nodes := nodes, denials := denials } }

/-- What a run of operations leaves behind. -/
def run (w : Workspace) (ops : List Operation) : Workspace := ops.foldl after w

/-- What an operation comes to if it is a load. -/
def attemptOf? (w : Workspace) : Operation → Option Attempt
  | .load file => some (w.store.attempt w.files file)
  | _ => none

/-- What the loads of a run come to, in their order. -/
def attempts (w : Workspace) : List Operation → List Attempt
  | [] => []
  | op :: ops => (w.attemptOf? op).toList ++ (w.after op).attempts ops

/-- An operation changes the source only if it is a load that reads a file. -/
theorem source_after (w : Workspace) (op : Operation) :
    (w.after op).store.source = ((w.attemptOf? op).bind Attempt.read?).or w.store.source := by
  cases op with
  | load file => exact source_load ..
  | save file => exact congrArg source (store_save ..)
  | writeSample file => exact congrArg source (store_writeSample ..)
  | override o => rfl
  | check => rfl
  | change nodes denials => rfl

/-- **After a run, the source is the path that was read last**, whatever was looked for since. -/
theorem source_run (w : Workspace) (ops : List Operation) :
    (w.run ops).store.source =
      ((w.attempts ops).filterMap Attempt.read?).getLast?.or w.store.source := by
  induction ops generalizing w with
  | nil => rfl
  | cons op ops ih =>
    change ((w.after op).run ops).store.source = _
    rw [ih, source_after, attempts, List.filterMap_append, List.getLast?_append, Option.or_assoc]
    congr 1
    cases w.attemptOf? op with
    | none => rfl
    | some a => cases a <;> rfl

/-- A new store, with a preferred file or without, that works on some files. -/
def fresh (preferred : Option String) (fs : Files) : Workspace := ⟨{ preferred := preferred }, fs⟩

/-- **The source of a store is the path that was read last.** It is that of the last load if this
has read a file; if it has found none, there is no source only if no load has read a file before.
Saving without naming a file overwrites none but that at the source or, without one, at the usual
name. -/
theorem source_of_last_read (preferred : Option String) (fs : Files) (ops : List Operation) :
    let w := (fresh preferred fs).run ops
    let tried := (fresh preferred fs).attempts ops
    w.store.source = (tried.filterMap Attempt.read?).getLast? ∧
      (∀ p, tried.getLast? = some (.read p) → w.store.source = some p) ∧
      (tried.getLast? = some .nothing →
        (w.store.source = none ↔ ∀ a ∈ tried, a.read? = none)) ∧
      ∀ place n, w.files.node? place = some n →
        (w.after (.save none)).files.node? place ≠ some n →
        (w.after (.save none)).files.locate
          ((tried.filterMap Attempt.read?).getLast?.getD
            (Path.ofString "interactive_cli.yaml")).render = .ok place := by
  intro w tried
  have hsource : w.store.source = (tried.filterMap Attempt.read?).getLast? :=
    (source_run _ ops).trans Option.or_none
  refine ⟨hsource, ?_, ?_, ?_⟩
  · intro p hp
    obtain ⟨before, hbefore⟩ := List.getLast?_eq_some_iff.1 hp
    rw [hsource, hbefore, List.filterMap_append]
    exact List.getLast?_concat
  · intro _
    rw [hsource, List.getLast?_eq_none_iff, List.filterMap_eq_nil_iff]
  · intro place n hn hchanged
    rw [← hsource]
    by_cases hl : (w.after (.save none)).files.locate (w.store.target none).render = .ok place
    · exact hl
    · exact absurd (node?_save hn hl) hchanged

/-- Files with two configurations. -/
def paired : Files :=
  ((∅ : Files).put ["a.yaml"] (.file (bytesOf "description: mine\n"))).put
    ["b.yaml"] (.file (bytesOf "description: yours\n"))

/-- Two configurations are loaded one after the other; saving leaves the first as it is. -/
theorem source_of_paired :
    ((fresh none paired).run [.load "a.yaml", .check, .load "b.yaml"]).store.source =
        some ⟨"", ["b.yaml"]⟩ ∧
      (((fresh none paired).run [.load "a.yaml", .check, .load "b.yaml"]).after
        (.save none)).files.node? ["a.yaml"] = some (.file (bytesOf "description: mine\n")) := by
  obtain ⟨-, hread, -, hsave⟩ :=
    source_of_last_read none paired [.load "a.yaml", .check, .load "b.yaml"]
  refine ⟨hread _ (by decide +kernel), Decidable.byContradiction fun hchanged => ?_⟩
  have hl := congrArg Except.toOption (hsave ["a.yaml"] _ (by decide +kernel) hchanged)
  exact absurd hl (by decide +kernel)

/-- After a load that finds nothing, the default configuration is there with the source of the one
before, and saving overwrites a file that it was not loaded from. -/
theorem source_stale_of_missing :
    (fresh none paired).attempts [.load "a.yaml", .load "missing.yaml"] =
        [.read ⟨"", ["a.yaml"]⟩, .nothing] ∧
      ((fresh none paired).run [.load "a.yaml", .load "missing.yaml"]).store.source =
        some ⟨"", ["a.yaml"]⟩ ∧
      (((fresh none paired).run [.load "a.yaml", .load "missing.yaml"]).after
        (.save none)).files.node? ["a.yaml"] ≠ some (.file (bytesOf "description: mine\n")) := by
  decide +kernel

end Workspace

end LineShell
