import LineShell.Proofs.Console.Reading
import LineShell.Proofs.Shell.Alike
import LineShell.Proofs.Text.Utf8
import LineShell.Shell.Builtin

/-!
# Files of commands

The command for files reads a file as a whole before it runs any of its lines. So a file either runs
from its first line on, or nothing of it does, and then the command says in one record what was the
matter and goes on. One thing is not said but raised: that the name has a null character in it
(`trouble_told_unless_null`).

## How the proofs go

A file has a text exactly if its bytes are those of one (`Files.readText_eq_ok_iff`), and of all
names just those with a null character fail in the way that is not told
(`Files.readText_eq_nullInPath_iff`). With a text, the run is that of the lines
(`Builtin.run_runFile`), and by induction on them what it fails with is what one of them fails with
(`Program.failure?_execAll`).
-/

namespace LineShell

open Text.Utf8

variable {fs : Files} {call : Call → Shell → Outcome Bool} {s : Shell} {path : String}
  {text : List Char}

/-! ## Reading a file -/

namespace Files

/-- The text of a file is the one that its bytes are those of. -/
theorem readText_eq_ok_iff :
    fs.readText path = .ok text ↔ fs.readBytes path = .ok (encode text) := by
  unfold readText
  cases hb : fs.readBytes path with
  | error e => simp
  | ok bytes =>
    dsimp only
    rw [Except.ok.injEq, ← decode_eq_ok_iff]
    cases decode bytes with
    | ok cs =>
      exact ⟨fun h => congrArg Except.ok (Except.ok.inj h),
        fun h => congrArg Except.ok (Except.ok.inj h)⟩
    | error u => exact iff_of_false nofun nofun

/-- A file has no text if its bytes are those of none, or if there are no bytes at all. -/
theorem exists_readText_eq_error_iff :
    (∃ e, fs.readText path = .error e) ↔ ∀ text, fs.readBytes path ≠ .ok (encode text) := by
  simp only [ne_eq, ← readText_eq_ok_iff]
  cases fs.readText path <;> simp

/-- The text of a file that holds its bytes. -/
theorem readText_encode (h : fs.readBytes path = .ok (encode text)) : fs.readText path = .ok text :=
  readText_eq_ok_iff.2 h

/-- A file that can be read has a name. -/
theorem ne_of_readText (h : fs.readText path = .ok text) : path ≠ "" := by
  rintro rfl
  cases h

/-- A text is no path at all if there is a null character in it; any other flaw is of another
kind. -/
theorem flawOf?_eq_nullInPath_iff : flawOf? path = some .nullInPath ↔ '\x00' ∈ path.toList := by
  rw [← List.contains_iff_mem]
  unfold flawOf?
  split
  · next h => exact iff_of_true rfl h
  · next h =>
    refine iff_of_false ?_ h
    split
    · nofun
    · split <;> nofun

/-- Following a path fails in this way for no other reason. -/
theorem locate_eq_nullInPath_iff : fs.locate path = .error .nullInPath ↔ '\x00' ∈ path.toList := by
  rw [← flawOf?_eq_nullInPath_iff, locate, locateSteps]
  cases flawOf? path with
  | some e => simp
  | none =>
    refine iff_of_false ?_ nofun
    dsimp only
    cases fs.follow (fs.startOf path) (Path.cut path.toList) <;> nofun

/-- Reading a file fails in this way for no other reason. -/
theorem readText_eq_nullInPath_iff :
    fs.readText path = .error .nullInPath ↔ '\x00' ∈ path.toList := by
  rw [← @locate_eq_nullInPath_iff fs, readText, readBytes]
  cases hl : fs.locate path with
  | error e => simp
  | ok place =>
    refine iff_of_false ?_ nofun
    dsimp only
    cases fs.node? place with
    | none => nofun
    | some n =>
      cases fs.denials.read.get? place with
      | some r => nofun
      | none =>
        cases n with
        | dir => nofun
        | sink => nofun
        | file bytes =>
          dsimp only
          cases decode bytes <;> nofun

end Files

/-! ## Running its lines -/

/-- What lines fail with that are run one after the other is what the first of them fails with that
does. -/
theorem Program.failure?_execAll (echo : Bool) (lines : List String) (s : Shell) :
    ((execAll echo lines .done).run fs call s).failure? =
      (Shell.execEach (fun line => call (.line line)) s lines).findSome? Outcome.failure? := by
  induction lines generalizing s with
  | nil => rfl
  | cons line lines ih =>
    -- that a line is shown first is no matter of what it fails with
    have hshown : ((execAll echo (line :: lines) .done).run fs call s).failure? =
        ((Program.exec line fun _ => execAll echo lines .done).run fs call s).failure? := by
      cases echo <;> rfl
    rw [hshown, Shell.execEach, List.findSome?_cons]
    cases hr : (call (.line line) s).result with
    | error f =>
      rw [run_exec_of_error hr]
      simp only [Outcome.failure?, hr]
    | ok b =>
      have hgo : (call (.line line) s).failure? = none := by rw [Outcome.failure?, hr]
      rw [run_exec_of_ok hr, hgo]
      exact ih (call (.line line) s).shell

namespace Builtin

/-- The command for files runs the file that it is given. -/
theorem body_exec {params : Params} (hname : params.get? "filename" = some path) (hne : path ≠ "") :
    exec.body params = runFile path (saysYes (params.get? "print-lines") false) := by
  unfold body
  dsimp only
  rw [hname]
  split
  · next h => cases h
  · next h => exact absurd (Option.some.inj h) hne
  · next h => rw [Option.some.inj h]

/-- The command for files says so if it is given no name, or an empty one. -/
theorem run_exec_of_unnamed {params : Params} (h : (params.get? "filename").getD "" = "") :
    (exec.body params).run fs call s =
      ⟨.ok (), s, [.logged ⟨.error, .builtins, "Can't execute file: no filename given"⟩]⟩ := by
  unfold body
  dsimp only
  cases hname : params.get? "filename" with
  | none => rfl
  | some path =>
    rw [hname, Option.getD_some] at h
    subst h
    rfl

/-- What is seen of the command for files before it is known whether there is a text. -/
def announcement (name : String) : List Event :=
  if name = "" then [] else [.output s!"Executing file: {name}\n", .opened name]

theorem announcement_of_ne (hne : path ≠ "") :
    announcement path = [.output s!"Executing file: {path}\n", .opened path] := if_neg hne

/-- A file that can be read is announced, and then its lines are run. -/
theorem run_runFile (h : fs.readText path = .ok text) (echo : Bool) (s : Shell) :
    (runFile path echo).run fs call s =
      ((Program.execAll echo (linesOf text) .done).run fs call s).after
        [.output s!"Executing file: {path}\n", .opened path] := by
  unfold runFile
  rw [Program.run, Program.run, h, Outcome.after_after]
  rfl

/-- A file that cannot be read is announced, and what is the matter with it is told, or raised if
the name is none of a file. -/
theorem run_exec_of_error {params : Params} {e : FileError}
    (hname : params.get? "filename" = some path) (hne : path ≠ "")
    (h : fs.readText path = .error e) :
    (exec.body params).run fs call s =
      if e = .nullInPath then ⟨.error (.file .nullInPath), s, announcement path⟩
      else ⟨.ok (), s,
        announcement path ++ [.logged ⟨.error, .builtins, fileReport path e⟩]⟩ := by
  rw [body_exec hname hne, announcement_of_ne hne, runFile, Program.run, Program.run, h,
    Outcome.after_after]
  cases e <;> rfl

/-- What can be the matter with a file, by its name, and what is said of it: there is no name, or no
text can be read. -/
inductive Trouble (fs : Files) : (name message : String) → Prop where
  | unnamed : Trouble fs "" "Can't execute file: no filename given"
  | unread {name : String} {e : FileError} (hne : name ≠ "") (h : fs.readText name = .error e) :
    Trouble fs name (fileReport name e)

theorem Trouble.exists_of_ne {m : String} (h : Trouble fs path m) (hne : path ≠ "") :
    ∃ e, fs.readText path = .error e ∧ m = fileReport path e := by
  cases h with
  | unnamed => exact absurd rfl hne
  | unread _ h => exact ⟨_, h, rfl⟩

/-- **A file that has no text, or no name, is told of in one record and not run, unless its name has
a null character in it: that is raised.** Either way the shell is as it was, and nothing else is
seen but the announcement. It is so whatever running a line means, so no line is run. With a text,
the lines are run one after the other, and the command fails with nothing but what one of them fails
with. A name is a text here, so one that holds half of a surrogate pair is none: such a name cannot
be encoded, which is raised as well. -/
theorem trouble_told_unless_null (fs : Files) (call : Call → Shell → Outcome Bool)
    (params : Params) (s : Shell) :
    let name := (params.get? "filename").getD ""
    let o := (exec.body params).run fs call s
    ((name = "" ∨ ∀ text, fs.readBytes name ≠ .ok (encode text)) →
      ('\x00' ∉ name.toList → ∃ m, Trouble fs name m ∧
        o = ⟨.ok (), s, announcement name ++ [.logged ⟨.error, .builtins, m⟩]⟩) ∧
      ('\x00' ∈ name.toList → o = ⟨.error (.file .nullInPath), s, announcement name⟩)) ∧
    ∀ text, name ≠ "" → fs.readBytes name = .ok (encode text) →
      announcement name <+: o.events ∧
      o.failure? = (Shell.execEach (fun line => call (.line line)) s (linesOf text)).findSome?
        Outcome.failure? := by
  intro name o
  by_cases hname : name = ""
  · refine ⟨fun _ => ⟨fun _ => ?_, fun hnull => ?_⟩, fun _ hne => absurd hname hne⟩
    · rw [hname]
      exact ⟨_, .unnamed, run_exec_of_unnamed hname⟩
    · rw [hname] at hnull
      simp at hnull
  have hget : params.get? "filename" = some name := by
    cases hp : params.get? "filename" with
    | none => simp [name, hp] at hname
    | some p => simp [name, hp]
  refine ⟨fun hno => ?_, fun text _ hbytes => ?_⟩
  · obtain ⟨e, he⟩ := Files.exists_readText_eq_error_iff.2 (hno.resolve_left hname)
    have hnull : e = .nullInPath ↔ '\x00' ∈ name.toList := by
      rw [← @Files.readText_eq_nullInPath_iff fs, he, Except.error.injEq]
    have ho : o = _ := run_exec_of_error hget hname he
    rw [ho]
    exact ⟨fun h => ⟨_, .unread hname he, if_neg fun hn => h (hnull.1 hn)⟩,
      fun h => if_pos (hnull.2 h)⟩
  · have ho : o = _ := congrArg (Program.run fs call · s) (body_exec hget hname)
    rw [ho, run_runFile (Files.readText_encode hbytes), announcement_of_ne hname]
    exact ⟨List.prefix_append _ _, Program.failure?_execAll ..⟩

/-- Files with a file of two lines, of which the second is no text. -/
def damaged : Files :=
  (∅ : Files).put ["t"] (.file (encode "setvar a=1\n".toList ++ [0xFF]))

/-- Of a file that stops being a text behind a good line, not even that line is run. -/
theorem damaged_told :
    let s := Shell.standard "" false
    let o := s.perform damaged (exec.body (Assoc.ofList [("filename", "t")]))
    (∀ text, damaged.readBytes "t" ≠ .ok (encode text)) ∧
      o = ⟨.ok (), s, [.output "Executing file: t\n", .opened "t",
        .logged ⟨.error, .builtins, "Can't execute the specified file: t is not valid UTF-8 " ++
          "('utf-8' codec can't decode byte 0xff in position 11: invalid start byte)"⟩]⟩ := by
  intro s o
  have hread : damaged.readText "t" = .error (.undecodable ⟨11, [0xFF], .badStart⟩) := by
    decide +kernel
  have hno := Files.exists_readText_eq_error_iff.1 ⟨_, hread⟩
  obtain ⟨htold, -⟩ := (trouble_told_unless_null damaged (Shell.callAt damaged Shell.maxDepth)
    (Assoc.ofList [("filename", "t")]) s).1 (.inr hno)
  obtain ⟨m, htrouble, ho⟩ := htold (by decide)
  obtain ⟨e, he, rfl⟩ := htrouble.exists_of_ne (by decide)
  obtain rfl := Except.error.inj (hread.symm.trans he)
  refine ⟨hno, ho.trans (congrArg (Outcome.mk (.ok ()) s) ?_)⟩
  decide +kernel

/-- A name with a null character in it is announced and then raised, and nothing is told. -/
theorem null_raised :
    let o := (Shell.standard "" false).perform ∅
      (exec.body (Assoc.ofList [("filename", "a\x00b")]))
    o.result = .error (.file .nullInPath) ∧ Event.records o.events = [] ∧
      Event.written o.events = "Executing file: a\x00b\n" := by
  decide +kernel

end Builtin

end LineShell
