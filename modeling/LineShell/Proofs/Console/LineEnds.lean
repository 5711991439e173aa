import LineShell.Proofs.Console.Stopping
import LineShell.Proofs.Shell.Textual
import LineShell.Proofs.Text.LineEnds

/-!
# Line ends do not matter

It does not matter whether the lines of a text end in `\n` or in `\r\n`, be it that a loop reads
them or that they are a file of commands; in a file they may end in `\r` as well
(`line_ends_do_not_matter`).

## How the proof goes

A loop runs its lines without their ends, so it takes the same steps if its lines are written
differently in a way that does not show then (`Unseen`): writing them differently before a step is
writing what is left differently behind it (`Loop.step_respell`), and so for runs, for all loops of
a console and for its answers. A text with other line ends has the same lines, written differently
(`Input.respell_ofText`).

A file is read as a whole and its line ends are made one, which leaves the same lines to be run.
What these lines come to can depend on files in turn; there it matters that handlers read files as
text.
-/

namespace LineShell

open Text Text.Utf8

variable {f : List Char → List Char} {exec : String → Shell → Outcome Bool}

/-! ## Lines that are written differently -/

/-- A way to write lines differently that no loop sees: it runs them without their ends. -/
structure Unseen (f : List Char → List Char) : Prop where
  eq_nil_iff : ∀ line, f line = [] ↔ line = []
  lineOf : ∀ line, Loop.lineOf (f line) = Loop.lineOf line

theorem unseen_crlfEnd : Unseen crlfEnd where
  eq_nil_iff _ := crlfEnd_eq_nil_iff
  lineOf line := congrArg String.ofList (dropLineEnd_crlfEnd line)

/-- A read whose line is written differently. -/
def Read.respell (f : List Char → List Char) : Read → Read
  | .line text => .line (f text)
  | .fails e => .fails e

/-- What a reader gets when lines are written differently. -/
def Next.respell (f : List Char → List Char) : Next → Next
  | .line text => .line (f text)
  | n => n

namespace Input

/-- An input whose lines are written differently. -/
def respell (f : List Char → List Char) (i : Input) : Input :=
  { i with pending := i.pending.map (Read.respell f) }

theorem respell_ofText (text : List Char) : (ofText text).respell crlfEnd = ofText (crlf text) := by
  simp only [ofText, respell, splitKeeping_crlf, List.map_map]
  rfl

theorem next_respell (hf : Unseen f) (i : Input) :
    (i.respell f).next = (i.next.1.respell f, i.next.2.respell f) := by
  obtain ⟨pending, tail⟩ := i
  cases pending with
  | nil => cases tail <;> rfl
  | cons r rest =>
    cases r with
    | fails e => rfl
    | line text =>
      cases text with
      | nil => simp [next, respell, Read.respell, (hf.eq_nil_iff []).2 rfl, Next.respell]
      | cons c cs =>
        obtain ⟨d, ds, hd⟩ := List.exists_cons_of_ne_nil (mt (hf.eq_nil_iff (c :: cs)).1 (by simp))
        simp [next, respell, Read.respell, hd, Next.respell]

end Input

/-! ## Loops -/

namespace Loop

/-- A loop whose input is written differently. -/
def respell (f : List Char → List Char) (l : Loop) : Loop := { l with input := l.input.respell f }

/-- The lines that a loop runs as long as it can take steps, in order. -/
def linesRun (exec : String → Shell → Outcome Bool) (l : Loop) : List String :=
  match _h : l.step exec with
  | none => []
  | some l' => l.phase.line?.toList ++ linesRun exec l'
termination_by l.measure
decreasing_by exact measure_step _h

theorem linesRun_of_step {l l' : Loop} (h : l.step exec = some l') :
    l.linesRun exec = l.phase.line?.toList ++ l'.linesRun exec := by
  rw [linesRun]
  split
  · next hn => rw [h] at hn; cases hn
  · next hs => rw [h, Option.some.injEq] at hs; rw [hs]

theorem linesRun_of_step_eq_none {l : Loop} (h : l.step exec = none) : l.linesRun exec = [] := by
  rw [linesRun]
  split
  · rfl
  · next hs => rw [h] at hs; cases hs

/-- Every step is the same. -/
theorem step_respell (hf : Unseen f) (l : Loop) :
    (l.respell f).step exec = (l.step exec).map (respell f) := by
  obtain ⟨p, s, i, es⟩ := l
  cases p with
  | checking =>
    cases hr : s.running <;> simp only [step, respell, hr] <;> rfl
  | reading =>
    simp only [step, respell, Input.next_respell hf]
    cases i.next.1 with
    | line text =>
      have hline := hf.lineOf text
      simp only [lineOf] at hline
      simp only [Next.respell, hline]
      rfl
    | ended => rfl
    | failed e =>
      simp only [Next.respell]
      split <;> rfl
    | waiting => rfl
  | executing line =>
    simp only [step, respell]
    split <;> rfl
  | ending e => rfl
  | ended e => rfl

/-- A whole run is the same, and what it leaves unread is written differently. -/
theorem run_respell (exec : String → Shell → Outcome Bool) (hf : Unseen f) (l : Loop) :
    (l.respell f).run exec = (l.run exec).respell f ∧
      (l.respell f).linesRun exec = l.linesRun exec := by
  induction l using Loop.run.induct exec with
  | case1 l hl =>
    have hr : (l.respell f).step exec = none := by rw [step_respell hf, hl, Option.map_none]
    rw [run_of_step_eq_none exec _ hl, run_of_step_eq_none exec _ hr, linesRun_of_step_eq_none hl,
      linesRun_of_step_eq_none hr]
    exact ⟨rfl, rfl⟩
  | case2 l l' hl ih =>
    have hr : (l.respell f).step exec = some (l'.respell f) := by
      rw [step_respell hf, hl, Option.map_some]
    rw [run_of_step exec _ _ hl, run_of_step exec _ _ hr, linesRun_of_step hl, linesRun_of_step hr,
      ih.1, ih.2]
    exact ⟨rfl, rfl⟩

end Loop

/-! ## Consoles -/

namespace Console

/-- A console whose input is written differently. -/
def respell (f : List Char → List Char) (c : Console) : Console :=
  { c with input := c.input.respell f }

theorem advance_respell (exec : String → Shell → Outcome Bool) (hf : Unseen f) (s : Shell)
    (i : Input) (ps : List Phase) :
    advance exec s (i.respell f) ps =
      let r := advance exec s i ps
      (r.1.respell f, r.2) := by
  induction ps generalizing s i with
  | nil => rfl
  | cons p ps ih =>
    have hrun := (Loop.run_respell exec hf ⟨p, s, i, []⟩).1
    simp only [Loop.respell] at hrun
    simp only [advance, hrun, ih]
    rfl

end Console

/-- An answer with a console whose input is written differently. -/
def Answer.respell (f : List Char → List Char) (a : Answer) : Answer :=
  { a with console := a.console.respell f }

namespace Console

theorem settled_respell (hf : Unseen f) (c : Console) (es : List Event) :
    settled exec (c.respell f) es = (settled exec c es).respell f := by
  have hadvance := advance_respell exec hf c.shell c.input c.loops
  simp only [settled, settle, respell] at hadvance ⊢
  rw [hadvance]
  rfl

theorem runLoop_respell (hf : Unseen f) (c : Console) :
    runLoop exec (c.respell f) = (runLoop exec c).respell f := by
  have hrun := (Loop.run_respell exec hf (Loop.start c.shell c.input)).1
  simp only [runLoop, Loop.runAll, Loop.start, Loop.respell, respell] at hrun ⊢
  rw [hrun]
  rfl

/-- Starting a loop comes to the same. -/
theorem start_respell (hf : Unseen f) (runAsync : Option Bool) (c : Console) :
    start exec runAsync (c.respell f) = (start exec runAsync c).respell f := by
  have hshell : (c.respell f).shell = c.shell := rfl
  by_cases h : runAsync.getD c.shell.runAsync = true
  · simp only [start, hshell, h, if_true]
    exact settled_respell hf ⟨_, c.input, c.loops ++ [.checking]⟩ _
  · rw [Bool.not_eq_true] at h
    simp only [start, hshell, h, Bool.false_eq_true, if_false]
    exact runLoop_respell hf { c with shell := _ }

end Console

/-! ## Loops and files -/

theorem Loop.runAll_crlf (exec : String → Shell → Outcome Bool) (s : Shell) (text : List Char) :
    runAll exec s (.ofText (crlf text)) = (runAll exec s (.ofText text)).respell crlfEnd ∧
      (start s (.ofText (crlf text))).linesRun exec = (start s (.ofText text)).linesRun exec := by
  obtain ⟨hrun, hlines⟩ := run_respell exec unseen_crlfEnd (start s (.ofText text))
  have hstart : (start s (.ofText text)).respell crlfEnd = start s (.ofText (crlf text)) := by
    rw [← Input.respell_ofText]
    rfl
  rw [hstart] at hrun hlines
  rw [runAll, hrun]
  exact ⟨rfl, hlines⟩

theorem Console.perform_crlf (fs : Files) {c : Console} {text : List Char} {a : Action}
    (hi : c.input = .ofText text) (ha : a = .run ∨ ∃ runAsync, a = .start runAsync) :
    ({ c with input := .ofText (crlf text) } : Console).perform fs a =
      (c.perform fs a).respell crlfEnd := by
  have hc : ({ c with input := .ofText (crlf text) } : Console) = c.respell crlfEnd := by
    rw [← Input.respell_ofText, ← hi, respell]
  rw [hc]
  obtain rfl | ⟨runAsync, rfl⟩ := ha
  · exact runLoop_respell unseen_crlfEnd c
  · exact start_respell unseen_crlfEnd runAsync c

namespace Builtin

variable {fs : Files} {path : String} {text text' : List Char}

/-- Of a file with this text, or with the same text with other line ends, the same lines are run. -/
theorem run_exec_of_text (h : fs.readBytes path = .ok (encode text'))
    (hsame : unifyNewlines text' = unifyNewlines text) (call : Call → Shell → Outcome Bool)
    (s : Shell) (params : Params) :
    (Builtin.exec.body (params.insert "filename" path)).run fs call s =
      ((Program.execAll (saysYes (params.get? "print-lines") false) (linesOf text) .done).run fs
        call s).after (announcement path) := by
  have hread := Files.readText_encode h
  have hne := Files.ne_of_readText hread
  have hname : (params.insert "filename" path).get? "filename" = some path := by
    rw [Assoc.get?_insert, if_pos rfl]
  have hflag : (params.insert "filename" path).get? "print-lines" = params.get? "print-lines" := by
    rw [Assoc.get?_insert, if_neg (by decide)]
  rw [body_exec hname hne, hflag, run_runFile hread, linesOf_congr hsame, announcement_of_ne hne]

end Builtin

/-- **It does not matter how the lines of a text end.** A loop runs the same lines, with the same
outcome, and reads as many of them, if they end in `\r\n`; so do all loops of a console. A file of
commands comes to the same with `\n`, with `\r\n` and with `\r`, whatever running a line means. And
where handlers read files as text, no line sees how the lines of any file end.

Only the loop reads the input. A handler that read it as well would get its part of the text with
the line ends that stand there. -/
theorem line_ends_do_not_matter {text : List Char} (ht : '\r' ∉ text) :
    (∀ (exec : String → Shell → Outcome Bool) (s : Shell),
      let l := Loop.runAll exec s (.ofText text)
      let m := Loop.runAll exec s (.ofText (crlf text))
      (Loop.start s (.ofText (crlf text))).linesRun exec =
        (Loop.start s (.ofText text)).linesRun exec ∧
      m.phase = l.phase ∧ m.shell = l.shell ∧ m.events = l.events ∧
      m.input = l.input.respell crlfEnd ∧
      (Input.ofText (crlf text)).pending.length - m.input.pending.length =
        (Input.ofText text).pending.length - l.input.pending.length) ∧
    (∀ (fs : Files) (c : Console) (a : Action), c.input = .ofText text →
      (a = .run ∨ ∃ runAsync, a = .start runAsync) →
      ({ c with input := .ofText (crlf text) } : Console).perform fs a =
        (c.perform fs a).respell crlfEnd) ∧
    (∀ (fs : Files) (call : Call → Shell → Outcome Bool) (s : Shell) (params : Params)
      (p q r : String), fs.readBytes p = .ok (encode text) →
      fs.readBytes q = .ok (encode (crlf text)) → fs.readBytes r = .ok (encode (cr text)) →
      ∃ o : Outcome Unit, ∀ path ∈ [p, q, r],
        (Builtin.exec.body (params.insert "filename" path)).run fs call s =
          o.after (Builtin.announcement path)) ∧
    ∀ (fs : Files) (place : List String) (s : Shell), s.ReadsText →
      let holding (cs : List Char) := fs.put place (.file (encode cs))
      ∀ cs ∈ [crlf text, cr text],
        (∀ line, s.exec (holding cs) line = s.exec (holding text) line) ∧
        ∀ path echo, s.runScript (holding cs) path echo = s.runScript (holding text) path echo := by
  have hself := unifyNewlines_eq_self ht
  have hcrlf : unifyNewlines (crlf text) = unifyNewlines text := by
    rw [unifyNewlines_crlf ht, hself]
  have hcr : unifyNewlines (cr text) = unifyNewlines text := by
    rw [unifyNewlines_cr ht, hself]
  refine ⟨fun exec s => ?_, fun fs c a => Console.perform_crlf fs, ?_, ?_⟩
  · obtain ⟨hrun, hlines⟩ := Loop.runAll_crlf exec s text
    intro l m
    have hm : m = l.respell crlfEnd := hrun
    rw [hm]
    refine ⟨hlines, rfl, rfl, rfl, rfl, ?_⟩
    rw [← Input.respell_ofText]
    simp only [Loop.respell, Input.respell, List.length_map]
  · intro fs call s params p q r hp hq hr
    refine ⟨(Program.execAll (saysYes (params.get? "print-lines") false)
      (Builtin.linesOf text) .done).run fs call s, ?_⟩
    simp only [List.forall_mem_cons]
    exact ⟨Builtin.run_exec_of_text hp rfl call s params,
      Builtin.run_exec_of_text hq hcrlf call s params,
      Builtin.run_exec_of_text hr hcr call s params, List.forall_mem_nil _⟩
  · intro fs place s hs holding
    have hall {cs : List Char} (h : unifyNewlines cs = unifyNewlines text) :
        (∀ line, s.exec (holding cs) line = s.exec (holding text) line) ∧
          ∀ path echo,
            s.runScript (holding cs) path echo = s.runScript (holding text) path echo := by
      have hsame := Files.sameTexts_put fs place h
      exact ⟨Shell.ReadsText.exec hsame hs, Shell.ReadsText.runScript hsame hs⟩
    simp only [List.forall_mem_cons]
    exact ⟨hall hcrlf, hall hcr, List.forall_mem_nil _⟩

/-- Lines that stop before the text ends, with an empty one and one of blanks among them. -/
theorem line_ends_do_not_matter_up_to_exit :
    let text := "setvar x=1\n\n \necho text=[x]\nexit\necho".toList
    let s := { Shell.standard "> " false with running := true }
    let l := Loop.runAll (Shell.exec ∅) s (.ofText text)
    let m := Loop.runAll (Shell.exec ∅) s (.ofText (crlf text))
    '\r' ∉ text ∧ m.shell = l.shell ∧ m.events = l.events ∧ ∀ place line,
      s.exec ((∅ : Files).put place (.file (encode (crlf text)))) line =
        s.exec ((∅ : Files).put place (.file (encode text))) line := by
  intro text s l m
  have ht : '\r' ∉ text := by decide
  obtain ⟨hloop, -, -, hfiles⟩ := line_ends_do_not_matter ht
  obtain ⟨-, -, hshell, hevents, -⟩ := hloop (Shell.exec ∅) s
  refine ⟨ht, hshell, hevents, fun place => ?_⟩
  have hs : s.ReadsText := (Shell.onlyBuiltins_standard "> " false).readsText
  exact (hfiles ∅ place s hs _ List.mem_cons_self).1

end LineShell
