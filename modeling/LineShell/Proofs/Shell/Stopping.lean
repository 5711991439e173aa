import LineShell.Proofs.Shell.Alike
import LineShell.Proofs.Shell.Frame

/-!
# Lines that stop their shell

A handler can stop its shell, at any point and from however deep in lines that run lines
(`Shell.Stops`). Nothing that comes behind in the same line makes the shell run again or remember a
loop, so whether it runs afterwards, and what it remembers, tells exactly whether it was stopped
(`Shell.running_exec_iff`, `Shell.worker_exec_iff`).

A handler can ask whether its shell runs. If none does, a line goes the same way on a shell that has
been stopped (`Shell.exec_stop`); and it does not matter at which point of a line somebody else
stops the shell, since what is left of the line is a program as well.
-/

namespace LineShell

variable {fs : Files} {call : Call → Shell → Outcome Bool} {inner : Call → Shell → Prop}

/-! ## Stopping from inside -/

/-- Whether the run of a program stops its shell. `inner` tells it of its calls. -/
def Program.Stops (fs : Files) (call : Call → Shell → Outcome Bool)
    (inner : Call → Shell → Prop) : Program → Shell → Prop
  | .done, _ => False
  | .fail _, _ => False
  | .write _ next, s => next.Stops fs call inner s
  | .log _ next, s => next.Stops fs call inner s
  | .note _ next, s => next.Stops fs call inner s
  | .setVariable name value next, s => next.Stops fs call inner (s.setVariable name value)
  | .vars next, s => (next s.vars).Stops fs call inner s
  | .commands next, s => (next s.helpTexts).Stops fs call inner s
  | .ask q next, s => (next (s.answerTo q)).Stops fs call inner s
  | .register name origin help body next, s =>
    next.Stops fs call inner (s.register name ⟨origin, help, body⟩)
  | .call c next, s =>
    inner c s ∨ (next (call c s).result).Stops fs call inner (call c s).shell
  | .stop _, _ => True
  | .readFile path next, s => (next (fs.readText path)).Stops fs call inner s

namespace Shell

/-- Whether running the handler of a command stops the shell. -/
def DispatchStops (fs : Files) (call : Call → Shell → Outcome Bool)
    (inner : Call → Shell → Prop) (command : Option String) (params : Params) (s : Shell) :
    Prop :=
  ∃ name h, command = some name ∧ s.commands.get? name = some h ∧
    (h.body (s.substitute params)).Stops fs call inner s

/-- Whether a call stops the shell; calls nest `depth` deep. -/
def StopsAt (fs : Files) : (depth : Nat) → Call → Shell → Prop
  | 0, _, _ => False
  | depth + 1, .line text, s =>
    let p := Line.parse text
    p.isValid = true ∧ DispatchStops fs (callAt fs depth) (StopsAt fs depth) p.command p.params s
  | depth + 1, .command name params, s =>
    DispatchStops fs (callAt fs depth) (StopsAt fs depth) name params s

/-- Whether running a line stops the shell, be it in the line itself or in one that it runs. -/
def Stops (fs : Files) (line : String) (s : Shell) : Prop := StopsAt fs maxDepth (.line line) s

end Shell

/-- A property of shells that a handler can end by stopping the shell, and by nothing else that it
does. -/
structure Shell.EndedByStop (Q : Shell → Prop) : Prop where
  setVariable : ∀ s name value, Q (s.setVariable name value) ↔ Q s
  register : ∀ s name h, Q (s.register name h) ↔ Q s
  stop : ∀ s : Shell, ¬ Q s.stop

/-- Behind a program, such a property holds exactly if it held before and the shell was not
stopped. -/
theorem Program.holds_run_iff {Q : Shell → Prop} (hQ : Shell.EndedByStop Q) (fs : Files)
    (hcall : ∀ c s, Q (call c s).shell ↔ Q s ∧ ¬ inner c s) (p : Program) (s : Shell) :
    Q (p.run fs call s).shell ↔ Q s ∧ ¬ p.Stops fs call inner s := by
  induction p generalizing s with
  | done => simp [run, Stops]
  | fail f => simp [run, Stops]
  | write text next ih => exact ih s
  | log r next ih => exact ih s
  | note n next ih => exact ih s
  | setVariable name value next ih =>
    exact (ih (s.setVariable name value)).trans (and_congr_left' (hQ.setVariable s name value))
  | vars next ih => exact ih s.vars s
  | commands next ih => exact ih s.helpTexts s
  | ask q next ih => exact ih (s.answerTo q) s
  | register name origin help body next ihBody ih =>
    exact (ih (s.register name _)).trans (and_congr_left' (hQ.register s name _))
  | call c next ih => simp only [run, Stops, Outcome.shell_after, ih, hcall, not_or, and_assoc]
  | stop next ih =>
    rw [run, ih s.stop]
    simp [hQ.stop s, Stops]
  | readFile path next ih => exact ih (fs.readText path) s

namespace Shell

theorem holds_dispatchWith_iff {Q : Shell → Prop} (hQ : EndedByStop Q)
    (hcall : ∀ c s, Q (call c s).shell ↔ Q s ∧ ¬ inner c s)
    (command : Option String) (params : Params) (s : Shell) :
    Q (s.dispatchWith fs call command params).shell ↔
      Q s ∧ ¬ DispatchStops fs call inner command params s := by
  cases command with
  | none => simp [dispatchWith, DispatchStops]
  | some name =>
    cases hget : s.commands.get? name with
    | none => simp [dispatchWith, DispatchStops, hget]
    | some h =>
      have hbody := Program.holds_run_iff hQ fs hcall (h.body (s.substitute params)) s
      simpa [dispatchWith, DispatchStops, hget] using hbody

theorem holds_callAt_iff {Q : Shell → Prop} (hQ : EndedByStop Q) (depth : Nat) (c : Call)
    (s : Shell) : Q (s.callAt fs depth c).shell ↔ Q s ∧ ¬ StopsAt fs depth c s := by
  induction depth generalizing c s with
  | zero => simp [callAt, StopsAt]
  | succ depth ih =>
    cases c with
    | line text =>
      simp only [callAt, StopsAt]
      by_cases hv : (Line.parse text).isValid = true
      · rw [if_pos hv, holds_dispatchWith_iff hQ ih]
        simp only [hv, true_and]
      · rw [if_neg hv]
        simp [hv]
    | command name params => exact holds_dispatchWith_iff hQ ih name params s

/-- Behind a line, the shell runs exactly if it ran before and was not stopped. -/
theorem running_exec_iff (line : String) (s : Shell) :
    (s.exec fs line).shell.running = true ↔ s.running = true ∧ ¬ s.Stops fs line :=
  holds_callAt_iff (Q := fun s => s.running = true) ⟨fun _ _ _ => .rfl, fun _ _ _ => .rfl, nofun⟩
    maxDepth (.line line) s

/-- Behind a line, the shell remembers a loop exactly if it remembered it before and was not
stopped. -/
theorem worker_exec_iff (k : Nat) (line : String) (s : Shell) :
    (s.exec fs line).shell.worker = some k ↔ s.worker = some k ∧ ¬ s.Stops fs line :=
  holds_callAt_iff (Q := fun s => s.worker = some k) ⟨fun _ _ _ => .rfl, fun _ _ _ => .rfl, nofun⟩
    maxDepth (.line line) s

/-- No line makes a shell run. -/
theorem running_exec_of_stopped {s : Shell} (hs : s.running = false) (line : String) :
    (s.exec fs line).shell.running = false := by
  rw [← Bool.not_eq_true, running_exec_iff, hs]
  exact fun h => Bool.false_ne_true h.1

/-- Nor does any program. -/
theorem running_perform_of_stopped {s : Shell} (hs : s.running = false) (p : Program) :
    (s.perform fs p).shell.running = false := by
  rw [← Bool.not_eq_true]
  intro hrunning
  have hbefore := (keeps_sameLoop.run (keeps_sameLoop.callAt maxDepth) p s).running hrunning
  exact Bool.false_ne_true (hs.symm.trans hbefore)

end Shell

/-! ## Stopping from outside -/

/-- The outcome when somebody else stops the shell behind the run. -/
def Outcome.stopped {α : Type} (o : Outcome α) : Outcome α := { o with shell := o.shell.stop }

/-- Handlers who do not ask whether their shell runs cannot tell whether it has been stopped. -/
theorem Shell.indistinct_stop :
    Indistinct .running fun s t => t = s.stop ∧ s.Unaware .running where
  unaware h := h.2
  commands h := h.1 ▸ rfl
  vars h := h.1 ▸ rfl
  answer q h hq := by
    cases q with
    | running => exact absurd rfl hq
    | async => exact h.1 ▸ rfl
  setVariable _ _ h := ⟨h.1 ▸ rfl, h.2⟩
  register name _ hh h := ⟨h.1 ▸ rfl, h.2.register name hh⟩
  stop h := ⟨congrArg Shell.stop h.1, h.2⟩

/-- If no handler asks whether the shell runs, a line does not see whether it has been stopped. -/
theorem Shell.exec_stop {s : Shell} (hs : s.Unaware .running) (line : String) :
    s.stop.exec fs line = (s.exec fs line).stopped := by
  obtain ⟨hresult, ⟨hshell, -⟩, hevents⟩ :=
    Shell.indistinct_stop.exec line ⟨rfl, hs⟩ (Outcome.settles_self id fs (s.exec fs line))
  rw [Outcome.stopped, ← hresult, ← hshell, ← hevents]

end LineShell
