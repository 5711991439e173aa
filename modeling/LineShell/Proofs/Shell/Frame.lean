import LineShell.Shell.Exec

/-!
# What running lines leaves alone

A handler can do few things with its shell: set a variable, register a command, stop the shell, and
have it run lines and commands. Whatever each of these keeps is kept by every program, and so by
every call, however deep calls nest (`Keeps.callAt`). `Keeps` names the relation between the shell
before and the shell after once and for all, so that no later proof goes through the programs again.
-/

namespace LineShell

/-- A relation between the shell before and the shell after that every single thing a handler can
do respects. -/
structure Keeps (R : Shell → Shell → Prop) : Prop where
  refl : ∀ s, R s s
  trans : ∀ {s t u}, R s t → R t u → R s u
  setVariable : ∀ s name value, R s (s.setVariable name value)
  register : ∀ s name h, R s (s.register name h)
  stop : ∀ s, R s s.stop

namespace Keeps

variable {R : Shell → Shell → Prop} {fs : Files} {call : Call → Shell → Outcome Bool}

/-- A program keeps what its calls keep. -/
theorem run (h : Keeps R) (hcall : ∀ c s, R s (call c s).shell) (p : Program) (s : Shell) :
    R s (p.run fs call s).shell := by
  induction p generalizing s with
  | done => exact h.refl s
  | fail f => exact h.refl s
  | write text next ih => exact ih s
  | log r next ih => exact ih s
  | note n next ih => exact ih s
  | setVariable name value next ih => exact h.trans (h.setVariable s name value) (ih _)
  | vars next ih => exact ih s.vars s
  | commands next ih => exact ih s.helpTexts s
  | ask q next ih => exact ih (s.answerTo q) s
  | register name origin help body next ihBody ih =>
    exact h.trans (h.register s name ⟨origin, help, body⟩) (ih _)
  | call c next ih => exact h.trans (hcall c s) (ih _ _)
  | stop next ih => exact h.trans (h.stop s) (ih _)
  | readFile path next ih => exact ih (fs.readText path) s

theorem dispatchWith (h : Keeps R) (hcall : ∀ c s, R s (call c s).shell)
    (command : Option String) (params : Params) (s : Shell) :
    R s (s.dispatchWith fs call command params).shell := by
  rw [Shell.dispatchWith]
  split
  · exact h.refl s
  · next name hd _ => exact h.run hcall (hd.body (s.substitute params)) s

/-- A call keeps it, however deep calls nest. -/
theorem callAt (h : Keeps R) (depth : Nat) (c : Call) (s : Shell) :
    R s (s.callAt fs depth c).shell := by
  induction depth generalizing c s with
  | zero => exact h.refl s
  | succ depth ih =>
    cases c with
    | line text =>
      simp only [Shell.callAt]
      split
      · exact h.dispatchWith ih _ _ s
      · exact h.refl s
    | command name params => exact h.dispatchWith ih name params s

theorem exec (h : Keeps R) (line : String) (s : Shell) : R s (s.exec fs line).shell :=
  h.callAt Shell.maxDepth (.line line) s

end Keeps

/-- The shell after differs from the shell before in commands and variables at most, and perhaps it
has been stopped. -/
structure SameLoop (s t : Shell) : Prop where
  prompt : t.prompt = s.prompt
  runAsync : t.runAsync = s.runAsync
  running : t.running = true → s.running = true

/-- What a handler does never concerns the loop, except to stop it. -/
theorem keeps_sameLoop : Keeps SameLoop where
  refl _ := ⟨rfl, rfl, id⟩
  trans h h' := ⟨h'.prompt.trans h.prompt, h'.runAsync.trans h.runAsync,
    fun hr => h.running (h'.running hr)⟩
  setVariable _ _ _ := ⟨rfl, rfl, id⟩
  register _ _ _ := ⟨rfl, rfl, id⟩
  stop _ := ⟨rfl, rfl, fun h => by cases h⟩

/-- Nothing that a handler does makes the shell remember a loop. -/
theorem keeps_noWorker : Keeps fun s t => s.worker = none → t.worker = none where
  refl _ := id
  trans h h' := h' ∘ h
  setVariable _ _ _ := id
  register _ _ _ := id
  stop _ _ := rfl

end LineShell
