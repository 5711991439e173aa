import LineShell.Shell.Exec

/-!
# What is put into a shell

Commands are registered and variables are given values from outside, and by the handlers that lines
run, at any point and however deep calls nest. `Program.changes` and `Shell.changesAt` list all that
a run does of this kind, in the order in which it does it, and `Shell.history` lists it for a
sequence of requests from outside.

Behind a run, the commands and the variables of a shell are those from before with the changes
written over them (`Recorded.callAt`, `Shell.recorded_history`). So what is found under a name is
what was put there last.
-/

namespace LineShell

variable {fs : Files} {call : Call → Shell → Outcome Bool} {s t u : Shell}

/-- Something that is put into a shell. -/
inductive Change where
  | assigned (name value : String)
  | registered (name : String) (handler : Handler)

namespace Change

/-- The variable that is given a value, with the value. -/
def assigned? : Change → Option (String × String)
  | assigned name value => some (name, value)
  | registered .. => none

/-- The command that is registered, with its handler. -/
def registered? : Change → Option (String × Handler)
  | assigned .. => none
  | registered name handler => some (name, handler)

/-- All values that variables are given, in order. -/
def assignments (cs : List Change) : List (String × String) := cs.filterMap assigned?

/-- All handlers that are registered, in order. -/
def registrations (cs : List Change) : List (String × Handler) := cs.filterMap registered?

end Change

/-! ## Changes on the way -/

/-- What the run of a program puts into its shell. `inner` tells it of its calls. -/
def Program.changes (fs : Files) (call : Call → Shell → Outcome Bool)
    (inner : Call → Shell → List Change) : Program → Shell → List Change
  | .done, _ => []
  | .fail _, _ => []
  | .write _ next, s => next.changes fs call inner s
  | .log _ next, s => next.changes fs call inner s
  | .note _ next, s => next.changes fs call inner s
  | .setVariable name value next, s =>
    .assigned name value :: next.changes fs call inner (s.setVariable name value)
  | .vars next, s => (next s.vars).changes fs call inner s
  | .commands next, s => (next s.helpTexts).changes fs call inner s
  | .ask q next, s => (next (s.answerTo q)).changes fs call inner s
  | .register name origin help body next, s =>
    .registered name ⟨origin, help, body⟩ ::
      next.changes fs call inner (s.register name ⟨origin, help, body⟩)
  | .call c next, s =>
    inner c s ++ (next (call c s).result).changes fs call inner (call c s).shell
  | .stop next, s => next.changes fs call inner s.stop
  | .readFile path next, s => (next (fs.readText path)).changes fs call inner s

namespace Shell

/-- What running the handler of a command puts into the shell. -/
def dispatchChanges (fs : Files) (call : Call → Shell → Outcome Bool)
    (inner : Call → Shell → List Change) (command : Option String) (params : Params) (s : Shell) :
    List Change :=
  match command.bind s.commands.get? with
  | none => []
  | some h => (h.body (s.substitute params)).changes fs call inner s

/-- What a call puts into the shell; calls nest `depth` deep. -/
def changesAt (fs : Files) : (depth : Nat) → Call → Shell → List Change
  | 0, _, _ => []
  | depth + 1, .line text, s =>
    let p := Line.parse text
    if p.isValid then dispatchChanges fs (callAt fs depth) (changesAt fs depth) p.command p.params s
    else []
  | depth + 1, .command name params, s =>
    dispatchChanges fs (callAt fs depth) (changesAt fs depth) name params s

end Shell

/-! ## The shell afterwards -/

/-- Whether the commands and variables of a shell are those of another one with changes written over
them. -/
structure Recorded (s t : Shell) (cs : List Change) : Prop where
  vars : t.vars = s.vars.insertAll (Change.assignments cs)
  commands : t.commands = s.commands.insertAll (Change.registrations cs)

namespace Recorded

variable {cs cs' : List Change} {inner : Call → Shell → List Change}

theorem refl (s : Shell) : Recorded s s [] := ⟨rfl, rfl⟩

theorem trans (h : Recorded s t cs) (h' : Recorded t u cs') : Recorded s u (cs ++ cs') where
  vars := by
    rw [h'.vars, h.vars, Change.assignments, Change.assignments, Change.assignments,
      List.filterMap_append, Assoc.insertAll_append]
  commands := by
    rw [h'.commands, h.commands, Change.registrations, Change.registrations, Change.registrations,
      List.filterMap_append, Assoc.insertAll_append]

theorem setVariable (s : Shell) (name value : String) :
    Recorded s (s.setVariable name value) [.assigned name value] := ⟨rfl, rfl⟩

theorem register (s : Shell) (name : String) (h : Handler) :
    Recorded s (s.register name h) [.registered name h] := ⟨rfl, rfl⟩

theorem stop (s : Shell) : Recorded s s.stop [] := ⟨rfl, rfl⟩

/-- A program puts into its shell what its changes say, if its calls do. -/
theorem run (hcall : ∀ c s, Recorded s (call c s).shell (inner c s)) (p : Program)
    (s : Shell) : Recorded s (p.run fs call s).shell (p.changes fs call inner s) := by
  induction p generalizing s with
  | done => exact refl s
  | fail f => exact refl s
  | write text next ih => exact ih s
  | log r next ih => exact ih s
  | note n next ih => exact ih s
  | setVariable name value next ih => exact (setVariable s name value).trans (ih _)
  | vars next ih => exact ih s.vars s
  | commands next ih => exact ih s.helpTexts s
  | ask q next ih => exact ih (s.answerTo q) s
  | register name origin help body next ihBody ih => exact (register s name _).trans (ih _)
  | call c next ih => exact (hcall c s).trans (ih _ _)
  | stop next ih => exact (stop s).trans (ih s.stop)
  | readFile path next ih => exact ih (fs.readText path) s

theorem dispatchWith (hcall : ∀ c s, Recorded s (call c s).shell (inner c s))
    (command : Option String) (params : Params) (s : Shell) :
    Recorded s (s.dispatchWith fs call command params).shell
      (s.dispatchChanges fs call inner command params) := by
  cases command with
  | none => exact refl s
  | some name =>
    cases hget : s.commands.get? name with
    | none =>
      simp only [Shell.dispatchWith, Shell.dispatchChanges, Option.bind_some, hget, Option.map_none]
      exact refl s
    | some h =>
      simp only [Shell.dispatchWith, Shell.dispatchChanges, Option.bind_some, hget, Option.map_some]
      exact run hcall (h.body (s.substitute params)) s

/-- A call puts into its shell what its changes say, however deep calls nest. -/
theorem callAt (fs : Files) (depth : Nat) (c : Call) (s : Shell) :
    Recorded s (s.callAt fs depth c).shell (s.changesAt fs depth c) := by
  induction depth generalizing c s with
  | zero => exact refl s
  | succ depth ih =>
    cases c with
    | line text =>
      simp only [Shell.callAt, Shell.changesAt]
      split
      · exact dispatchWith ih _ _ s
      · exact refl s
    | command name params => exact dispatchWith ih name params s

end Recorded

/-! ## Requests -/

/-- What can be asked of a shell from outside. -/
inductive Request where
  /-- Registers a handler, if there is one. -/
  | register (name : String) (handler : Option Handler)
  | setVariable (name value : String)
  | exec (fs : Files) (line : String)

namespace Shell

/-- The shell behind a request. -/
def serve (s : Shell) : Request → Shell
  | .register name handler => handler.elim s (s.register name)
  | .setVariable name value => s.setVariable name value
  | .exec fs line => (s.exec fs line).shell

/-- What a request puts into the shell. -/
def changesBy (s : Shell) : Request → List Change
  | .register name handler => handler.toList.map (.registered name)
  | .setVariable name value => [.assigned name value]
  | .exec fs line => s.changesAt fs maxDepth (.line line)

/-- The shell behind several requests. -/
def serveAll (s : Shell) (rs : List Request) : Shell := rs.foldl serve s

/-- All that several requests put into the shell, in order. -/
def history (s : Shell) : List Request → List Change
  | [] => []
  | r :: rs => s.changesBy r ++ (s.serve r).history rs

theorem recorded_serve (s : Shell) (r : Request) : Recorded s (s.serve r) (s.changesBy r) := by
  cases r with
  | register name handler =>
    cases handler with
    | none => exact .refl s
    | some h => exact .register s name h
  | setVariable name value => exact .setVariable s name value
  | exec fs line => exact .callAt fs maxDepth (.line line) s

/-- Behind requests, a shell holds what it held before with all changes written over it. -/
theorem recorded_history (s : Shell) (rs : List Request) :
    Recorded s (s.serveAll rs) (s.history rs) := by
  induction rs generalizing s with
  | nil => exact .refl s
  | cons r rs ih => exact (recorded_serve s r).trans (ih (s.serve r))

end Shell

end LineShell
