import LineShell.Proofs.Shell.Builtins

/-!
# What handlers are not aware of

A handler can ask its shell whether the loop goes on and how it was started, and it can go on behind
a line that nested too deep. Most do neither. What a program is not aware of is read off the program
(`Program.Unaware`): it does the same whatever the answers to some questions are, or gives up where
calls nest too deep, and registers no handlers but such. The built-in commands are aware of none of
these things (`Builtin.unaware_body`).
-/

namespace LineShell

/-- What handlers are taken not to be aware of. -/
structure Blind where
  /-- Questions whose answers make no difference to them. -/
  question : Question → Prop := fun _ => False
  /-- Whether they give up where calls nest too deep. -/
  depth : Prop := False

namespace Blind

/-- Handlers may be aware of everything. -/
def nothing : Blind := {}

/-- Handlers do not ask whether the loop goes on. -/
def running : Blind := { question := (· = .running) }

/-- Handlers do not ask how the loop is started. -/
def mode : Blind := { question := (· = .async) }

/-- Handlers ask nothing about the loop. -/
def loop : Blind := { question := fun _ => True }

/-- Handlers ask nothing about the loop, and give up where calls nest too deep. -/
def all : Blind := { question := fun _ => True, depth := True }

end Blind

variable {b : Blind}

/-! ## Programs -/

/-- Whether a program is not aware of something, and registers no handlers but such. -/
def Program.Unaware (b : Blind) : Program → Prop
  | .done => True
  | .fail _ => True
  | .write _ next => next.Unaware b
  | .log _ next => next.Unaware b
  | .note _ next => next.Unaware b
  | .setVariable _ _ next => next.Unaware b
  | .vars next => ∀ vs, (next vs).Unaware b
  | .commands next => ∀ texts, (next texts).Unaware b
  | .ask q next => (b.question q → next true = next false) ∧ ∀ a, (next a).Unaware b
  | .register _ _ _ body next => (∀ params, (body params).Unaware b) ∧ next.Unaware b
  | .call _ next =>
    (b.depth → next (.error .tooDeep) = .fail .tooDeep) ∧ ∀ r, (next r).Unaware b
  | .stop next => next.Unaware b
  | .readFile _ next => ∀ r, (next r).Unaware b

namespace Program

/-- A program that fails if its line does is not aware of anything, if what it goes on with is
not. -/
theorem unaware_exec (line : String) {next : Bool → Program} (h : ∀ a, (next a).Unaware b) :
    (exec line next).Unaware b :=
  ⟨fun _ => rfl, forall_orFail (fun _ => trivial) h⟩

theorem inherited_unaware : Inherited (fun _ => True) (Unaware b) where
  done := trivial
  fail _ := trivial
  write _ _ h := h
  log _ _ h := h
  setVariable _ _ _ h := h
  vars h := h
  commands h := h
  exec line _ h := unaware_exec line fun _ => h
  stop h := h
  readFile _ _ _ h := h

/-- To be aware of everything is to be unaware of nothing. -/
theorem unaware_nothing (p : Program) : p.Unaware .nothing := by
  induction p with
  | done => trivial
  | fail f => trivial
  | write text next ih => exact ih
  | log r next ih => exact ih
  | note n next ih => exact ih
  | setVariable name value next ih => exact ih
  | vars next ih => exact ih
  | commands next ih => exact ih
  | ask q next ih => exact ⟨False.elim, ih⟩
  | register name origin help body next ihBody ih => exact ⟨ihBody, ih⟩
  | call c next ih => exact ⟨False.elim, ih⟩
  | stop next ih => exact ih
  | readFile path next ih => exact ih

end Program

/-- The built-in commands are not aware of anything. -/
theorem Builtin.unaware_body (c : Builtin) (params : Params) : (c.body params).Unaware b :=
  inherited_body Program.inherited_unaware c params fun _ _ => trivial

/-! ## Shells -/

namespace Shell

/-- Whether no handler of a shell is aware of something. -/
def Unaware (b : Blind) (s : Shell) : Prop :=
  ∀ name h, s.commands.get? name = some h → ∀ params, (h.body params).Unaware b

variable {s : Shell}

theorem unaware_nothing (s : Shell) : s.Unaware .nothing :=
  fun _ h _ params => (h.body params).unaware_nothing

/-- So a shell with built-in commands only is not aware of anything. -/
theorem OnlyBuiltins.unaware (hs : s.OnlyBuiltins) : s.Unaware b := by
  intro name h hget params
  obtain ⟨c, rfl⟩ := hs name h hget
  exact c.unaware_body params

theorem Unaware.register (hs : s.Unaware b) (name : String) {h : Handler}
    (hh : ∀ params, (h.body params).Unaware b) : (s.register name h).Unaware b := by
  intro n h' hget
  rw [Shell.register, Assoc.get?_insert] at hget
  split at hget
  · exact Option.some.inj hget ▸ hh
  · exact hs n h' hget

end Shell

end LineShell
