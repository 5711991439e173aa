import LineShell.Shell.Builtin

/-!
# What the built-in commands are made of

The programs of the built-in commands do only some of the things that a program can do: they never
register a command, never ask about the loop, and never go on behind a line that failed. So a
property of programs that is inherited along these things (`Program.Inherited`) is one of all
built-in commands. They are gone through once for this (`Builtin.inherited_body`).
-/

namespace LineShell

open Text

namespace Program

/-- What goes on behind a result, or fails, has a property if both ways have it. -/
theorem forall_orFail {P : Program → Prop} (hfail : ∀ f, P (fail f)) {next : Bool → Program}
    (h : ∀ b, P (next b)) (r : Except Failure Bool) : P (orFail next r) := by
  cases r with
  | ok b => exact h b
  | error f => exact hfail f

/-- A property of programs that passes from what is left of a program to the whole, for all that
built-in commands do. Only variables with the right names are given values, and what is done with
the text of a file does not depend on its line ends. -/
structure Inherited (ok : String → Prop) (P : Program → Prop) : Prop where
  done : P done
  fail : ∀ f, P (fail f)
  write : ∀ text {next}, P next → P (write text next)
  log : ∀ r {next}, P next → P (log r next)
  setVariable : ∀ {name} value {next}, ok name → P next → P (setVariable name value next)
  vars : ∀ {next}, (∀ vs, P (next vs)) → P (vars next)
  commands : ∀ {next}, (∀ texts, P (next texts)) → P (commands next)
  exec : ∀ line {next}, P next → P (exec line fun _ => next)
  stop : ∀ {next}, P next → P (stop next)
  readFile : ∀ path {next}, (∀ r r', r'.map unifyNewlines = r.map unifyNewlines →
    next r' = next r) → (∀ r, P (next r)) → P (readFile path next)

namespace Inherited

variable {ok : String → Prop} {P : Program → Prop} {next : Program}

theorem writeAll (h : Inherited ok P) (texts : List String) (hnext : P next) :
    P (writeAll texts next) := by
  induction texts with
  | nil => exact hnext
  | cons text texts ih => exact h.write text ih

theorem execAll (h : Inherited ok P) (echo : Bool) (lines : List String) (hnext : P next) :
    P (execAll echo lines next) := by
  induction lines with
  | nil => exact hnext
  | cons line lines ih =>
    cases echo with
    | true => exact h.write _ (h.exec line ih)
    | false => exact h.exec line ih

theorem assignments (h : Inherited ok P) {ps : List (String × String)} (hps : ∀ p ∈ ps, ok p.1) :
    P (ps.foldr (fun p next => Program.setVariable p.1 p.2 next) Program.done) := by
  induction ps with
  | nil => exact h.done
  | cons p ps ih =>
    rw [List.forall_mem_cons] at hps
    exact h.setVariable p.2 hps.1 (ih hps.2)

end Inherited

end Program

namespace Builtin

/-- The lines of a file do not depend on its line ends. -/
theorem linesOf_congr {text text' : List Char} (h : unifyNewlines text' = unifyNewlines text) :
    linesOf text' = linesOf text := by
  rw [linesOf, h, linesOf]

variable {ok : String → Prop} {P : Program → Prop}

theorem inherited_runFile (h : Program.Inherited ok P) (path : String) (echo : Bool) :
    P (runFile path echo) := by
  refine h.write _ (h.readFile path (fun r r' hr => ?_) fun r => ?_)
  · cases r with
    | ok text =>
      cases r' with
      | ok text' => simp only [linesOf_congr (Except.ok.inj hr)]
      | error e => cases hr
    | error e =>
      cases r' with
      | ok text' => cases hr
      | error e' => rw [Except.error.inj hr]
  · cases r with
    | ok text => exact h.execAll echo (linesOf text) h.done
    | error e =>
      cases e with
      | nullInPath => exact h.fail _
      | _ => exact h.log _ h.done

/-- What is inherited along all that built-in commands do is a property of them, if the variables
that their parameters name have the right names. -/
theorem inherited_body (h : Program.Inherited ok P) (b : Builtin) (params : Params)
    (hparams : ∀ n ∈ params.keys, ok n) : P (b.body params) := by
  cases b with
  | exit => exact h.stop h.done
  | echo => exact h.write _ h.done
  | help => exact h.commands fun texts => h.writeAll (helpLines texts) h.done
  | setvar => exact h.assignments fun p hp => hparams p.1 (List.mem_map_of_mem hp)
  | printvar => exact h.vars fun vars => h.writeAll _ h.done
  | exec =>
    simp only [body]
    split
    · exact h.log _ h.done
    · exact h.log _ h.done
    · exact inherited_runFile h _ _

end Builtin

end LineShell
