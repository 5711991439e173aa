import LineShell.Proofs.Line.Grammar
import LineShell.Proofs.Shell.BuiltinPrograms

/-!
# Lines on a shell with built-in commands only

A handler may register commands and give values to any variables. The built-in ones register
nothing, and the names that they give values to stand among their parameters; what stands there is
a name of the grammar, if the parameters come from a line. So a shell with built-in commands only
keeps its registry whatever is typed, and gets no variable that could not be typed.

## How the proof goes

What a program may do to its shell is read off the program (`Program.SetsOnly`), without running
it; the built-in commands do no more (`Builtin.setsOnly_body`). A program whose parameters have the
right names runs lines only, since another command could be given any parameters. So the run of a
program needs to know of lines only what they do to the shell, and lines then follow by induction
on how deep they nest (`Shell.OnlyAdds.execAt`).
-/

namespace LineShell

variable {ok : String → Prop}

/-! ## What a program may do -/

/-- Whether a call is that of a line. -/
def Call.IsLine : Call → Prop
  | line _ => True
  | command _ _ => False

namespace Program

/-- Whether a program, whatever it comes to know, registers nothing, gives values only to variables
with the right names, and runs lines only. -/
def SetsOnly (ok : String → Prop) : Program → Prop
  | done => True
  | fail _ => True
  | write _ next => next.SetsOnly ok
  | log _ next => next.SetsOnly ok
  | note _ next => next.SetsOnly ok
  | setVariable name _ next => ok name ∧ next.SetsOnly ok
  | vars next => ∀ vs, (next vs).SetsOnly ok
  | commands next => ∀ texts, (next texts).SetsOnly ok
  | ask _ next => ∀ b, (next b).SetsOnly ok
  | register _ _ _ _ _ => False
  | call c next => c.IsLine ∧ ∀ r, (next r).SetsOnly ok
  | stop next => next.SetsOnly ok
  | readFile _ next => ∀ r, (next r).SetsOnly ok

theorem inherited_setsOnly : Inherited ok (SetsOnly ok) where
  done := trivial
  fail _ := trivial
  write _ _ h := h
  log _ _ h := h
  setVariable _ _ hname h := ⟨hname, h⟩
  vars h := h
  commands h := h
  exec _ _ h := ⟨trivial, forall_orFail (fun _ => trivial) fun _ => h⟩
  stop h := h
  readFile _ _ _ h := h

end Program

/-- The built-in commands give values only to variables that their parameters name. -/
theorem Builtin.setsOnly_body (b : Builtin) (params : Params) (h : ∀ n ∈ params.keys, ok n) :
    (b.body params).SetsOnly ok :=
  inherited_body Program.inherited_setsOnly b params h

/-! ## What lines do -/

namespace Shell

/-- Whether a shell has no commands but built-in ones, under whatever names. -/
def OnlyBuiltins (s : Shell) : Prop :=
  ∀ n h, s.commands.get? n = some h → ∃ b : Builtin, h = b.handler

/-- The shell after has the commands and the prompt of the shell before, and no new variables but
such with the right names. -/
structure OnlyAdds (ok : String → Prop) (s t : Shell) : Prop where
  commands : t.commands = s.commands
  prompt : t.prompt = s.prompt
  vars : ∀ n ∈ t.vars.keys, n ∈ s.vars.keys ∨ ok n

namespace OnlyAdds

variable {fs : Files} {call : Call → Shell → Outcome Bool} {s t u : Shell}

theorem refl (s : Shell) : OnlyAdds ok s s := ⟨rfl, rfl, fun _ => .inl⟩

theorem trans (h : OnlyAdds ok s t) (h' : OnlyAdds ok t u) : OnlyAdds ok s u where
  commands := h'.commands.trans h.commands
  prompt := h'.prompt.trans h.prompt
  vars n hn := (h'.vars n hn).elim (h.vars n) .inr

theorem onlyBuiltins (h : OnlyAdds ok s t) (hs : s.OnlyBuiltins) : t.OnlyBuiltins := by
  rw [OnlyBuiltins, h.commands]
  exact hs

theorem setVariable (s : Shell) {name : String} (value : String) (h : ok name) :
    OnlyAdds ok s (s.setVariable name value) where
  commands := rfl
  prompt := rfl
  vars _ hn := (Assoc.mem_keys_insert.1 hn).elim (fun he => .inr (he ▸ h)) .inl

/-- A program that may add no other variables adds none, if the lines that it runs add none. -/
theorem run
    (hcall : ∀ text {s : Shell}, s.OnlyBuiltins → OnlyAdds ok s (call (.line text) s).shell)
    {p : Program} (hp : p.SetsOnly ok) (hs : s.OnlyBuiltins) :
    OnlyAdds ok s (p.run fs call s).shell := by
  induction p generalizing s with
  | done => exact refl s
  | fail f => exact refl s
  | write text next ih => exact ih hp hs
  | log r next ih => exact ih hp hs
  | note n next ih => exact ih hp hs
  | setVariable name value next ih => exact (setVariable s value hp.1).trans (ih hp.2 hs)
  | vars next ih => exact ih s.vars (hp s.vars) hs
  | commands next ih => exact ih s.helpTexts (hp s.helpTexts) hs
  | ask q next ih => exact ih (s.answerTo q) (hp (s.answerTo q)) hs
  | register name origin help body next ihBody ih => exact hp.elim
  | call c next ih =>
    obtain ⟨hline, hp⟩ := hp
    cases c with
    | line text =>
      have hadds := hcall text hs
      exact hadds.trans (ih _ (hp _) (hadds.onlyBuiltins hs))
    | command name params => exact hline.elim
  | stop next ih =>
    have hstop : OnlyAdds ok s s.stop := ⟨rfl, rfl, fun _ => .inl⟩
    exact hstop.trans (ih hp (hstop.onlyBuiltins hs))
  | readFile path next ih => exact ih (fs.readText path) (hp _) hs

theorem dispatchWith
    (hcall : ∀ text {s : Shell}, s.OnlyBuiltins → OnlyAdds ok s (call (.line text) s).shell)
    (command : Option String) {params : Params} (hparams : ∀ n ∈ params.keys, ok n)
    (hs : s.OnlyBuiltins) : OnlyAdds ok s (s.dispatchWith fs call command params).shell := by
  rw [Shell.dispatchWith]
  split
  · exact refl s
  · next name h hget =>
    obtain ⟨b, rfl⟩ : ∃ b : Builtin, h = b.handler := by
      obtain ⟨n, -, hn⟩ := Option.bind_eq_some_iff.1 hget
      obtain ⟨h', hh', he⟩ := Option.map_eq_some_iff.1 hn
      cases he
      exact hs name h hh'
    -- resolving changes values, and the names are what the line gave
    refine run hcall (Builtin.setsOnly_body b _ fun n hn => hparams n ?_) hs
    rwa [substitute, Assoc.keys_mapValues] at hn

/-- A line adds no variables but such with a name of the grammar, however deep lines nest. -/
theorem execAt (depth : Nat) (line : String) (hs : s.OnlyBuiltins) :
    OnlyAdds (fun n => Line.isName n.toList = true) s (s.execAt fs depth line).shell := by
  induction depth generalizing line s with
  | zero => exact refl s
  | succ depth ih =>
    simp only [Shell.execAt, Shell.callAt]
    split
    · next hv =>
      exact dispatchWith (fun text _ => ih text) _ (fun _ => Line.isName_of_mem_params hv) hs
    · exact refl s

end OnlyAdds

theorem OnlyBuiltins.register {s : Shell} (hs : s.OnlyBuiltins) (name : String) (b : Builtin) :
    (s.register name b.handler).OnlyBuiltins := by
  intro n h hget
  rw [Shell.register, Assoc.get?_insert] at hget
  split at hget
  · exact ⟨b, (Option.some.inj hget).symm⟩
  · exact hs n h hget

theorem onlyBuiltins_standard (prompt : String) (runAsync : Bool) :
    (standard prompt runAsync).OnlyBuiltins := by
  have hnone : ({ prompt := prompt, runAsync := runAsync } : Shell).OnlyBuiltins := nofun
  have hall : ∀ (bs : List Builtin) {s : Shell}, s.OnlyBuiltins →
      (bs.foldl (fun s b => s.register b.name b.handler) s).OnlyBuiltins := by
    intro bs
    induction bs with
    | nil => exact id
    | cons b bs ih => exact fun hs => ih (hs.register b.name b)
  exact hall Builtin.all hnone

end Shell

end LineShell
