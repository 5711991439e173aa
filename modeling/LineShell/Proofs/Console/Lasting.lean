import LineShell.Proofs.Console.Interleaving
import LineShell.Proofs.Console.Reading
import LineShell.Proofs.Shell.Alike
import LineShell.Proofs.Shell.Builtins
import LineShell.Proofs.Text.Utf8
import Mathlib.Logic.Relation

/-!
# What lasts at a console

Things are done at a console one after the other (`Deed`): by the caller, or by single steps of the
loops beside the caller, in any order. Commands and variables may get new values, but their names
stay, whatever is done and whatever the handlers are. If there are built-in commands only, and no
more is done than to let lines run, then nothing else comes of it: the registry and the prompt stay,
only a start makes the shell run or says how, and the new variables have names of the grammar.

All that the methods of a shell do to it comes down to three things, one after the other: a variable
is given a value, a command is registered, or something is set that is neither (`Touch`). So does
every deed (`Console.touched_after`). A handler that did more with its shell than a `Program` says,
to start a loop, to run one in its own place or to wait for one, would touch it in no other way:
such a method sets what concerns the loop, and the lines that a loop reads run handlers, who touch
the shell in their turn. That names stay is said of all that touches a shell in these ways
(`Touched.grown`).

## How the proofs go

`Lasts` is a relation between the shell before and the shell after that lines and the end of a loop
respect. It is taken once through the steps of a loop and all that is done at a console
(`Lasts.does`), and then used for each of the facts.
-/

namespace LineShell

/-! ## What is done -/

/-- Whether an action does no more than to let lines run, or to look. -/
def Action.isTyped : Action → Bool
  | .dispatch _ _ => false
  | .setVariable _ _ => false
  | .register _ _ => false
  | .execute _ _ => false
  | .addBuiltins => false
  | .setPrompt _ => false
  | .setRunning _ => false
  | _ => true

/-- One thing that is done at a console, with the files as they are then. -/
inductive Deed where
  | act (fs : Files) (a : Action)
  /-- A loop is started beside the caller, and takes no step yet. -/
  | launch
  /-- A line arrives at the input, and no loop takes it yet. -/
  | arrive (line : List Char)
  /-- The loop with this number takes one step, if it can. -/
  | step (fs : Files) (k : Nat)

namespace Deed

def isTyped : Deed → Bool
  | act _ a => a.isTyped
  | _ => true

/-- Whether a loop is started. -/
def starts : Deed → Bool
  | act _ (.start _) => true
  | launch => true
  | _ => false

/-- How loops are started from then on. -/
def mode (was : Bool) : Deed → Bool
  | act _ (.start runAsync) => runAsync.getD was
  | launch => true
  | _ => was

/-- The shell with what a start changes. -/
def begun (d : Deed) (s : Shell) : Shell :=
  { s with runAsync := d.mode s.runAsync, running := d.starts || s.running }

end Deed

namespace Console

/-- The console after something was done. -/
def does (c : Console) : Deed → Console
  | .act fs a => (c.perform fs a).console
  | .launch => c.launch
  | .arrive line => { c with input := c.input.feed line }
  | .step fs k => (c.move (Shell.exec fs) (.step k)).getD c

/-- The console after several things were done, one after the other. -/
def after (c : Console) (ds : List Deed) : Console := ds.foldl does c

end Console

/-! ## What lines respect -/

/-- A relation between the shell before and the shell after that lines respect, and the end of a
loop. -/
structure Lasts (R : Shell → Shell → Prop) : Prop where
  refl : ∀ s, R s s
  trans : ∀ {s t u}, R s t → R t u → R s u
  line : ∀ fs line s, R s (s.exec fs line).shell
  script : ∀ fs path echo s, R s (s.runScript fs path echo).shell
  halted : ∀ s, R s { s with running := false }
  worker : ∀ s w, R s { s with worker := w }

namespace Lasts

variable {R : Shell → Shell → Prop} {fs : Files}

theorem stop (h : Lasts R) (s : Shell) : R s s.stop :=
  h.trans (h.halted s) (h.worker _ none)

theorem step (h : Lasts R) {l l' : Loop} (hl : l.step (Shell.exec fs) = some l') :
    R l.shell l'.shell := by
  cases Loop.stepped_of_step hl with
  | look _ => exact h.refl _
  | leave _ => exact h.refl _
  | read _ => exact h.refl _
  | close _ => exact h.refl _
  | pass => exact h.line fs _ _
  | fail => exact h.line fs _ _
  | finish => exact h.halted _

theorem run (h : Lasts R) (l : Loop) : R l.shell (l.run (Shell.exec fs)).shell := by
  induction l using Loop.run.induct (Shell.exec fs) with
  | case1 l hl =>
    rw [Loop.run_of_step_eq_none _ l hl]
    exact h.refl _
  | case2 l l' hl ih =>
    rw [Loop.run_of_step _ l l' hl]
    exact h.trans (h.step hl) ih

theorem advance (h : Lasts R) (s : Shell) (i : Input) (ps : List Phase) :
    R s (Console.advance (Shell.exec fs) s i ps).1.shell := by
  induction ps generalizing s i with
  | nil => exact h.refl s
  | cons p ps ih => exact h.trans (h.run ⟨p, s, i, []⟩) (ih _ _)

theorem settled (h : Lasts R) (c : Console) (es : List Event) :
    R c.shell (c.settled (Shell.exec fs) es).console.shell :=
  h.advance c.shell c.input c.loops

theorem start (h : Lasts R) (c : Console) (runAsync : Option Bool) :
    R { c.shell with runAsync := runAsync.getD c.shell.runAsync, running := true }
      (c.start (Shell.exec fs) runAsync).console.shell := by
  simp only [Console.start]
  split
  · refine h.trans (h.worker _ (some c.loops.length)) ?_
    exact h.advance _ c.input (c.loops ++ [.checking])
  · exact h.run (Loop.start _ c.input)

/-- Whatever is done lasts, if it is no more than to let lines run, on top of what a start
changes. -/
theorem does (h : Lasts R) (c : Console) {d : Deed} (hd : d.isTyped = true) :
    R (d.begun c.shell) (c.does d).shell := by
  cases d with
  | act fs a =>
    cases a with
    | exec line => exact h.line fs line c.shell
    | script path echo => exact h.script fs path echo c.shell
    | start runAsync => exact h.start c runAsync
    | run => exact h.run (Loop.start c.shell c.input)
    | stop => exact h.stop c.shell
    | feed line => exact h.settled { c with input := c.input.feed line.toList } []
    | _ => first | exact h.refl c.shell | cases hd
  | launch => exact h.worker _ _
  | arrive line => exact h.refl c.shell
  | step fs k =>
    cases hm : c.move (Shell.exec fs) (.step k) with
    | none =>
      simp only [Console.does, hm]
      exact h.refl c.shell
    | some c' =>
      obtain ⟨p, l, -, -, hl, rfl⟩ := Console.move_step_eq_some hm
      simp only [Console.does, hm]
      exact h.step hl

end Lasts

/-- What a handler keeps lasts, if the end of a loop keeps it. -/
theorem Keeps.lasts {R : Shell → Shell → Prop} (h : Keeps R)
    (halted : ∀ s : Shell, R s { s with running := false })
    (worker : ∀ (s : Shell) w, R s { s with worker := w }) : Lasts R where
  refl := h.refl
  trans := h.trans
  line _ line s := h.exec line s
  script _ _ _ s := h.run (h.callAt Shell.maxDepth) _ s
  halted := halted
  worker := worker

/-! ## Names -/

/-- No command and no variable of the shell before is missing in the shell after. -/
structure Grown (s t : Shell) : Prop where
  commands : s.commands.keys ⊆ t.commands.keys
  vars : s.vars.keys ⊆ t.vars.keys

namespace Grown

variable {s t u : Shell}

theorem of_alike (h : s.Alike t) : Grown s t := by
  constructor
  · rw [h.commands]
    exact List.Subset.refl _
  · rw [h.vars]
    exact List.Subset.refl _

theorem refl (s : Shell) : Grown s s := of_alike (.refl s)

theorem trans (h : Grown s t) (h' : Grown t u) : Grown s u :=
  ⟨List.Subset.trans h.commands h'.commands, List.Subset.trans h.vars h'.vars⟩

theorem setVariable (s : Shell) (name value : String) : Grown s (s.setVariable name value) :=
  ⟨List.Subset.refl _, fun _ hn => Assoc.mem_keys_insert.2 (.inr hn)⟩

theorem register (s : Shell) (name : String) (h : Handler) : Grown s (s.register name h) :=
  ⟨fun _ hn => Assoc.mem_keys_insert.2 (.inr hn), List.Subset.refl _⟩

end Grown

/-- One thing that a method of a shell changes in it. -/
inductive Touch : Shell → Shell → Prop
  | setVariable (s : Shell) (name value : String) : Touch s (s.setVariable name value)
  | register (s : Shell) (name : String) (h : Handler) : Touch s (s.register name h)
  /-- Something is set that is neither a command nor a variable. -/
  | beside {s t : Shell} : s.Alike t → Touch s t

/-- Whether one shell becomes the other by such changes, one after the other, whoever makes them. -/
def Touched : Shell → Shell → Prop := Relation.ReflTransGen Touch

theorem Touch.grown {s t : Shell} (h : Touch s t) : Grown s t := by
  cases h with
  | setVariable name value => exact .setVariable s name value
  | register name h => exact .register s name h
  | beside h => exact .of_alike h

namespace Touched

variable {s t u : Shell}

theorem refl (s : Shell) : Touched s s := Relation.ReflTransGen.refl

theorem trans (h : Touched s t) (h' : Touched t u) : Touched s u := Relation.ReflTransGen.trans h h'

theorem of_alike (h : s.Alike t) : Touched s t := .single (.beside h)

/-- No change takes a name away, so they all do not. -/
theorem grown (h : Touched s t) : Grown s t := by
  induction h with
  | refl => exact .refl s
  | tail _ hlast ih => exact ih.trans hlast.grown

theorem foldl_register {α : Type} (f : α → String × Handler) (l : List α) (s : Shell) :
    Touched s (l.foldl (fun s a => s.register (f a).1 (f a).2) s) := by
  induction l generalizing s with
  | nil => exact refl s
  | cons a l ih => exact trans (.single (.register s _ _)) (ih _)

end Touched

theorem keeps_touched : Keeps Touched where
  refl := .refl
  trans := .trans
  setVariable s name value := .single (.setVariable s name value)
  register s name h := .single (.register s name h)
  stop _ := .of_alike ⟨rfl, rfl⟩

theorem lasts_touched : Lasts Touched :=
  keeps_touched.lasts (fun _ => .of_alike ⟨rfl, rfl⟩) fun _ _ => .of_alike ⟨rfl, rfl⟩

theorem lasts_sameLoop : Lasts SameLoop :=
  keeps_sameLoop.lasts (fun _ => ⟨rfl, rfl, nofun⟩) fun _ _ => ⟨rfl, rfl, id⟩

/-- If the shell before has built-in commands only, the shell after has them as well, and no new
variables but such with a name of the grammar. -/
def Shell.LineMade (s t : Shell) : Prop :=
  s.OnlyBuiltins → Shell.OnlyAdds (fun n => Line.isName n.toList = true) s t

theorem lasts_lineMade : Lasts Shell.LineMade where
  refl s _ := .refl s
  trans h h' hs := (h hs).trans (h' ((h hs).onlyBuiltins hs))
  line _ line _ hs := Shell.OnlyAdds.execAt Shell.maxDepth line hs
  script _ _ _ _ hs := by
    have hnames : ∀ n ∈ ["filename", "print-lines"], Line.isName n.toList = true := by decide
    refine Shell.OnlyAdds.run (fun text _ => Shell.OnlyAdds.execAt Shell.maxDepth text)
      (Builtin.setsOnly_body .exec _ fun n hn => hnames n ?_) hs
    exact Assoc.mem_keys_ofList.1 hn
  halted _ _ := ⟨rfl, rfl, fun _ => .inl⟩
  worker _ _ _ := ⟨rfl, rfl, fun _ => .inl⟩

/-! ## All that is done -/

namespace Console

/-- A deed touches the shell, whatever the handlers are, and does nothing else to it. -/
theorem touched_does (c : Console) (d : Deed) : Touched c.shell (c.does d).shell := by
  have hbegun : Touched c.shell (d.begun c.shell) := .of_alike ⟨rfl, rfl⟩
  cases d with
  | act fs a =>
    cases a with
    | dispatch command params =>
      exact keeps_touched.dispatchWith (keeps_touched.callAt Shell.maxDepth) command params c.shell
    | execute b params =>
      exact keeps_touched.run (keeps_touched.callAt Shell.maxDepth) (b.body params) c.shell
    | setVariable name value => exact keeps_touched.setVariable c.shell name value
    | register names handler =>
      cases handler with
      | none => exact .refl c.shell
      | some h => exact .foldl_register (·, h) names c.shell
    | addBuiltins =>
      exact .foldl_register (fun b : Builtin => (b.name, b.handler)) Builtin.all c.shell
    | setPrompt prompt => exact .of_alike ⟨rfl, rfl⟩
    | setRunning running => exact .of_alike ⟨rfl, rfl⟩
    | _ => exact hbegun.trans (lasts_touched.does c rfl)
  | _ => exact hbegun.trans (lasts_touched.does c rfl)

/-- What every deed of a run keeps, the run keeps. -/
theorem after_of_does {R : Shell → Shell → Prop} (refl : ∀ s, R s s)
    (trans : ∀ {s t u}, R s t → R t u → R s u) {ds : List Deed}
    (h : ∀ d ∈ ds, ∀ c : Console, R c.shell (c.does d).shell) (c : Console) :
    R c.shell (c.after ds).shell := by
  induction ds generalizing c with
  | nil => exact refl c.shell
  | cons d ds ih =>
    rw [List.forall_mem_cons] at h
    exact trans (h.1 c) (ih h.2 _)

/-- So do all deeds of a run. -/
theorem touched_after (c : Console) (ds : List Deed) : Touched c.shell (c.after ds).shell :=
  after_of_does .refl .trans (fun d _ c => c.touched_does d) c

/-- Only a start makes the shell run, and says how. -/
theorem loop_after {ds : List Deed} (hd : ∀ d ∈ ds, d.isTyped = true) (c : Console) :
    (c.after ds).shell.runAsync = ds.foldl Deed.mode c.shell.runAsync ∧
      ((c.after ds).shell.running = true →
        c.shell.running = true ∨ ∃ d ∈ ds, d.starts = true) := by
  induction ds generalizing c with
  | nil => exact ⟨rfl, .inl⟩
  | cons d ds ih =>
    rw [List.forall_mem_cons] at hd
    have hfirst := lasts_sameLoop.does c hd.1
    obtain ⟨hmode, hrunning⟩ := ih hd.2 (c.does d)
    constructor
    · exact hmode.trans (congrArg (ds.foldl Deed.mode) hfirst.runAsync)
    · intro hr
      rcases hrunning hr with hr | ⟨e, he, hstarts⟩
      · rcases Bool.or_eq_true_iff.1 (hfirst.running hr) with hstarts | hr
        · exact .inr ⟨d, List.mem_cons_self, hstarts⟩
        · exact .inl hr
      · exact .inr ⟨e, List.mem_cons_of_mem _ he, hstarts⟩

/-- **Names stay, and lines add nothing but variables with names of the grammar.** Whatever is done,
and whatever else touches the shell then, no command and no variable goes away. If all commands are
built-in ones and lines are all that is run, then no command changes, nor does the prompt, and only
starts make the shell run or say how. -/
theorem names_stay (c : Console) (ds : List Deed) :
    (c.shell.commands.keys ⊆ (c.after ds).shell.commands.keys ∧
      c.shell.vars.keys ⊆ (c.after ds).shell.vars.keys) ∧
    (∀ t, Touched (c.after ds).shell t →
      c.shell.commands.keys ⊆ t.commands.keys ∧ c.shell.vars.keys ⊆ t.vars.keys) ∧
    (c.shell.OnlyBuiltins → (∀ d ∈ ds, d.isTyped = true) →
      (c.after ds).shell.commands = c.shell.commands ∧
      (c.after ds).shell.prompt = c.shell.prompt ∧
      (c.after ds).shell.runAsync = ds.foldl Deed.mode c.shell.runAsync ∧
      ((c.after ds).shell.running = true → c.shell.running = true ∨ ∃ d ∈ ds, d.starts = true) ∧
      ∀ n ∈ (c.after ds).shell.vars.keys,
        n ∈ c.shell.vars.keys ∨ Line.isName n.toList = true) := by
  have hgrown : ∀ t, Touched (c.after ds).shell t → Grown c.shell t :=
    fun t ht => ((c.touched_after ds).trans ht).grown
  have hself := hgrown _ (.refl _)
  refine ⟨⟨hself.commands, hself.vars⟩, fun t ht => ⟨(hgrown t ht).commands, (hgrown t ht).vars⟩,
    fun hs hd => ?_⟩
  have hmade : c.shell.LineMade (c.after ds).shell := by
    refine after_of_does lasts_lineMade.refl lasts_lineMade.trans (fun d hmem c => ?_) c
    -- what a start changes is no matter of names
    have hbegun : c.shell.LineMade (d.begun c.shell) := fun _ => ⟨rfl, rfl, fun _ => .inl⟩
    exact lasts_lineMade.trans hbegun (lasts_lineMade.does c (hd d hmem))
  have hadds := hmade hs
  obtain ⟨hmode, hrunning⟩ := loop_after hd c
  exact ⟨hadds.commands, hadds.prompt, hmode, hrunning, hadds.vars⟩

/-- A file of lines that runs another one, in which the shell is stopped. -/
def nestedFiles : Files :=
  ((∅ : Files).put ["a"] (.file (Text.Utf8.encode
    "setvar who=Bob\nexec filename=b\nsetvar after=[who]\n".toList))).put
    ["b"] (.file (Text.Utf8.encode "setvar x.y=1 =\nsetvar x:y=1\nexit\n".toList))

/-- A line that runs files in files adds the names that stand there, and stops the shell. -/
theorem names_stay_nested :
    let c : Console := ⟨Shell.standard "" true, .ofText "exec filename=a\nsetvar z=1\n".toList, []⟩
    let ds : List Deed := [.act nestedFiles (.start (some false)),
      .act nestedFiles (.exec "setvar z:=1 =")]
    c.shell.OnlyBuiltins ∧ (∀ d ∈ ds, d.isTyped = true) ∧
      (c.after ds).shell.vars.keys = ["who", "x:y", "after"] ∧
      (∀ n ∈ ["who", "x:y", "after"], Line.isName n.toList = true) ∧
      (c.after ds).shell.commands = c.shell.commands ∧
      (c.after ds).shell.runAsync = false ∧ (c.after ds).shell.running = false := by
  intro c ds
  have hs : c.shell.OnlyBuiltins := Shell.onlyBuiltins_standard "" true
  have hd : ∀ d ∈ ds, d.isTyped = true := List.all_eq_true.1 rfl
  have hvars : (c.after ds).shell.vars.keys = ["who", "x:y", "after"] := by decide +kernel
  obtain ⟨-, -, hlines⟩ := names_stay c ds
  obtain ⟨hcommands, -, hmode, -, hnames⟩ := hlines hs hd
  rw [hvars] at hnames
  refine ⟨hs, hd, hvars, fun n hn => ?_, hcommands, hmode, by decide +kernel⟩
  -- the shell had no variables before
  exact (hnames n hn).resolve_left List.not_mem_nil

end Console

end LineShell
