import LineShell.Proofs.Console.Lasting
import LineShell.Proofs.Console.Stopping

/-!
# What comes of each thing that is done

`Console.does` is the console that a deed leaves. Here is all that comes of it (`Console.respond`):
the reply, what was seen, and the failures that ended loops; and of several deeds, an answer to each
(`Console.answers`).

An answer depends on the files only as far as they were opened for it (`Console.respond_on`). So
it stays the same when other files change.
-/

namespace LineShell

/-! ## Deeds and their answers -/

/-- The same deed, with these files. -/
def Deed.on (fs : Files) : Deed → Deed
  | .act _ a => .act fs a
  | .step _ k => .step fs k
  | d => d

namespace Console

variable {c : Console} {fs fs' : Files}

/-- What comes of one step of a loop with this number, if it can take one. -/
def respondStep (fs : Files) (c : Console) (k : Nat) : Answer :=
  match c.loops[k]? with
  | none => c.answer .nothing
  | some p =>
    match Loop.step (Shell.exec fs) ⟨p, c.shell, c.input, []⟩ with
    | none => c.answer .nothing
    | some l => ⟨.ok .nothing, ⟨l.shell, l.input, c.loops.set k l.phase⟩, l.events,
        match l.phase with | .ended f => f.toList | _ => []⟩

/-- What comes of a deed. -/
def respond (c : Console) : Deed → Answer
  | .act fs a => c.perform fs a
  | .launch => ⟨.ok .nothing, c.launch, [Shell.record .debug "Input loop started"], []⟩
  | .arrive line => answer { c with input := c.input.feed line } .nothing
  | .step fs k => c.respondStep fs k

/-- The console that a deed leaves. -/
theorem console_respond (c : Console) (d : Deed) : (c.respond d).console = c.does d := by
  cases d with
  | act fs a => rfl
  | launch => rfl
  | arrive line => rfl
  | step fs k =>
    simp only [respond, respondStep, does, move]
    cases hp : c.loops[k]? with
    | none => rfl
    | some p =>
      simp only
      cases Loop.step (Shell.exec fs) ⟨p, c.shell, c.input, []⟩ <;> rfl

/-- What comes of several deeds, one after the other: an answer to each. -/
def answers (c : Console) : List Deed → List Answer
  | [] => []
  | d :: ds => c.respond d :: answers (c.does d) ds

/-- All that is seen in several answers. -/
def eventsOf (rs : List Answer) : List Event := rs.flatMap (·.events)

end Console

/-! ## Only what is opened counts -/

variable {fs fs' : Files}

theorem Shell.exec_on {s : Shell} {line : String} (h : fs.AgreeOn fs' (s.exec fs line).events) :
    s.exec fs' line = s.exec fs line :=
  (Indistinct.eq.exec line rfl ⟨False.elim, h⟩).eq

/-- Calls that settle what comes of them come to the same with the other files. -/
theorem Shell.agrees_callAt (depth : Nat) :
    Agrees .nothing Eq fs fs' (callAt fs depth) (callAt fs' depth) :=
  Indistinct.eq.callAt (Nat.le_refl depth) (.inr rfl)

theorem Shell.dispatch_on {s : Shell} {command : Option String} {params : Params}
    (h : fs.AgreeOn fs' (s.dispatch fs command params).events) :
    s.dispatch fs' command params = s.dispatch fs command params :=
  (Indistinct.eq.dispatchWith (agrees_callAt maxDepth) command params rfl ⟨False.elim, h⟩).eq

theorem Shell.perform_on {s : Shell} {p : Program}
    (h : fs.AgreeOn fs' (s.perform fs p).events) : s.perform fs' p = s.perform fs p :=
  (Indistinct.eq.run (agrees_callAt maxDepth) p.unaware_nothing rfl ⟨False.elim, h⟩).eq

theorem Shell.runScript_on {s : Shell} {path : String} {echo : Bool}
    (h : fs.AgreeOn fs' (s.runScript fs path echo).events) :
    s.runScript fs' path echo = s.runScript fs path echo := by
  rw [runScript, runScript, perform_on h.right]

/-- Whether lines come to the same in both ways to run them, if those files that the first way opens
have the same texts for the second. -/
def SameOn (fs fs' : Files) (exec exec' : String → Shell → Outcome Bool) : Prop :=
  ∀ line s, fs.AgreeOn fs' (exec line s).events → exec' line s = exec line s

variable {exec exec' : String → Shell → Outcome Bool}

namespace Loop

/-- A loop that runs a line can go on. -/
theorem step_ne_none (exec : String → Shell → Outcome Bool) {l : Loop} {line : String}
    (hp : l.phase = .executing line) : l.step exec ≠ none := by
  rw [Ne, step_eq_none_iff, hp]
  simp

/-- What is seen of a line is seen of the step that runs it. -/
theorem events_of_step {l l' : Loop} {line : String} (h : l.step exec = some l')
    (hp : l.phase = .executing line) : l'.events = (exec line l.shell).events := by
  simp only [step, hp] at h
  split at h <;> exact (Option.some.inj h) ▸ rfl

/-- A step depends on the files only as far as the line that it runs opens them. -/
theorem step_on (hexec : SameOn fs fs' exec exec') {l : Loop}
    (h : ∀ l', l.step exec = some l' → fs.AgreeOn fs' l'.events) :
    l.step exec' = l.step exec := by
  cases hp : l.phase with
  | executing line =>
    obtain ⟨l', hl⟩ := Option.ne_none_iff_exists'.1 (step_ne_none exec hp)
    have hline : fs.AgreeOn fs' (exec line l.shell).events := events_of_step hl hp ▸ h l' hl
    simp only [step, hp, hexec line l.shell hline]
  | _ => simp only [step, hp]

theorem run_on (hexec : SameOn fs fs' exec exec') {l : Loop}
    (h : fs.AgreeOn fs' (l.run exec).events) : l.run exec' = l.run exec := by
  induction l using Loop.run.induct exec with
  | case1 l hl =>
    have hstep : l.step exec' = none := by
      refine (step_on hexec fun l' hl' => ?_).trans hl
      cases hl.symm.trans hl'
    rw [run_of_step_eq_none _ l hl, run_of_step_eq_none _ l hstep]
  | case2 l l' hl ih =>
    rw [run_of_step _ l l' hl] at h ⊢
    have hstep : l.step exec' = some l' := by
      refine (step_on hexec fun l'' hl'' => ?_).trans hl
      exact Option.some.inj (hl.symm.trans hl'') ▸ h.left
    rw [run_of_step _ l l' hstep, ih h.right]

end Loop

namespace Console

variable {c : Console}

theorem advance_on (hexec : SameOn fs fs' exec exec') {s : Shell} {i : Input} {ps : List Phase}
    (h : fs.AgreeOn fs' (advance exec s i ps).2.1) :
    advance exec' s i ps = advance exec s i ps := by
  induction ps generalizing s i with
  | nil => rfl
  | cons p ps ih =>
    have hl : Loop.run exec' ⟨p, s, i, []⟩ = Loop.run exec ⟨p, s, i, []⟩ :=
      Loop.run_on hexec h.left
    simp only [advance, hl, ih h.right]

theorem settled_on (hexec : SameOn fs fs' exec exec') {es : List Event}
    (h : fs.AgreeOn fs' (settled exec c es).events) : settled exec' c es = settled exec c es := by
  have hadvance : c.settle exec' = c.settle exec := advance_on hexec h.right
  rw [settled, hadvance, settled]

theorem runLoop_on (hexec : SameOn fs fs' exec exec')
    (h : fs.AgreeOn fs' (runLoop exec c).events) : runLoop exec' c = runLoop exec c := by
  have hrun : Loop.runAll exec' c.shell c.input = Loop.runAll exec c.shell c.input := by
    rw [Loop.runAll, Loop.run_on hexec h.right, Loop.runAll]
  rw [runLoop, hrun, runLoop]

theorem start_on (hexec : SameOn fs fs' exec exec') {runAsync : Option Bool}
    (h : fs.AgreeOn fs' (start exec runAsync c).events) :
    start exec' runAsync c = start exec runAsync c := by
  simp only [start] at h ⊢
  split
  · next hasync =>
    rw [if_pos hasync] at h
    exact settled_on hexec h
  · next hasync =>
    rw [if_neg hasync] at h
    exact runLoop_on hexec h

/-- What is done comes to the same with other files, if those that are opened for it have the same
texts there. -/
theorem respond_on {d : Deed} (h : fs.AgreeOn fs' (c.respond (d.on fs)).events) :
    c.respond (d.on fs') = c.respond (d.on fs) := by
  have hexec : SameOn fs fs' (Shell.exec fs) (Shell.exec fs') := fun _ _ => Shell.exec_on
  cases d with
  | act _ a =>
    cases a with
    | exec line => exact congrArg (c.ofOutcome · .flag) (Shell.exec_on h)
    | dispatch command params => exact congrArg (c.ofOutcome · .flag) (Shell.dispatch_on h)
    | execute b params =>
      exact congrArg (c.ofOutcome · fun _ => .nothing) (Shell.perform_on h)
    | script path echo =>
      exact congrArg (c.ofOutcome · fun _ => .nothing) (Shell.runScript_on h)
    | start runAsync => exact start_on hexec h
    | run => exact runLoop_on hexec h
    | feed line => exact settled_on hexec h
    | _ => rfl
  | step _ k =>
    simp only [Deed.on, respond, respondStep] at h ⊢
    cases hp : c.loops[k]? with
    | none => rfl
    | some p =>
      have hstep := Loop.step_on hexec (l := ⟨p, c.shell, c.input, []⟩) fun l hl => by
        simp only [hp] at h
        rw [hl] at h
        exact h
      simp only [hstep]
  | _ => rfl

end Console

end LineShell
