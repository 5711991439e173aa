import LineShell.Proofs.Console.Answers
import LineShell.Proofs.Console.Typed
import LineShell.Proofs.Text.Lines
import LineShell.Shell.Handlers

/-!
# Lines that are fed one by one

A loop beside its caller is fed its lines one at a time, and then the end of the input. Between the
lines it takes as many steps as it likes, or none. In the end it has done what a loop in the
caller's place does with the whole text, if no handler asks how the loop was started, and no older
loop is there to take a line (`Console.fed_as_batch`); else it need not
(`Console.fed_not_as_batch`).

## How the proof goes

* A loop that goes on and is fed then comes to what it comes to if it is fed before (`Loop.Comes`).
  So nothing that is seen depends on when the lines arrive (`Console.led_of_session`): all of them
  can be there from the beginning.
* Then both loops have the same lines before them, and take the same steps (`Loop.Batched`). They
  differ only in how their inputs end: one is told so by an empty line, the other finds nothing
  more. Their shells differ only in how loops are started, which their handlers do not ask
  (`Shell.Akin`).
-/

namespace LineShell

/-! ## More lines at the input -/

namespace Input

variable {i : Input}

theorem fed_fed (i : Input) (lines lines' : List (List Char)) :
    (i.fed lines).fed lines' = i.fed (lines ++ lines') := by
  simp [fed]

/-- Who does not have to wait gets the same if more lines arrive, and they are still to come. -/
theorem next_fed (hw : i.tail = .waits) (hn : i.next.1 ≠ .waiting) (lines : List (List Char)) :
    (i.fed lines).next = (i.next.1, i.next.2.fed lines) := by
  obtain ⟨pending, tail⟩ := i
  obtain rfl : tail = .waits := hw
  cases pending with
  | nil => exact absurd rfl hn
  | cons r rest =>
    cases r with
    | fails f => rfl
    | line text => cases text <;> rfl

theorem tail_next (hw : i.tail = .waits) : i.next.2.tail = .waits := by
  obtain ⟨pending, tail⟩ := i
  obtain rfl : tail = .waits := hw
  cases pending with
  | nil => rfl
  | cons r rest =>
    cases r with
    | fails f => rfl
    | line text => cases text <;> rfl

end Input

namespace Loop

variable {exec : String → Shell → Outcome Bool} {l l' : Loop}

theorem after_after (es es' : List Event) (l : Loop) :
    (l.after es').after es = l.after (es ++ es') := by
  simp [after, List.append_assoc]

/-- A loop that has ended has ended. -/
theorem phase_run_of_ended {f : Option Failure} (h : l.phase = .ended f) :
    (l.run exec).phase = .ended f := by
  rw [run_of_step_eq_none exec l (step_eq_none_iff.2 (.inl ⟨f, h⟩))]
  exact h

/-- A loop that has gone on as far as it can goes no further. -/
theorem run_run (exec : String → Shell → Outcome Bool) (l : Loop) :
    (l.run exec).run exec = { l.run exec with events := [] } := by
  induction l using Loop.run.induct exec with
  | case1 l hl =>
    rw [run_of_step_eq_none exec l hl]
    exact run_of_step_eq_none exec { l with events := [] } hl
  | case2 l l' hl ih =>
    rw [run_of_step exec l l' hl]
    exact (run_events exec _ _ _ _).trans ((run_events exec _ _ _ _).symm.trans ih)

/-- A loop when more lines have arrived. -/
def fed (lines : List (List Char)) (l : Loop) : Loop := { l with input := l.input.fed lines }

theorem fed_fed (lines lines' : List (List Char)) (l : Loop) :
    (l.fed lines).fed lines' = l.fed (lines ++ lines') := by
  rw [fed, fed, fed, Input.fed_fed]

theorem fed_nil (l : Loop) : l.fed [] = l := by
  rw [fed, Input.fed_nil]

/-- A step that can be taken is the same step if more lines arrive. -/
theorem step_fed (hw : l.input.tail = .waits) (h : l.step exec = some l')
    (lines : List (List Char)) :
    (l.fed lines).step exec = some (l'.fed lines) ∧ l'.input.tail = .waits := by
  cases hp : l.phase with
  | reading =>
    have hn : l.input.next.1 ≠ .waiting := fun hn =>
      nomatch (step_eq_none_iff.2 (.inr ⟨hp, hn⟩)).symm.trans h
    have htail := Input.tail_next hw
    simp only [step, fed, hp, Input.next_fed hw hn] at h ⊢
    cases hr : l.input.next.1 with
    | line text =>
      simp only [hr] at h
      cases h
      exact ⟨rfl, htail⟩
    | ended =>
      simp only [hr] at h
      cases h
      exact ⟨rfl, htail⟩
    | failed f =>
      simp only [hr] at h
      dsimp only
      split at h
      · next hf =>
        cases h
        exact ⟨if_pos hf, htail⟩
      · next hf =>
        cases h
        exact ⟨if_neg hf, htail⟩
    | waiting => exact absurd hr hn
  | checking =>
    simp only [step, fed, hp] at h ⊢
    split at h
    · next hs =>
      cases h
      exact ⟨if_pos hs, hw⟩
    · next hs =>
      cases h
      exact ⟨if_neg hs, hw⟩
  | executing line =>
    simp only [step, fed, hp] at h ⊢
    cases hr : (exec line l.shell).result with
    | ok b =>
      simp only [hr] at h
      cases h
      exact ⟨rfl, hw⟩
    | error f =>
      simp only [hr] at h
      cases h
      exact ⟨rfl, hw⟩
  | ending f =>
    simp only [step, fed, hp] at h ⊢
    cases h
    exact ⟨rfl, hw⟩
  | ended f => cases (step_eq_none_iff.2 (.inl ⟨f, hp⟩)).symm.trans h

/-- Whether a loop comes to another one and shows these events on the way, and this whatever lines
arrive later. -/
structure Comes (exec : String → Shell → Outcome Bool) (l l' : Loop) (es : List Event) : Prop where
  run : ∀ lines, (l.fed lines).run exec = ((l'.fed lines).run exec).after es
  tail : l'.input.tail = .waits
  ended : ∀ f, l.phase = .ended f → l'.phase = .ended f

theorem Comes.refl (hw : l.input.tail = .waits) : Comes exec l l [] :=
  ⟨fun _ => rfl, hw, fun _ => id⟩

theorem Comes.step (hw : l.input.tail = .waits) (h : l.step exec = some l') :
    Comes exec l l' l'.events := by
  refine ⟨fun lines => ?_, (step_fed hw h []).2, fun f hf => ?_⟩
  · exact run_of_step exec _ _ (step_fed hw h lines).1
  · cases (step_eq_none_iff.2 (.inl ⟨f, hf⟩)).symm.trans h

/-- What arrives on the way arrives as well before the way. -/
theorem Comes.trans {l'' : Loop} {lines : List (List Char)} {es es' : List Event}
    (h : Comes exec l l' es) (h' : Comes exec (l'.fed lines) l'' es') :
    Comes exec (l.fed lines) l'' (es ++ es') := by
  refine ⟨fun more => ?_, h'.tail, fun f hf => h'.ended f (h.ended f hf)⟩
  rw [fed_fed, h.run, ← fed_fed, h'.run, after_after]

/-- It does not matter to a loop whether lines are there before it goes on, or arrive afterwards. -/
theorem Comes.toEnd (hw : l.input.tail = .waits) :
    Comes exec l (l.run exec) (l.run exec).events := by
  induction l using Loop.run.induct exec with
  | case1 l hl =>
    rw [run_of_step_eq_none exec l hl]
    exact ⟨fun lines => run_events exec _ _ _ _, hw, fun _ => id⟩
  | case2 l l' hl ih =>
    have hfirst := Comes.step hw hl
    have hrest := ih hfirst.tail
    rw [run_of_step exec _ _ hl]
    refine ⟨fun lines => ?_, hrest.tail, fun f hf => hrest.ended f (hfirst.ended f hf)⟩
    rw [hfirst.run, hrest.run, after_after]
    exact congrArg (Loop.after _) ((run_events exec _ _ _ _).trans (run_events exec _ _ _ _).symm)

end Loop

/-! ## A console with one loop -/

/-- The failure that ends a loop on the way from one phase to another. -/
def Phase.crash (p q : Phase) : List Failure :=
  match p, q with
  | .ended _, _ => []
  | _, .ended f => f.toList
  | _, _ => []

/-- A loop that has ended fails no more, so the failures of two ways are those of the whole. -/
theorem Phase.crash_trans {p q r : Phase} (hpq : ∀ f, p = .ended f → q = .ended f)
    (hqr : ∀ f, q = .ended f → r = .ended f) : p.crash q ++ q.crash r = p.crash r := by
  cases p with
  | ended f =>
    obtain rfl := hpq f rfl
    rfl
  | _ =>
    cases q with
    | ended f =>
      obtain rfl := hqr f rfl
      exact List.append_nil _
    | _ => cases r <;> rfl

theorem Phase.crash_of_isAlive {p : Phase} (h : p.isAlive = true) (q : Phase) :
    p.crash q = match q with | .ended f => f.toList | _ => [] := by
  cases p with
  | ended f => cases h
  | _ => cases q <;> rfl

theorem Phase.crash_self (p : Phase) : p.crash p = [] := by cases p <;> rfl

namespace Console

variable {exec : String → Shell → Outcome Bool} {old : List Phase} {l l' : Loop}

/-- The console of a loop that was started behind others. -/
def ofLoop (old : List Phase) (l : Loop) : Console := ⟨l.shell, l.input, old ++ [l.phase]⟩

/-- Loops that have ended let go on only those behind them. -/
theorem advance_of_ended (h : ∀ q ∈ old, q.isAlive = false) (s : Shell) (i : Input)
    (ps : List Phase) :
    advance exec s i (old ++ ps) =
      let r := advance exec s i ps
      ({ r.1 with loops := old ++ r.1.loops }, r.2.1, r.2.2) := by
  induction old with
  | nil => rfl
  | cons q old ih =>
    rw [List.forall_mem_cons] at h
    obtain ⟨f, rfl⟩ : ∃ f, q = .ended f := by
      cases q with
      | ended f => exact ⟨f, rfl⟩
      | _ => cases h.1
    have hrun : Loop.run exec ⟨.ended f, s, i, []⟩ = ⟨.ended f, s, i, []⟩ :=
      Loop.run_of_step_eq_none exec _ rfl
    simp only [List.cons_append, advance, hrun, ih h.2]
    rfl

theorem isBusy_eq_false {c : Console} : c.isBusy = false ↔ ∀ q ∈ c.loops, q.isAlive = false := by
  simp [isBusy, List.any_eq_false]

/-- Where all older loops have ended, only this one goes on. -/
theorem settle_ofLoop (exec : String → Shell → Outcome Bool) (h : ∀ q ∈ old, q.isAlive = false)
    (l : Loop) :
    (ofLoop old l).settle exec =
      (ofLoop old (l.run exec), (l.run exec).events, l.phase.crash (l.run exec).phase) := by
  have hrun : Loop.run exec ⟨l.phase, l.shell, l.input, []⟩ = l.run exec :=
    (Loop.run_events exec l.shell l.input l.events l.phase).symm
  simp only [settle, ofLoop, advance_of_ended h, advance, hrun, List.append_nil]
  rfl

end Console

/-! ## What feeds -/

/-- Whether no more is done than to bring a line or to let a loop take steps. -/
def Deed.isFeeding : Deed → Bool
  | .act _ (.feed _) => true
  | .arrive _ => true
  | .step _ _ => true
  | _ => false

/-- Whether a caller does something, who lets all loops go on then. -/
def Deed.isAct : Deed → Bool
  | .act _ _ => true
  | _ => false

theorem Deed.exists_eq_feed {d : Deed} (hd : d.isFeeding = true) (hact : d.isAct = true) :
    ∃ fs line, d = .act fs (.feed line) := by
  cases d with
  | act fs a =>
    cases a with
    | feed line => exact ⟨fs, line, rfl⟩
    | _ => cases hd
  | _ => cases hact

/-- The line that is brought, if any. -/
def Deed.brings : Deed → List (List Char)
  | .act _ (.feed line) => [line.toList]
  | .arrive line => [line]
  | _ => []

namespace Console

variable {d : Deed} {r : Answer}

/-- Whether an answer is what comes of a loop that comes to another one, where all older loops have
ended. -/
structure Led (exec : String → Shell → Outcome Bool) (old : List Phase) (l l' : Loop) (r : Answer) :
    Prop where
  console : r.console = ofLoop old l'
  crashes : r.crashes = l.phase.crash l'.phase
  comes : Loop.Comes exec l l' r.events

/-- Nothing comes of a loop that does nothing. -/
theorem Led.refl (hw : l.input.tail = .waits) (reply : Reply) :
    Led exec old l l ((ofLoop old l).answer reply) :=
  ⟨rfl, l.phase.crash_self.symm, .refl hw⟩

/-- All loops go on, which is to say the newest one. -/
theorem led_of_settled (h : ∀ q ∈ old, q.isAlive = false) (hw : l.input.tail = .waits) :
    Led exec old l (l.run exec) (settled exec (ofLoop old l) []) := by
  have hsettle := settle_ofLoop exec h l
  constructor
  · simp only [settled, hsettle]
  · simp only [settled, hsettle]
  · simp only [settled, hsettle, List.nil_append]
    exact .toEnd hw

/-- A loop takes a step, which can only be the newest one. -/
theorem led_of_step (h : ∀ q ∈ old, q.isAlive = false) (hw : l.input.tail = .waits) (fs : Files)
    (k : Nat) : ∃ l', Led (Shell.exec fs) old l l' ((ofLoop old l).respondStep fs k) := by
  unfold respondStep
  split
  · exact ⟨l, .refl hw _⟩
  · next p hp =>
    split
    · exact ⟨l, .refl hw _⟩
    · next l' hl =>
      have halive : p.isAlive = true := isAlive_of_step hl
      obtain ⟨rfl, rfl⟩ : k = old.length ∧ p = l.phase := by
        rcases Nat.lt_trichotomy k old.length with hlt | rfl | hgt
        · rw [ofLoop, List.getElem?_append_left hlt] at hp
          rw [h p (List.mem_of_getElem? hp)] at halive
          cases halive
        · simpa [ofLoop, eq_comm] using hp
        · rw [ofLoop, List.getElem?_eq_none (by simp; omega)] at hp
          cases hp
      refine ⟨l', ?_, ?_, ?_⟩
      · simp [ofLoop]
      · exact (Phase.crash_of_isAlive halive _).symm
      · exact .step hw hl

/-- What feeds a console leads its newest loop, with the line that is brought. -/
theorem led_of_feeding (h : ∀ q ∈ old, q.isAlive = false) (hw : l.input.tail = .waits) (fs : Files)
    (hd : d.isFeeding = true) :
    ∃ l', Led (Shell.exec fs) old (l.fed d.brings) l' ((ofLoop old l).respond (d.on fs)) := by
  cases d with
  | launch => cases hd
  | arrive line => exact ⟨l.fed [line], Led.refl (l := l.fed [line]) hw .nothing⟩
  | step _ k => exact l.fed_nil.symm ▸ led_of_step h hw fs k
  | act _ a =>
    cases a with
    | feed line => exact ⟨_, led_of_settled h (l := l.fed [line.toList]) hw⟩
    | _ => cases hd

/-- The same for all that is done, one after the other. -/
theorem led_of_all_feeding (h : ∀ q ∈ old, q.isAlive = false) (hw : l.input.tail = .waits)
    (fs : Files) {ds : List Deed} (hds : ∀ d ∈ ds, d.isFeeding = true) :
    let rs := (ofLoop old l).answers (ds.map (Deed.on fs))
    ∃ l', Led (Shell.exec fs) old (l.fed (ds.flatMap Deed.brings)) l'
      ⟨.ok .nothing, (ofLoop old l).after (ds.map (Deed.on fs)), eventsOf rs,
        rs.flatMap Answer.crashes⟩ := by
  induction ds generalizing l with
  | nil => exact ⟨l, by rw [List.flatMap_nil, Loop.fed_nil]; exact .refl hw .nothing⟩
  | cons d ds ih =>
    rw [List.forall_mem_cons] at hds
    obtain ⟨l₁, hfirst⟩ := led_of_feeding h hw fs hds.1
    obtain ⟨l₂, hrest⟩ := ih hfirst.comes.tail hds.2
    have hdoes : (ofLoop old l).does (d.on fs) = ofLoop old l₁ :=
      (console_respond _ _).symm.trans hfirst.console
    simp only [List.map_cons, answers, after, List.foldl_cons, hdoes, eventsOf, List.flatMap_cons]
    refine ⟨l₂, hrest.console, ?_, ?_⟩
    · have hcrashes := congrArg₂ (· ++ ·) hfirst.crashes hrest.crashes
      exact hcrashes.trans (Phase.crash_trans hfirst.comes.ended hrest.comes.ended)
    · rw [← Loop.fed_fed]
      exact hfirst.comes.trans hrest.comes

/-- A shell is started beside its caller where no loop is alive: a new loop begins, and perhaps
takes steps. -/
theorem led_of_start {c : Console} (hidle : ∀ q ∈ c.loops, q.isAlive = false)
    (hw : c.input.tail = .waits) (fs : Files) (hstarts : d.starts = true)
    (hasync : d.mode c.shell.runAsync = true) :
    ∃ l' r, Led (Shell.exec fs) c.loops ⟨.checking, c.launch.shell, c.input, []⟩ l' r ∧
      c.respond (d.on fs) =
        { r with events := Shell.record .debug "Input loop started" :: r.events } := by
  cases d with
  | launch =>
    exact ⟨_, _, Led.refl (l := ⟨.checking, c.launch.shell, c.input, []⟩) hw .nothing, rfl⟩
  | act _ a =>
    cases a with
    | start m =>
      refine ⟨_, settled (Shell.exec fs) c.launch [], led_of_settled hidle
        (l := ⟨.checking, c.launch.shell, c.input, []⟩) hw, ?_⟩
      have hm : m.getD c.shell.runAsync = true := hasync
      simp only [Deed.on, respond, perform, start, hm, if_true]
      rfl
    | _ => cases hstarts
  | arrive line => cases hstarts
  | step _ k => cases hstarts

/-- Where no loop is alive, to start beside the caller and to feed leads the new loop, with all the
lines that are brought. -/
theorem led_of_session {c : Console} (hidle : ∀ q ∈ c.loops, q.isAlive = false)
    (hw : c.input.tail = .waits) (fs : Files) (hstarts : d.starts = true)
    (hasync : d.mode c.shell.runAsync = true) {ds : List Deed}
    (hds : ∀ d ∈ ds, d.isFeeding = true) :
    let rs := c.answers ((d :: ds).map (Deed.on fs))
    ∃ l es, eventsOf rs = Shell.record .debug "Input loop started" :: es ∧
      Led (Shell.exec fs) c.loops
        ⟨.checking, c.launch.shell, c.input.fed (ds.flatMap Deed.brings), []⟩ l
        ⟨.ok .nothing, c.after ((d :: ds).map (Deed.on fs)), es, rs.flatMap Answer.crashes⟩ := by
  obtain ⟨l₁, r, hfirst, hr⟩ := led_of_start hidle hw fs hstarts hasync
  obtain ⟨l₂, hrest⟩ := led_of_all_feeding hidle hfirst.comes.tail fs hds
  have hdoes : c.does (d.on fs) = ofLoop c.loops l₁ := by
    rw [← console_respond, hr]
    exact hfirst.console
  have hanswers : c.answers ((d :: ds).map (Deed.on fs)) =
      c.respond (d.on fs) :: (ofLoop c.loops l₁).answers (ds.map (Deed.on fs)) := by
    rw [← hdoes]
    rfl
  simp only [hanswers, hr, eventsOf, List.flatMap_cons]
  refine ⟨l₂, _, rfl, ?_, ?_, hfirst.comes.trans hrest.comes⟩
  · exact (congrArg (after · (ds.map (Deed.on fs))) hdoes).trans hrest.console
  · exact (congrArg₂ (· ++ ·) hfirst.crashes hrest.crashes).trans
      (Phase.crash_trans hfirst.comes.ended hrest.comes.ended)

/-- What is left to do where a loop was led comes, with what was seen and what failed on the way, to
what that loop comes to by itself. -/
theorem Led.settle (h : Led exec old l l' r) (hold : ∀ q ∈ old, q.isAlive = false) :
    let x := r.console.settle exec
    x.1 = ofLoop old (l.run exec) ∧ r.events ++ x.2.1 = (l.run exec).events ∧
      r.crashes ++ x.2.2 = l.phase.crash (l.run exec).phase := by
  have hrun := h.comes.run []
  rw [Loop.fed_nil, Loop.fed_nil] at hrun
  rw [h.console, settle_ofLoop exec hold, hrun, h.crashes]
  exact ⟨rfl, rfl,
    Phase.crash_trans h.comes.ended fun _ hf => Loop.phase_run_of_ended hf⟩

/-- A caller who has fed a line leaves nothing to do, where all older loops have ended. -/
theorem settle_of_feed (h : ∀ q ∈ old, q.isAlive = false) (hw : l.input.tail = .waits) (fs : Files)
    (line : String) :
    let c := (ofLoop old l).does (.act fs (.feed line))
    c.settle (Shell.exec fs) = (c, [], []) := by
  intro c
  have hc : c = ofLoop old ((l.fed [line.toList]).run (Shell.exec fs)) :=
    (led_of_settled h (l := l.fed [line.toList]) hw).console
  rw [hc, settle_ofLoop _ h, Loop.run_run, Phase.crash_self]
  rfl

/-- So nothing is left to do where a caller has fed all lines. -/
theorem settle_of_acts {c : Console} (hidle : ∀ q ∈ c.loops, q.isAlive = false)
    (hw : c.input.tail = .waits) (fs : Files) (hstarts : d.starts = true)
    (hasync : d.mode c.shell.runAsync = true) {ds : List Deed} (hne : ds ≠ [])
    (hds : ∀ d ∈ ds, d.isFeeding = true) (hacts : ∀ d ∈ ds, d.isAct = true) :
    let c' := c.after ((d :: ds).map (Deed.on fs))
    c'.settle (Shell.exec fs) = (c', [], []) := by
  -- only what was done last matters, and that is to feed
  obtain ⟨init, e, rfl⟩ : ∃ init e, ds = init ++ [e] :=
    ⟨ds.dropLast, ds.getLast hne, (List.dropLast_concat_getLast hne).symm⟩
  rw [List.forall_mem_append, List.forall_mem_singleton] at hds hacts
  obtain ⟨fs', line, rfl⟩ := Deed.exists_eq_feed hds.2 hacts.2
  obtain ⟨l, _, -, hled⟩ := led_of_session hidle hw fs hstarts hasync hds.1
  intro c'
  have hc : c' = (ofLoop c.loops l).does (.act fs (.feed line)) := by
    rw [← hled.console]
    simp only [c', after, ← List.cons_append, List.map_append, List.foldl_append]
    rfl
  rw [hc]
  exact settle_of_feed hidle hled.comes.tail fs line

end Console

/-! ## The same lines in one piece -/

/-- Two shells that differ at most in how loops are started, and whose handlers do not ask that. -/
structure Shell.Akin (s t : Shell) : Prop where
  commands : t.commands = s.commands
  vars : t.vars = s.vars
  prompt : t.prompt = s.prompt
  running : t.running = s.running
  unaware : s.Unaware .mode

theorem Shell.Akin.indistinct : Indistinct .mode Shell.Akin where
  unaware h := h.unaware
  commands h := h.commands
  vars h := h.vars
  answer q h hq := by
    cases q with
    | running => exact h.running
    | async => exact absurd rfl hq
  setVariable name value h :=
    ⟨h.commands, congrArg (·.insert name value) h.vars, h.prompt, h.running, h.unaware⟩
  register name hd hhd h :=
    ⟨congrArg (·.insert name hd) h.commands, h.vars, h.prompt, h.running,
      h.unaware.register name hhd⟩
  stop h := ⟨h.commands, h.vars, h.prompt, rfl, h.unaware⟩

/-- Lines come to the same on such shells. -/
theorem Shell.Akin.exec {s t : Shell} (h : s.Akin t) (fs : Files) (line : String) :
    (s.exec fs line).Related Shell.Akin (t.exec fs line) :=
  Shell.Akin.indistinct.exec line h (Outcome.settles_self id fs _)

namespace Loop

variable {fs : Files} {l l' m : Loop}

/-- Two loops at the same point, with the same lines before them. One finds an empty line behind
them; for the other the input ends there. When they have seen that, they read no more. -/
inductive Batched : Loop → Loop → Prop
  | reading {p : Phase} {s t : Shell} {lines : List (List Char)} {es : List Event} :
    s.Akin t → (∀ text ∈ lines, text ≠ []) →
    Batched ⟨p, s, ⟨(lines ++ [[]]).map .line, .waits⟩, es⟩ ⟨p, t, ⟨lines.map .line, .ends⟩, es⟩
  | closing {p : Phase} {s t : Shell} {es : List Event} :
    s.Akin t → p.stepsLeft ≤ 1 → Batched ⟨p, s, .gate, es⟩ ⟨p, t, ⟨[], .ends⟩, es⟩

theorem Batched.after (h : Batched l m) (es : List Event) : Batched (l.after es) (m.after es) := by
  cases h with
  | reading hs hne => exact .reading hs hne
  | closing hs hp => exact .closing hs hp

/-- What has been seen does not matter for what is to come. -/
theorem Batched.forget (h : Batched l m) :
    Batched { l with events := [] } { m with events := [] } := by
  cases h with
  | reading hs hne => exact .reading hs hne
  | closing hs hp => exact .closing hs hp

theorem Batched.events (h : Batched l m) : m.events = l.events := by cases h <;> rfl

theorem Batched.phase (h : Batched l m) : m.phase = l.phase := by cases h <;> rfl

theorem Batched.shell (h : Batched l m) : l.shell.Akin m.shell := by cases h <;> assumption

/-- Both take the same step. -/
theorem Batched.step (h : Batched l m) (hl : l.step (Shell.exec fs) = some l') :
    ∃ m', m.step (Shell.exec fs) = some m' ∧ Batched l' m' := by
  cases h with
  | @reading p s t lines es hs hne =>
    cases p with
    | checking =>
      simp only [Loop.step] at hl ⊢
      rw [hs.running, promptEvents_congr hs.prompt]
      split at hl
      · next hr =>
        cases hl
        exact ⟨_, if_pos hr, .reading hs hne⟩
      · next hr =>
        cases hl
        exact ⟨_, if_neg hr, .reading hs hne⟩
    | reading =>
      cases lines with
      | nil =>
        -- here both inputs end
        cases hl
        exact ⟨_, rfl, .closing hs (Nat.le_refl 1)⟩
      | cons text lines =>
        rw [List.forall_mem_cons] at hne
        obtain ⟨x, text, rfl⟩ := List.exists_cons_of_ne_nil hne.1
        cases hl
        exact ⟨_, rfl, .reading hs hne.2⟩
    | executing line =>
      have ho := hs.exec fs line
      simp only [Loop.step] at hl ⊢
      rw [ho.result, ho.events]
      split at hl <;> cases hl <;> exact ⟨_, rfl, .reading ho.shell hne⟩
    | ending f =>
      cases hl
      exact ⟨_, rfl, .reading ⟨hs.commands, hs.vars, hs.prompt, rfl, hs.unaware⟩ hne⟩
    | ended f => cases hl
  | @closing p s t es hs hp =>
    cases p with
    | ending f =>
      cases hl
      exact ⟨_, rfl, .closing ⟨hs.commands, hs.vars, hs.prompt, rfl, hs.unaware⟩ (Nat.zero_le 1)⟩
    | ended f => cases hl
    | checking | reading | executing _ => exact absurd hp (by simp [Phase.stepsLeft])

/-- At the beginning, one has been fed all lines and the end of the input, and the other has the
text. -/
theorem batched_of_lines {s t : Shell} (h : s.Akin t) {lines : List (List Char)}
    (hlines : ∀ l ∈ lines, Text.IsLine l) :
    Batched ⟨.checking, s, Input.gate.fed (lines ++ [[]]), []⟩
      ⟨.checking, t, .ofText lines.flatten, []⟩ := by
  rw [Input.ofText, Text.splitKeeping_flatten hlines]
  exact .reading h fun l hl => (hlines l hl).ne_nil

/-- Neither waits for a line. -/
theorem Batched.ended_of_step (h : Batched l m) (hl : l.step (Shell.exec fs) = none) :
    ∃ f, l.phase = .ended f := by
  refine (step_eq_none_iff.1 hl).resolve_right fun ⟨hp, hnext⟩ => ?_
  cases h with
  | @reading p s t lines es hs hne =>
    cases lines with
    | nil => cases hnext
    | cons text lines => cases text <;> cases hnext
  | @closing p s t es hs hle =>
    obtain rfl : p = .reading := hp
    exact absurd hle (by decide)

/-- Both end in the same way. -/
theorem Batched.run (fs : Files) (h : Batched l m) :
    Batched (l.run (Shell.exec fs)) (m.run (Shell.exec fs)) ∧
      ∃ f, (l.run (Shell.exec fs)).phase = .ended f := by
  induction l using Loop.run.induct (Shell.exec fs) generalizing m with
  | case1 l hl =>
    obtain ⟨f, hf⟩ := h.ended_of_step hl
    have hm : m.step (Shell.exec fs) = none := step_eq_none_iff.2 (.inl ⟨f, h.phase.trans hf⟩)
    rw [run_of_step_eq_none _ _ hl, run_of_step_eq_none _ _ hm]
    exact ⟨h.forget, f, hf⟩
  | case2 l l' hl ih =>
    obtain ⟨m', hm, hnext⟩ := h.step hl
    obtain ⟨hrun, hended⟩ := ih hnext
    rw [run_of_step _ _ _ hl, run_of_step _ _ _ hm, hnext.events]
    exact ⟨hrun.after _, hended⟩

end Loop

/-- What is left of the lines, apart from the mark of the end, is what the other one has left. -/
theorem Loop.Batched.pending {l m : Loop} (h : Loop.Batched l m) :
    l.input.pending.filter (· ≠ .line []) = m.input.pending := by
  cases h with
  | @reading p s t lines es hs hne =>
    have hall : ∀ r ∈ lines.map Read.line, decide (r ≠ .line []) = true := by
      simpa using hne
    simp only [List.map_append, List.filter_append, List.filter_eq_self.2 hall]
    exact List.append_nil _
  | closing hs hp => rfl

/-- The failure that an answer tells of, if any. -/
def Answer.failed (r : Answer) : List Failure :=
  match r.reply with
  | .ok _ => []
  | .error f => [f]

namespace Console

/-- Whether a console is left as a loop in the caller's place leaves it, all loops have ended, and
what was seen and what failed are the same. -/
structure AsBatch (batch : Answer) (c : Console) (es : List Event) (crashes : List Failure) :
    Prop where
  events : es = batch.events
  commands : c.shell.commands = batch.console.shell.commands
  vars : c.shell.vars = batch.console.shell.vars
  prompt : c.shell.prompt = batch.console.shell.prompt
  running : c.shell.running = batch.console.shell.running
  /-- Nobody read the same lines; that the input has ended is no line. -/
  unread : c.input.pending.filter (· ≠ .line []) = batch.console.input.pending
  crashes : crashes = batch.failed
  idle : c.isBusy = false

/-- Two loops that end in the same way, one beside the caller and one in its place. -/
theorem asBatch_of_batched {exec : String → Shell → Outcome Bool} {old : List Phase} {l : Loop}
    {f : Option Failure} {s : Shell} {i : Input} (hold : ∀ q ∈ old, q.isAlive = false)
    (h : Loop.Batched l (Loop.run exec ⟨.checking, s, i, []⟩)) (hf : l.phase = .ended f) :
    AsBatch (runLoop exec ⟨s, i, old⟩) (ofLoop old l)
      (Shell.record .debug "Input loop started" :: l.events) (Phase.crash .checking l.phase) := by
  obtain ⟨m, hm⟩ : ∃ m, m = Loop.run exec ⟨.checking, s, i, []⟩ := ⟨_, rfl⟩
  rw [← hm] at h
  have hrun : Loop.runAll exec s i = m.after [Shell.record .debug "Input loop started"] := by
    rw [Loop.runAll, Loop.start, Loop.run_events, hm]
  have hshell := h.shell
  have hphase : m.phase = .ended f := h.phase.trans hf
  simp only [runLoop, hrun, Loop.after, hphase]
  refine ⟨?_, hshell.commands.symm, hshell.vars.symm, hshell.prompt.symm, hshell.running.symm,
    h.pending, ?_, ?_⟩
  · rw [h.events]
    rfl
  · rw [hf]
    cases f <;> rfl
  · refine isBusy_eq_false.2 (List.forall_mem_append.2 ⟨hold, ?_⟩)
    simp [hf, Phase.isAlive]

/-- **A loop that is fed its lines one by one comes to what a loop in the caller's place comes to
with the whole text.** No loop of the shell is alive, no handler asks how the loop is started, and
the shell waits for lines. It is started beside its caller, the lines arrive and then the end of the
input, and the loop takes its steps at any time in between. When it has then gone on as far as it
can, the same was seen in the same order, the shell has the same commands, variables and prompt and
does not run, the same lines are left, and what failed is the same. A caller who feeds it and lets
it go on each time finds it so behind the end of the input. -/
theorem fed_as_batch (fs : Files) (c : Console) (hidle : c.isBusy = false)
    (hunaware : c.shell.Unaware .mode) (hgate : c.input = .gate) {d : Deed}
    (hstarts : d.starts = true) (hasync : d.mode c.shell.runAsync = true) {m : Option Bool}
    (hsync : m.getD c.shell.runAsync = false) {lines : List (List Char)}
    (hlines : ∀ l ∈ lines, Text.IsLine l) {ds : List Deed} (hds : ∀ d ∈ ds, d.isFeeding = true)
    (hbrings : ds.flatMap Deed.brings = lines ++ [[]]) :
    let batch := { c with input := .ofText lines.flatten }.perform fs (.start m)
    let rs := c.answers ((d :: ds).map (Deed.on fs))
    let c' := c.after ((d :: ds).map (Deed.on fs))
    let x := c'.settle (Shell.exec fs)
    AsBatch batch x.1 (eventsOf rs ++ x.2.1) (rs.flatMap Answer.crashes ++ x.2.2) ∧
      ((∀ d ∈ ds, d.isAct = true) →
        AsBatch batch c' (eventsOf rs) (rs.flatMap Answer.crashes)) := by
  have hold := isBusy_eq_false.1 hidle
  have hw : c.input.tail = .waits := hgate ▸ rfl
  intro batch rs c' x
  have hsame : AsBatch batch x.1 (eventsOf rs ++ x.2.1) (rs.flatMap Answer.crashes ++ x.2.2) := by
    obtain ⟨l, es, hes, hled⟩ := led_of_session hold hw fs hstarts hasync hds
    obtain ⟨hconsole, hevents, hcrashes⟩ := hled.settle hold
    rw [hgate, hbrings] at hconsole hevents hcrashes
    have hbatch : batch = runLoop (Shell.exec fs)
        ⟨{ c.shell with runAsync := false, running := true }, .ofText lines.flatten, c.loops⟩ := by
      simp only [batch, perform, start, hsync, Bool.false_eq_true, if_false]
    have hakin : Shell.Akin c.launch.shell { c.shell with runAsync := false, running := true } :=
      ⟨rfl, rfl, rfl, rfl, hunaware⟩
    obtain ⟨hends, f, hf⟩ := (Loop.batched_of_lines hakin hlines).run fs
    rw [hconsole, hcrashes, hes, List.cons_append, hevents, hbatch]
    exact asBatch_of_batched hold hends hf
  refine ⟨hsame, fun hacts => ?_⟩
  -- the end of the input has been brought, so something was done
  have hne : ds ≠ [] := by
    rintro rfl
    exact absurd hbrings.symm (List.append_ne_nil_of_right_ne_nil _ (List.cons_ne_nil _ _))
  have hx : x = (c', [], []) := settle_of_acts hold hw fs hstarts hasync hne hds hacts
  simpa only [hx, List.append_nil] using hsame

/-- A shell with the built-in commands, and one that fails. -/
def faulty : Shell :=
  (Shell.standard "> " true).register "fail" (.failing (.other "RuntimeError" "no more"))

theorem unaware_faulty : faulty.Unaware .mode :=
  (Shell.onlyBuiltins_standard "> " true).unaware.register "fail" fun _ => trivial

/-- Lines of which the second is none of the grammar, the third runs a file, and the fourth
fails. -/
def faultyLines : List (List Char) :=
  ["setvar x=1\n".toList, "=\n".toList, "exec filename=t\n".toList, "fail\n".toList,
    "echo text=late\n".toList]

/-- Lines arrive before, while and after the loop takes steps. It fails at the fourth line, as the
loop in the caller's place does, and both leave the fifth. -/
theorem fed_as_batch_faulty :
    let fs := withFile "echo text=[x]\n"
    let c : Console := ⟨faulty, .gate, []⟩
    let ds : List Deed := [.arrive "setvar x=1\n".toList, .step fs 0, .step fs 0,
      .act fs (.feed "=\n"), .arrive "exec filename=t\n".toList, .step fs 0,
      .arrive "fail\n".toList, .act fs (.feed "echo text=late\n"), .arrive []]
    let batch := { c with input := .ofText faultyLines.flatten }.perform fs (.start (some false))
    let rs := c.answers ((.launch :: ds).map (Deed.on fs))
    let x := (c.after ((.launch :: ds).map (Deed.on fs))).settle (Shell.exec fs)
    let feeds : List Deed := (faultyLines ++ [[]]).map fun l => .act fs (.feed (String.ofList l))
    let all := (.act fs (.start (some true)) :: feeds).map (Deed.on fs)
    Event.written batch.events = "> > > Executing file: t\n1\n> " ∧
      batch.failed = [.other "RuntimeError" "no more"] ∧
      batch.console.input.pending = [.line "echo text=late\n".toList] ∧
      AsBatch batch x.1 (eventsOf rs ++ x.2.1) (rs.flatMap Answer.crashes ++ x.2.2) ∧
      AsBatch batch (c.after all) (eventsOf (c.answers all))
        ((c.answers all).flatMap Answer.crashes) := by
  intro fs c ds
  refine ⟨by decide +kernel, by decide +kernel, by decide +kernel, ?_, ?_⟩
  · exact (fed_as_batch fs c rfl unaware_faulty rfl rfl rfl rfl (by decide) (by decide)
      (by decide)).1
  · exact (fed_as_batch fs c rfl unaware_faulty rfl rfl rfl rfl (by decide) (by decide)
      (by decide)).2 (by decide)

/-- A shell with the built-in commands, and one that tells how loops are started. -/
def telling : Shell := (Shell.standard "" true).register "mode" .modeTeller

/-- A handler that asks how the loop was started gets another answer in the caller's place. And if a
loop is alive that was started before, it takes the first line: if that stops the shell, the new
loop still gets the next one, which a loop in the caller's place leaves. -/
theorem fed_not_as_batch :
    let fs : Files := ∅
    let feeds (texts : List String) : List Deed :=
      .act fs (.start (some true)) :: texts.map fun t => .act fs (.feed t)
    let batch (c : Console) (texts : List String) : Answer :=
      { c with input := .ofText (String.join texts).toList }.perform fs (.start (some false))
    let c : Console := ⟨telling, .gate, []⟩
    let d : Console := (⟨Shell.standard "" true, .gate, []⟩ : Console).after
      [.act fs (.start none), .act fs .stop]
    (c.isBusy = false ∧ Event.written (batch c ["mode\n"]).events = "False\n" ∧
      Event.written (eventsOf (c.answers (feeds ["mode\n", ""]))) = "True\n") ∧
    (d.isBusy = true ∧
      Event.written (batch d ["exit\n", "echo text=late\n"]).events = "" ∧
      (batch d ["exit\n", "echo text=late\n"]).console.input.pending =
        [.line "echo text=late\n".toList] ∧
      Event.written (eventsOf (d.answers (feeds ["exit\n", "echo text=late\n", ""]))) = "late\n" ∧
      (d.after (feeds ["exit\n", "echo text=late\n", ""])).input.pending = [.line []]) := by
  decide +kernel

end Console

end LineShell
