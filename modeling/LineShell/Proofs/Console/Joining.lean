import LineShell.Proofs.Console.Stopping

/-!
# Waiting for a loop to end

Whoever joins a console waits for the loop that its shell remembers at that time, and for no other.
A start makes the shell remember the new loop, and a stop makes it forget, although the loop that
was started may still wait for a line, or be about to look at its shell. So there are loops that
nobody waits for: those that were stopped, and those that are older than the last start.

Here a shell is started and stopped as often as one likes, also while it runs. Whoever joins finds
no loop alive afterwards, exactly if the only loop that could be alive is the one that was started
last and has not been stopped since.

## How the proofs go

* what the shell remembers is read off the moves (`Console.worker_after_iff`)
* without a start, no loop comes to life (`Console.isAlive_of_after`)
* a loop that has been stopped can be led to its end by itself (`Console.exists_ended`), so that
  the wait for one loop may be over while any other is still alive
-/

namespace LineShell

variable {fs : Files} {c : Console} {k : Nat} {p : Phase}

/-- A reader waits only where nothing is pending and somebody will feed the input. -/
theorem Input.eq_gate_of_waiting {i : Input} (h : i.next.1 = .waiting) : i = .gate := by
  obtain ⟨pending, tail⟩ := i
  cases pending with
  | nil => cases tail <;> first | rfl | cases h
  | cons r rest =>
    cases r with
    | line text => cases text <;> cases h
    | fails f => cases h

namespace Console

/-! ## Moves one after the other -/

/-- The console after a move: a start finds no guard, and a step that is not possible changes
nothing. -/
def made (fs : Files) (c : Console) : Move → Console
  | .start => c.launch
  | .stop => { c with shell := c.shell.stop }
  | .arrive line => { c with input := c.input.feed line }
  | .step k => (c.move (Shell.exec fs) (.step k)).getD c

/-- A move that is possible where starts are guarded comes to the same without the guard. -/
theorem made_of_move {m : Move} {c' : Console} (h : c.move (Shell.exec fs) m = some c') :
    c.made fs m = c' := by
  cases m with
  | start => exact (move_start_eq_some h).2.symm
  | stop => exact Option.some.inj h
  | arrive line => exact Option.some.inj h
  | step k => rw [made, h, Option.getD_some]

/-- The console after several moves. -/
def afterMoves (fs : Files) (c : Console) (ms : List Move) : Console := ms.foldl (made fs) c

@[simp] theorem afterMoves_nil : c.afterMoves fs [] = c := rfl

@[simp] theorem afterMoves_cons (m : Move) (ms : List Move) :
    c.afterMoves fs (m :: ms) = (c.made fs m).afterMoves fs ms := rfl

theorem afterMoves_append (ms ms' : List Move) :
    c.afterMoves fs (ms ++ ms') = (c.afterMoves fs ms).afterMoves fs ms' :=
  List.foldl_append

/-- The step of a loop that can take one. -/
theorem made_step {l : Loop} (hp : c.loops[k]? = some p)
    (hl : Loop.step (Shell.exec fs) ⟨p, c.shell, c.input, []⟩ = some l) :
    c.made fs (.step k) = ⟨l.shell, l.input, c.loops.set k l.phase⟩ := by
  simp only [made, move, hp, hl, Option.map_some, Option.getD_some]

/-- A step either cannot be taken, so that nothing changes, or it is the step of a loop. -/
theorem made_step_cases (fs : Files) (c : Console) (k : Nat) :
    (c.move (Shell.exec fs) (.step k) = none ∧ c.made fs (.step k) = c) ∨
      ∃ (p : Phase) (l : Loop), c.loops[k]? = some p ∧
        Loop.step (Shell.exec fs) ⟨p, c.shell, c.input, []⟩ = some l ∧
        c.made fs (.step k) = ⟨l.shell, l.input, c.loops.set k l.phase⟩ := by
  cases hm : c.move (Shell.exec fs) (.step k) with
  | none => exact .inl ⟨rfl, by rw [made, hm, Option.getD_none]⟩
  | some c' =>
    obtain ⟨p, l, hp, -, hl, rfl⟩ := move_step_eq_some hm
    exact .inr ⟨p, l, hp, hl, made_step hp hl⟩

/-- Only a start adds a loop. -/
theorem length_loops_made (fs : Files) (c : Console) (m : Move) :
    (c.made fs m).loops.length = c.loops.length + [m].count .start := by
  cases m with
  | start => simp [made, launch]
  | stop => rfl
  | arrive line => rfl
  | step k =>
    obtain h | ⟨p, l, -, -, h⟩ := made_step_cases fs c k
    · simp [h]
    · simp [h]

/-- There are as many loops as there were starts. -/
theorem length_loops_after (fs : Files) (c : Console) (ms : List Move) :
    (c.afterMoves fs ms).loops.length = c.loops.length + ms.count .start := by
  induction ms generalizing c with
  | nil => rfl
  | cons m ms ih =>
    have hcount : ([m] ++ ms).count Move.start = [m].count .start + ms.count .start :=
      List.count_append
    rw [afterMoves_cons, ih, length_loops_made, Nat.add_assoc, ← hcount, List.singleton_append]

/-! ## What the shell remembers -/

/-- Whether any of these moves stops the shell. -/
def Halted (fs : Files) (c : Console) : List Move → Prop
  | [] => False
  | m :: ms => c.Halts fs m ∨ Halted fs (c.made fs m) ms

/-- A step that stops the shell can be taken. -/
theorem not_halts_of_move_eq_none (h : c.move (Shell.exec fs) (.step k) = none) :
    ¬ c.Halts fs (.step k) := by
  rintro ⟨line, hline, -⟩
  rw [move, hline, Option.map_eq_none_iff, Loop.step_eq_none_iff] at h
  simp at h

/-- A move other than a start makes the shell forget, if it stops the shell, and does no more. -/
theorem worker_made_iff {m : Move} (hm : m ≠ .start) :
    (c.made fs m).shell.worker = some k ↔ c.shell.worker = some k ∧ ¬ c.Halts fs m := by
  cases m with
  | start => exact absurd rfl hm
  | stop => simp [made, Shell.stop, Halts]
  | arrive line => simp [made, Halts]
  | step j =>
    obtain ⟨hnone, h⟩ | ⟨p, l, hp, hl, h⟩ := made_step_cases fs c j
    · simp [h, not_halts_of_move_eq_none hnone]
    · rw [h]
      cases Loop.stepped_of_step hl with
      | look _ => simp [Halts, hp]
      | leave _ => simp [Halts, hp]
      | read _ => simp [Halts, hp]
      | close _ => simp [Halts, hp]
      | pass => simp [Halts, hp, Shell.worker_exec_iff]
      | fail => simp [Halts, hp, Shell.worker_exec_iff]
      | finish => simp [Halts, hp]

/-- Without a start, the shell remembers what it remembered, until it is stopped. -/
theorem worker_afterMoves_iff {ms : List Move} (hms : .start ∉ ms) :
    (c.afterMoves fs ms).shell.worker = some k ↔
      c.shell.worker = some k ∧ ¬ c.Halted fs ms := by
  induction ms generalizing c with
  | nil => simp [Halted]
  | cons m ms ih =>
    rw [List.mem_cons, not_or] at hms
    rw [afterMoves_cons, ih hms.2, worker_made_iff (Ne.symm hms.1), Halted, not_or, and_assoc]

/-- Whether the loop with this number was started last, and the shell has not been stopped since. -/
def StartedLast (fs : Files) (c : Console) (ms : List Move) (k : Nat) : Prop :=
  ∃ before since, ms = before ++ .start :: since ∧ .start ∉ since ∧
    k = c.loops.length + before.count .start ∧
    ¬ Halted fs (c.afterMoves fs (before ++ [.start])) since

/-- The shell remembers the loop that was started last, if it has not been stopped since. -/
theorem worker_after_iff (ms : List Move) (h0 : c.shell.worker = none) :
    (c.afterMoves fs ms).shell.worker = some k ↔ c.StartedLast fs ms k := by
  -- what the moves behind a start come to
  have hsince : ∀ before since, .start ∉ since →
      ((c.afterMoves fs (before ++ .start :: since)).shell.worker = some k ↔
        k = c.loops.length + before.count .start ∧
          ¬ Halted fs (c.afterMoves fs (before ++ [.start])) since) := by
    intro before since hs
    have hlast : (c.afterMoves fs (before ++ [.start])).shell.worker =
        some (c.loops.length + before.count .start) := by
      rw [afterMoves_append, ← length_loops_after]
      rfl
    rw [← List.singleton_append, ← List.append_assoc, afterMoves_append,
      worker_afterMoves_iff hs, hlast, Option.some.injEq, eq_comm]
  constructor
  · intro hw
    by_cases hstart : .start ∈ ms
    · -- the last start is the first one of the moves in reverse
      obtain ⟨since, before, hrev, hs⟩ :=
        List.eq_append_cons_of_mem (List.mem_reverse.2 hstart)
      have hms : ms = before.reverse ++ .start :: since.reverse := by
        rw [← List.reverse_reverse ms, hrev]
        simp
      have hs' : .start ∉ since.reverse := fun h => hs (List.mem_reverse.1 h)
      rw [hms, hsince _ _ hs'] at hw
      exact ⟨_, _, hms, hs', hw⟩
    · rw [worker_afterMoves_iff hstart, h0] at hw
      exact nomatch hw.1
  · rintro ⟨before, since, rfl, hs, hk⟩
    exact (hsince before since hs).2 hk

/-! ## Loops that are alive -/

/-- A loop that is alive behind a move other than a start was alive before. -/
theorem isAlive_of_made {m : Move} (hm : m ≠ .start) (hp : (c.made fs m).loops[k]? = some p)
    (hpa : p.isAlive = true) : ∃ q, c.loops[k]? = some q ∧ q.isAlive = true := by
  cases m with
  | start => exact absurd rfl hm
  | stop => exact ⟨p, hp, hpa⟩
  | arrive line => exact ⟨p, hp, hpa⟩
  | step j =>
    obtain ⟨-, h⟩ | ⟨q, l, hq, hl, h⟩ := made_step_cases fs c j
    · rw [h] at hp
      exact ⟨p, hp, hpa⟩
    · by_cases hj : j = k
      · subst hj
        exact ⟨q, hq, isAlive_of_step hl⟩
      · rw [h] at hp
        simp only [List.getElem?_set_ne hj] at hp
        exact ⟨p, hp, hpa⟩

/-- A loop that is alive behind moves without a start was alive before. -/
theorem isAlive_of_after {ms : List Move} (hms : .start ∉ ms)
    (hp : (c.afterMoves fs ms).loops[k]? = some p) (hpa : p.isAlive = true) :
    ∃ q, c.loops[k]? = some q ∧ q.isAlive = true := by
  induction ms generalizing c with
  | nil => exact ⟨p, hp, hpa⟩
  | cons m ms ih =>
    rw [List.mem_cons, not_or] at hms
    obtain ⟨q, hq, hqa⟩ := ih hms.2 hp
    exact isAlive_of_made (Ne.symm hms.1) hq hqa

/-- Where no loop is alive, none comes to life without a start. -/
theorem isBusy_after_eq_false {ms : List Move} (hms : .start ∉ ms) (h : c.isBusy = false) :
    (c.afterMoves fs ms).isBusy = false := by
  simp only [isBusy, List.any_eq_false] at h ⊢
  intro p hp hpa
  obtain ⟨k, hk⟩ := List.mem_iff_getElem?.1 hp
  obtain ⟨q, hq, hqa⟩ := isAlive_of_after hms hk hpa
  exact h q (List.mem_of_getElem? hq) hqa

/-- Where no loop is alive, no loop takes a step. -/
theorem move_step_of_idle (h : c.isBusy = false) (k : Nat) :
    c.move (Shell.exec fs) (.step k) = none := by
  cases hm : c.move (Shell.exec fs) (.step k) with
  | none => rfl
  | some c' =>
    obtain ⟨p, l, hp, hpa, -, -⟩ := move_step_eq_some hm
    exact absurd hpa (List.any_eq_false.1 h p (List.mem_of_getElem? hp))

/-! ## Leading one loop to its end -/

/-- A loop that waits for a line reads the end of the input when it comes, and ends. -/
theorem ended_of_waiting (hp : c.loops[k]? = some .reading) (hwait : c.input.next.1 = .waiting) :
    (c.afterMoves fs [.arrive [], .step k, .step k]).loops = c.loops.set k (.ended none) := by
  have hlt : k < c.loops.length := (List.getElem?_eq_some_iff.1 hp).1
  -- a reader that waits has nothing before it, so the end of the input is what it reads
  have hnext : (c.input.feed []).next.1 = .ended := by
    rw [Input.eq_gate_of_waiting hwait]
    rfl
  have hread : Loop.step (Shell.exec fs) ⟨.reading, c.shell, c.input.feed [], []⟩ =
      some ⟨.ending none, c.shell, (c.input.feed []).next.2,
        [Shell.record .debug "End of input"]⟩ := by
    simp only [Loop.step, hnext]
  have hgo : (c.made fs (.arrive [])).made fs (.step k) = _ := made_step hp hread
  rw [afterMoves_cons, afterMoves_cons, hgo, afterMoves_cons,
    made_step (List.getElem?_set_self hlt) rfl, afterMoves_nil, List.set_set]
  rfl

/-- A loop whose shell has been stopped can be led to its end while all others stand still. -/
theorem exists_ended (fs : Files) (hs : c.shell.running = false) (hp : c.loops[k]? = some p) :
    ∃ ms f, .start ∉ ms ∧ (c.afterMoves fs ms).loops = c.loops.set k (.ended f) := by
  induction hn : p.stepsLeft using Nat.strongRecOn generalizing c p with
  | ind n ih =>
    cases hl : Loop.step (Shell.exec fs) ⟨p, c.shell, c.input, []⟩ with
    | some l =>
      -- each step leaves less to do, and the shell stays stopped
      obtain ⟨hstopped, -, hless, -⟩ :=
        Loop.step_of_stopped (fun line _ hs => Shell.running_exec_of_stopped hs line) hs hl
      have hlt : k < c.loops.length := (List.getElem?_eq_some_iff.1 hp).1
      have hmade := made_step hp hl
      obtain ⟨ms, f, hms, hended⟩ := ih l.phase.stepsLeft (hn ▸ hless)
        (c := ⟨l.shell, l.input, c.loops.set k l.phase⟩) hstopped
        (List.getElem?_set_self hlt) rfl
      refine ⟨.step k :: ms, f, by simp [hms], ?_⟩
      rw [afterMoves_cons, hmade, hended, List.set_set]
    | none =>
      obtain ⟨f, rfl⟩ | ⟨rfl, hwait⟩ := Loop.step_eq_none_iff.1 hl
      · refine ⟨[], f, by simp, ?_⟩
        obtain ⟨hlt, hget⟩ := List.getElem?_eq_some_iff.1 hp
        rw [afterMoves_nil, ← hget, List.set_getElem_self]
      · exact ⟨_, none, by simp, ended_of_waiting hp hwait⟩

/-! ## Joining -/

/-- Whether somebody need wait no longer who joined when the shell remembered `worker`: it
remembered no loop, or that loop has ended. -/
def joined (c : Console) (worker : Option Nat) : Bool :=
  !(worker.bind fun k => c.loops[k]?).any (·.isAlive)

theorem isBusy_of_isAlive (hp : c.loops[k]? = some p) (hpa : p.isAlive = true) :
    c.isBusy = true :=
  List.any_eq_true.2 ⟨p, List.mem_of_getElem? hp, hpa⟩

/-- If a loop is alive that the shell does not remember, then whoever joins may be let go while that
loop is alive. -/
theorem exists_joined_of_forgotten (fs : Files) (hp : c.loops[k]? = some p) (hpa : p.isAlive = true)
    (hk : c.shell.worker ≠ some k) :
    ∃ ms, .start ∉ ms ∧ (c.afterMoves fs ms).joined c.shell.worker = true ∧
      (c.afterMoves fs ms).isBusy = true := by
  by_cases hnow : c.joined c.shell.worker = true
  · exact ⟨[], by simp, hnow, isBusy_of_isAlive hp hpa⟩
  · -- the shell remembers another loop, which is led to its end
    obtain ⟨j, hj, q, hq⟩ : ∃ j, c.shell.worker = some j ∧ ∃ q, c.loops[j]? = some q := by
      simp only [joined, Bool.not_eq_true, Bool.not_eq_false', Option.any_eq_true,
        Option.bind_eq_some_iff] at hnow
      obtain ⟨q, ⟨j, hj, hq⟩, -⟩ := hnow
      exact ⟨j, hj, q, hq⟩
    have hjk : j ≠ k := fun h => hk (h ▸ hj)
    obtain ⟨ms, f, hms, hended⟩ :=
      exists_ended fs (c := c.made fs .stop) (k := j) rfl hq
    have hlt : j < c.loops.length := (List.getElem?_eq_some_iff.1 hq).1
    refine ⟨.stop :: ms, by simp [hms], ?_, ?_⟩
    · have hget : (c.loops.set j (.ended f))[j]? = some (.ended f) := List.getElem?_set_self hlt
      rw [afterMoves_cons, joined, hended, hj, Option.bind_some]
      exact congrArg (fun o => !o.any Phase.isAlive) hget
    · refine isBusy_of_isAlive (k := k) (p := p) ?_ hpa
      rw [afterMoves_cons, hended]
      exact (List.getElem?_set_ne hjk).trans hp

/-- **Whoever joins finds no loop alive, exactly if none but the one that was started last can be,
and that one has not been stopped since.** The shell is started and stopped as often as one likes,
lines arrive, and loops take steps, in any order; then somebody joins, and no start comes before
they are let go. If the condition holds at the time of the join, then no loop is alive when they are
let go, and no loop takes a step any more before the shell is started again. If it does not hold,
they may be let go while a loop is alive: for a loop that was stopped nobody waits. -/
theorem join_outlasts_iff_started_last (fs : Files) {c₀ : Console} (h0 : c₀.shell.worker = none)
    (ms : List Move) :
    let c := c₀.afterMoves fs ms
    (∀ ms', .start ∉ ms' → (c.afterMoves fs ms').joined c.shell.worker = true →
        (c.afterMoves fs ms').isBusy = false ∧
        ∀ ms'', .start ∉ ms'' → ∀ k,
          ((c.afterMoves fs ms').afterMoves fs ms'').move (Shell.exec fs) (.step k) = none) ↔
      ∀ k p, c.loops[k]? = some p → p.isAlive = true → c₀.StartedLast fs ms k := by
  intro c
  constructor
  · intro hjoin k p hp hpa
    refine (worker_after_iff ms h0).1 (Decidable.byContradiction fun hk => ?_)
    obtain ⟨ms', hms', hlet, hbusy⟩ := exists_joined_of_forgotten fs hp hpa hk
    rw [(hjoin ms' hms' hlet).1] at hbusy
    exact Bool.false_ne_true hbusy
  · intro hlast ms' hms' hlet
    have hidle : (c.afterMoves fs ms').isBusy = false := by
      simp only [isBusy, List.any_eq_false]
      intro p hp hpa
      obtain ⟨k, hk⟩ := List.mem_iff_getElem?.1 hp
      -- it was alive when they joined, so it is the loop that they waited for
      obtain ⟨q, hq, hqa⟩ := isAlive_of_after hms' hk hpa
      have hw : c.shell.worker = some k := (worker_after_iff ms h0).2 (hlast k q hq hqa)
      rw [joined, hw, Option.bind_some, hk, Option.any_some, hpa] at hlet
      cases hlet
    exact ⟨hidle, fun ms'' hms'' k => move_step_of_idle (isBusy_after_eq_false hms'' hidle) k⟩

/-- A shell that is started again when its first loop has ended: whoever joins then, while the
second loop waits for a line, waits for that loop, and it has run its lines when they are let go. -/
theorem join_outlasts_restarted :
    let fs : Files := ∅
    let c := waiting.afterMoves fs
      [.start, .stop, .step 0, .step 0, .start, .step 1]
    let ms' : List Move := [.arrive "exit\n".toList, .step 1, .step 1, .step 1, .step 1]
    waiting.shell.worker = none ∧ c.loops = [.ended none, .reading] ∧
      c.joined c.shell.worker = false ∧
      .start ∉ ms' ∧ (c.afterMoves fs ms').joined c.shell.worker = true ∧
      (c.afterMoves fs ms').isBusy = false := by
  intro fs c ms'
  have hloops : c.loops = [.ended none, .reading] := by decide +kernel
  have hjoin := join_outlasts_iff_started_last fs (show waiting.shell.worker = none from rfl)
    [.start, .stop, .step 0, .step 0, .start, .step 1]
  have hlast : ∀ k p, c.loops[k]? = some p → p.isAlive = true →
      waiting.StartedLast fs [.start, .stop, .step 0, .step 0, .start, .step 1] k := by
    intro k p hp hpa
    have hworker : c.shell.worker = some 1 := by decide +kernel
    obtain rfl : k = 1 := by
      rw [hloops] at hp
      match k, hp with
      | 0, hp => cases hp; cases hpa
      | 1, _ => rfl
    exact (worker_after_iff _ rfl).1 hworker
  refine ⟨rfl, hloops, by decide +kernel, by decide, by decide +kernel, ?_⟩
  exact (hjoin.2 hlast ms' (by decide) (by decide +kernel)).1

/-- A shell that is stopped while its loop waits for a line: whoever joins is let go at once, and
the loop runs that line when it comes. -/
theorem join_misses_stopped :
    let fs : Files := ∅
    let c := waiting.afterMoves fs [.start, .step 0, .stop]
    c.joined c.shell.worker = true ∧ c.isBusy = true ∧
      (c.afterMoves fs [.arrive "echo text=late\n".toList, .step 0]).loops =
        [.executing "echo text=late"] ∧
      Event.written ((((waiting.perform fs (.start (some true))).console.perform fs
        .stop).console.perform fs .join).console.perform fs (.feed "echo text=late\n")).events =
          "late\n" := by
  decide +kernel

end Console

end LineShell
