import LineShell.Console.Basic
import LineShell.Shell.Builtin

/-!
# Loops beside the caller, step by step

`Console.perform` lets all loops go on as far as they can after every action. Here nothing is done
at once: whoever has the shell may start and stop it, lines arrive, and each loop takes single steps
(`Move`), in any order at all. A shell is started only while it does not run.

That the shell does not run says nothing of its loops: `stop` leaves a loop alive that waits for a
line. If the shell is started again before that line comes, there are two loops, and the older one
goes on as if it had never been stopped. What does keep loops apart is to start only when no loop is
alive, and this condition is exact (`StartedIdle`).

## Invariants

* a move other than a start adds no loop that is alive (`alive_move_le`), a start adds one
  (`alive_launch`)
* if every start finds no loop alive, then all loops but the newest have ended (`OldEnded`)
-/

namespace LineShell

/-- One thing that happens at a console. -/
inductive Move where
  /-- The shell is started beside its caller. -/
  | start
  | stop
  /-- A line arrives at the input. -/
  | arrive (line : List Char)
  /-- The loop with this number takes one step. -/
  | step (k : Nat)
deriving DecidableEq, Repr

namespace Console

/-- The console when one more loop has been started, and nothing else has happened. -/
def launch (c : Console) : Console where
  shell := { c.shell with runAsync := true, running := true, worker := some c.loops.length }
  input := c.input
  loops := c.loops ++ [.checking]

/-- Starting beside the caller is to launch a loop and to let all loops go on. -/
theorem start_eq_settled_launch (exec : String → Shell → Outcome Bool) (c : Console) :
    c.start exec (some true)
      = settled exec c.launch [Shell.record .debug "Input loop started"] := rfl

/-- The console after a move; `none` if the move is not possible. -/
def move (exec : String → Shell → Outcome Bool) (c : Console) : Move → Option Console
  | .start => if c.shell.running then none else some c.launch
  | .stop => some { c with shell := c.shell.stop }
  | .arrive line => some { c with input := c.input.feed line }
  | .step k =>
    match c.loops[k]? with
    | none => none
    | some p => (Loop.step exec ⟨p, c.shell, c.input, []⟩).map fun l =>
        ⟨l.shell, l.input, c.loops.set k l.phase⟩

/-- What may have happened at a console, move by move: each move with the console that it found. -/
inductive History (exec : String → Shell → Outcome Bool) (c₀ : Console) :
    List (Console × Move) → Console → Prop
  | nil : History exec c₀ [] c₀
  | snoc {h c c' m} : History exec c₀ h c → c.move exec m = some c' →
      History exec c₀ (h ++ [(c, m)]) c'

/-- How many loops are alive. -/
def alive (c : Console) : Nat := c.loops.countP (·.isAlive)

/-- Whether every start in a history found no loop alive. -/
def StartedIdle (h : List (Console × Move)) : Prop :=
  ∀ p ∈ h, p.2 = .start → p.1.isBusy = false

/-- Whether all loops but the newest have ended. -/
def OldEnded (c : Console) : Prop :=
  ∀ (k : Nat) (p : Phase), c.loops[k]? = some p → p.isAlive = true → k + 1 = c.loops.length

/-! ## One move -/

section Moves

variable {exec : String → Shell → Outcome Bool} {c c' : Console} {m : Move}

theorem isBusy_eq_false_iff : c.isBusy = false ↔ c.alive = 0 := by
  simp [isBusy, alive, List.countP_eq_zero]

/-- A loop that takes a step is alive. -/
theorem isAlive_of_step {l l' : Loop} (h : l.step exec = some l') : l.phase.isAlive = true := by
  cases hp : l.phase with
  | ended f => simp [Loop.step, hp] at h
  | _ => rfl

/-- What it takes for a loop to take a step, and what comes of it. -/
theorem move_step_eq_some {k : Nat} (h : c.move exec (.step k) = some c') :
    ∃ (p : Phase) (l : Loop), c.loops[k]? = some p ∧ p.isAlive = true ∧
      Loop.step exec ⟨p, c.shell, c.input, []⟩ = some l ∧
      c' = ⟨l.shell, l.input, c.loops.set k l.phase⟩ := by
  simp only [move] at h
  split at h
  · cases h
  · next p hp =>
    obtain ⟨l, hl, rfl⟩ := Option.map_eq_some_iff.1 h
    exact ⟨p, l, hp, isAlive_of_step hl, hl, rfl⟩

theorem move_start_eq_some (h : c.move exec .start = some c') :
    c.shell.running = false ∧ c' = c.launch := by
  rw [move] at h
  split at h
  · cases h
  · next hr => exact ⟨by simpa using hr, (Option.some.inj h).symm⟩

/-- A start adds a loop that is alive. -/
theorem alive_launch (c : Console) : c.launch.alive = c.alive + 1 := by
  rw [alive, launch, List.countP_append]
  rfl

/-- No other move does. -/
theorem alive_move_le (h : c.move exec m = some c') (hm : m ≠ .start) : c'.alive ≤ c.alive := by
  cases m with
  | start => exact absurd rfl hm
  | stop => cases h; exact Nat.le_refl _
  | arrive line => cases h; exact Nat.le_refl _
  | step k =>
    obtain ⟨p, l, hp, hpa, -, rfl⟩ := move_step_eq_some h
    obtain ⟨hk, hget⟩ := List.getElem?_eq_some_iff.1 hp
    have hpos : 0 < c.loops.countP (·.isAlive) :=
      List.countP_pos_iff.2 ⟨p, List.mem_of_getElem? hp, hpa⟩
    simp only [alive]
    -- the loop was counted before its step, so the count cannot rise
    rw [List.countP_set hk, hget, if_pos hpa]
    split <;> omega

/-- Where at most one loop is alive, a move keeps it so unless it starts a second one. -/
theorem alive_move_le_one_iff (h : c.move exec m = some c') (hc : c.alive ≤ 1) :
    c'.alive ≤ 1 ↔ (m = .start → c.isBusy = false) := by
  by_cases hm : m = .start
  · subst hm
    rw [(move_start_eq_some h).2, alive_launch, isBusy_eq_false_iff]
    constructor
    · intro hle _
      omega
    · intro hidle
      have hzero := hidle rfl
      omega
  · exact ⟨fun _ he => absurd he hm, fun _ => Nat.le_trans (alive_move_le h hm) hc⟩

/-- If a start finds no loop alive, all loops but the newest have ended behind every move. -/
theorem OldEnded.move (hc : c.OldEnded) (h : c.move exec m = some c')
    (hm : m = .start → c.isBusy = false) : c'.OldEnded := by
  cases m with
  | start =>
    rw [(move_start_eq_some h).2]
    -- every older loop has ended, and the new one is the newest
    have hidle : c.alive = 0 := isBusy_eq_false_iff.1 (hm rfl)
    intro k p hp hpa
    simp only [launch, List.length_append, List.length_singleton]
    by_cases hk : k < c.loops.length
    · have hmem : p ∈ c.loops := by
        simp only [launch, List.getElem?_append_left hk] at hp
        exact List.mem_of_getElem? hp
      exact absurd hpa (List.countP_eq_zero.1 hidle p hmem)
    · have hlt := (List.getElem?_eq_some_iff.1 hp).1
      simp only [launch, List.length_append, List.length_singleton] at hlt
      omega
  | stop => cases h; exact hc
  | arrive line => cases h; exact hc
  | step j =>
    obtain ⟨q, l, hq, hqa, -, rfl⟩ := move_step_eq_some h
    intro k p hp hpa
    simp only [List.length_set] at hp ⊢
    -- a step brings no other loop back to life
    by_cases hk : j = k
    · subst hk
      exact hc j q hq hqa
    · rw [List.getElem?_set_ne hk] at hp
      exact hc k p hp hpa

end Moves

/-! ## Histories -/

section Histories

variable {exec : String → Shell → Outcome Bool} {c₀ c : Console} {h : List (Console × Move)}

theorem startedIdle_snoc {m : Move} :
    StartedIdle (h ++ [(c, m)]) ↔ StartedIdle h ∧ (m = .start → c.isBusy = false) := by
  simp [StartedIdle, or_imp, forall_and]

/-- There is never more than one loop alive exactly if no start finds one. -/
theorem History.alive_le_one_iff (hh : History exec c₀ h c) (h0 : c₀.loops = []) :
    ((∀ p ∈ h, p.1.alive ≤ 1) ∧ c.alive ≤ 1) ↔ StartedIdle h := by
  induction hh with
  | nil =>
    have hnone : c₀.alive = 0 := by rw [alive, h0]; rfl
    simp [StartedIdle, hnone]
  | @snoc h c c' m hh hm ih =>
    rw [startedIdle_snoc, ← ih]
    constructor
    · rintro ⟨hall, hlast⟩
      have hc : c.alive ≤ 1 := hall (c, m) (by simp)
      exact ⟨⟨fun p hp => hall p (by simp [hp]), hc⟩, (alive_move_le_one_iff hm hc).1 hlast⟩
    · rintro ⟨⟨hall, hc⟩, hstart⟩
      refine ⟨?_, (alive_move_le_one_iff hm hc).2 hstart⟩
      intro p hp
      rcases List.mem_append.1 hp with hp | hp
      · exact hall p hp
      · rw [List.mem_singleton.1 hp]
        exact hc

/-- If no start finds a loop alive, only the newest loop is. -/
theorem History.oldEnded (hh : History exec c₀ h c) (h0 : c₀.loops = []) (hi : StartedIdle h) :
    c.OldEnded := by
  induction hh with
  | nil =>
    intro k p hp
    simp [h0] at hp
  | snoc hh hm ih =>
    obtain ⟨hi, hstart⟩ := startedIdle_snoc.1 hi
    exact (ih hi).move hm hstart

/-- If no start finds a loop alive, every step is one of the newest loop. -/
theorem History.step_newest (hh : History exec c₀ h c) (h0 : c₀.loops = []) (hi : StartedIdle h)
    {p : Console × Move} (hp : p ∈ h) {k : Nat} (hk : p.2 = .step k) :
    k + 1 = p.1.loops.length := by
  induction hh with
  | nil => cases hp
  | @snoc h c c' m hh hm ih =>
    have hi' : StartedIdle h := (startedIdle_snoc.1 hi).1
    rcases List.mem_append.1 hp with hp | hp
    · exact ih hi' hp
    · obtain rfl := List.mem_singleton.1 hp
      simp only at hk
      subst hk
      obtain ⟨q, l, hq, hqa, -, -⟩ := move_step_eq_some hm
      exact hh.oldEnded h0 hi' k q hq hqa

/-- **One loop at a time, exactly if no start finds a loop alive.** In whatever order starts, stops,
lines and steps of loops come: there is never more than one loop alive if and only if every start
found none; and then whatever a loop does, be it to read a line or to end, only the newest does. -/
theorem alone_iff_started_idle (hh : History exec c₀ h c) (h0 : c₀.loops = []) :
    (((∀ p ∈ h, p.1.alive ≤ 1) ∧ c.alive ≤ 1) ↔ StartedIdle h) ∧
    (StartedIdle h → ∀ p ∈ h, ∀ k, p.2 = .step k → k + 1 = p.1.loops.length) :=
  ⟨hh.alive_le_one_iff h0, fun hi _ hp _ hk => hh.step_newest h0 hi hp hk⟩

end Histories

/-- A console that waits for its lines, with no loop yet. -/
def waiting : Console := ⟨Shell.standard "" false, .gate, []⟩

/-- Stopped, left to end, and started again: one loop at a time. -/
theorem alone_when_restarted :
    ∃ (h : List (Console × Move)) (c : Console), History (Shell.exec ∅) waiting h c ∧
      waiting.loops = [] ∧ h.map Prod.snd = [.start, .stop, .step 0, .step 0, .start, .step 1] ∧
      c.loops = [.ended none, .reading] ∧ StartedIdle h ∧
      (((∀ p ∈ h, p.1.alive ≤ 1) ∧ c.alive ≤ 1) ↔ StartedIdle h) ∧
      (StartedIdle h → ∀ p ∈ h, ∀ k, p.2 = .step k → k + 1 = p.1.loops.length) := by
  have hnil : History (Shell.exec ∅) waiting [] waiting := .nil
  have hh := hnil |>.snoc (m := .start) rfl |>.snoc (m := .stop) rfl |>.snoc (m := .step 0) rfl
    |>.snoc (m := .step 0) rfl |>.snoc (m := .start) rfl |>.snoc (m := .step 1) rfl
  refine ⟨_, _, hh, rfl, rfl, rfl, ?_, alone_iff_started_idle hh rfl⟩
  simp only [startedIdle_snoc, reduceCtorEq, false_implies, and_true, forall_const]
  exact ⟨⟨nofun, rfl⟩, rfl⟩

/-- A shell that is started while it does not run can have two loops. The older of them reads a line
that came after the newer was started; and when it ends, it stops the shell under the newer. -/
theorem restart_revives :
    (∃ (h : List (Console × Move)) (c : Console), History (Shell.exec ∅) waiting h c ∧
      h.map Prod.snd = [.start, .step 0, .stop, .start, .step 1, .arrive "echo\n".toList, .step 0] ∧
      c.loops = [.executing "echo", .reading]) ∧
    ∃ (h : List (Console × Move)) (c : Console), History (Shell.exec ∅) waiting h c ∧
      h.map Prod.snd = [.start, .stop, .step 0, .start, .step 0] ∧
      c.loops = [.ended none, .checking] ∧ c.shell.running = false := by
  have hnil : History (Shell.exec ∅) waiting [] waiting := .nil
  constructor
  · have hh := hnil |>.snoc (m := .start) rfl |>.snoc (m := .step 0) rfl |>.snoc (m := .stop) rfl
      |>.snoc (m := .start) rfl |>.snoc (m := .step 1) rfl
      |>.snoc (m := .arrive "echo\n".toList) rfl |>.snoc (m := .step 0) rfl
    exact ⟨_, _, hh, rfl, by decide +kernel⟩
  · have hh := hnil |>.snoc (m := .start) rfl |>.snoc (m := .stop) rfl |>.snoc (m := .step 0) rfl
      |>.snoc (m := .start) rfl |>.snoc (m := .step 0) rfl
    exact ⟨_, _, hh, rfl, rfl, rfl⟩

end Console

end LineShell
