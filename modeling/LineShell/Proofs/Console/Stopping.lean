import LineShell.Proofs.Console.Interleaving
import LineShell.Proofs.Console.Reading
import LineShell.Proofs.Shell.Stopping
import LineShell.Proofs.Text.Utf8

/-!
# How a loop ends that has been stopped

A shell that runs one loop beside its caller is stopped, from inside or from outside, at whatever
point the loop is then; and lines go on to arrive. The loop runs at most one line more: the one that
it has read already, or that its pending read gives. It does not begin to read again, and it has
ended after four steps at most, unless it still waits in that read. If the line that it runs is what
stopped the shell, it runs no other and reads no more.

## How the proof goes

Nothing but a start makes the shell run again, so the loop only goes down from then on:
reading, executing, checking, ending (`Phase.stepsLeft`). One step of the loop is inverted once
(`Loop.step_of_stopped`). What a stopped loop has done and what it still has to do are kept together
as one invariant of the moves (`Console.Winding`).
-/

namespace LineShell

/-! ## The input -/

namespace Input

variable {i : Input} {text : List Char}

/-- The input when more lines have arrived. -/
def fed (i : Input) (lines : List (List Char)) : Input :=
  { i with pending := i.pending ++ lines.map .line }

@[simp] theorem fed_nil (i : Input) : i.fed [] = i := by simp [fed]

theorem feed_fed (i : Input) (lines : List (List Char)) (line : List Char) :
    (i.fed lines).feed line = i.fed (lines ++ [line]) := by
  simp [fed, feed]

/-- A line that can be read is read, whatever arrives behind it. -/
theorem next_fed_of_line (h : i.next.1 = .line text) (lines : List (List Char)) :
    (i.fed lines).next.1 = .line text := by
  unfold next at h ⊢
  unfold fed
  split at h
  · cases h
  · next heq =>
    rw [heq]
    split <;> simp_all
  · cases h
  · exact absurd h (Tail.next_ne_line _ _)

end Input

/-! ## What a stopped loop has left to do -/

namespace Phase

/-- The line that is run in a phase. -/
def line? : Phase → Option String
  | executing line => some line
  | _ => none

/-- The lines that a loop can still run in this phase if its shell has been stopped: the one that it
has read, or that its pending read gives. -/
def due (i : Input) : Phase → List String
  | executing line => [line]
  | reading =>
    match i.next.1 with
    | .line text => [Loop.lineOf text]
    | _ => []
  | _ => []

/-- How many steps a loop has left in this phase at most if its shell has been stopped. -/
def stepsLeft : Phase → Nat
  | reading => 4
  | executing _ => 3
  | checking => 2
  | ending _ => 1
  | ended _ => 0

theorem due_of_ne_reading {p : Phase} (h : p ≠ reading) (i : Input) : p.due i = p.line?.toList := by
  cases p <;> first | rfl | exact absurd rfl h

/-- More lines at the input can only give a pending read something. -/
theorem due_fed (p : Phase) (i : Input) (lines : List (List Char)) :
    p.due i <+: p.due (i.fed lines) := by
  by_cases hp : p = reading
  · subst hp
    cases hn : i.next.1 with
    | line text => simp [due, hn, Input.next_fed_of_line hn lines]
    | _ => simp [due, hn]
  · have hsame : p.due i = p.due (i.fed lines) := by
      rw [due_of_ne_reading hp, due_of_ne_reading hp]
    exact hsame ▸ List.prefix_rfl

theorem length_due_le (p : Phase) (i : Input) : (p.due i).length ≤ 1 := by
  cases p with
  | reading => cases hn : i.next.1 <;> simp [due, hn]
  | _ => simp [due]

end Phase

namespace Loop

variable {exec : String → Shell → Outcome Bool} {l l' : Loop}

/-- A loop cannot go on exactly if it has ended or waits for a line. -/
theorem step_eq_none_iff : l.step exec = none ↔
    (∃ f, l.phase = .ended f) ∨ l.phase = .reading ∧ l.input.next.1 = .waiting := by
  cases hp : l.phase with
  | checking => cases hr : l.shell.running <;> simp [step, hp, hr]
  | reading =>
    cases hn : l.input.next.1 with
    | failed f => cases hf : f.endsInput <;> simp [step, hp, hn, hf]
    | _ => simp [step, hp, hn]
  | executing line => cases hr : (exec line l.shell).result <;> simp [step, hp, hr]
  | ending f => simp [step, hp]
  | ended f => simp [step, hp]

/-- One step of a loop whose shell has been stopped: it goes down, does not begin to read, and what
it runs is what it had to. -/
theorem step_of_stopped
    (hexec : ∀ line s, s.running = false → (exec line s).shell.running = false)
    (hs : l.shell.running = false) (h : l.step exec = some l') :
    l'.shell.running = false ∧ l'.phase ≠ .reading ∧
      l'.phase.stepsLeft < l.phase.stepsLeft ∧
      l.phase.line?.toList ++ l'.phase.due l'.input <+: l.phase.due l.input := by
  cases stepped_of_step h with
  | look hr => exact absurd (hs.symm.trans hr) Bool.false_ne_true
  | leave _ => exact ⟨hs, by simp, by simp [Phase.stepsLeft], List.prefix_rfl⟩
  | read hn =>
    refine ⟨hs, by simp, by simp [Phase.stepsLeft], ?_⟩
    simp [Phase.due, Phase.line?, hn]
  | close _ => exact ⟨hs, by simp, by simp [Phase.stepsLeft], List.nil_prefix⟩
  | pass => exact ⟨hexec _ _ hs, by simp, by simp [Phase.stepsLeft], List.prefix_rfl⟩
  | fail => exact ⟨hexec _ _ hs, by simp, by simp [Phase.stepsLeft], List.prefix_rfl⟩
  | finish => exact ⟨rfl, by simp, by simp [Phase.stepsLeft], List.prefix_rfl⟩

end Loop

namespace Console

variable {fs : Files} {c₀ c c' c₁ c₂ : Console} {h h' : List (Console × Move)} {m : Move}

/-! ## What is read off a history -/

/-- The phases in which loops took their steps, in order. -/
def trail (h : List (Console × Move)) : List Phase :=
  h.filterMap fun p =>
    match p.2 with
    | .step k => p.1.loops[k]?
    | _ => none

/-- The lines that loops ran. -/
def ran (h : List (Console × Move)) : List String := (trail h).filterMap Phase.line?

/-- The lines that arrived. -/
def arrivals (h : List (Console × Move)) : List (List Char) :=
  h.filterMap fun p =>
    match p.2 with
    | .arrive line => some line
    | _ => none

/-- How often the shell was started. -/
def starts (h : List (Console × Move)) : Nat := h.countP fun p => p.2 == .start

/-- Whether a move stops the shell: from outside, or because the line that a loop runs does. -/
def Halts (fs : Files) (c : Console) : Move → Prop
  | .stop => True
  | .step k => ∃ line, c.loops[k]? = some (.executing line) ∧ c.shell.Stops fs line
  | _ => False

/-- There are as many loops as there were starts. -/
theorem History.length_loops (hh : History (Shell.exec fs) c₀ h c) :
    c.loops.length = c₀.loops.length + starts h := by
  induction hh with
  | nil => rfl
  | @snoc h c c' m hh hm ih =>
    rw [starts, List.countP_append, List.countP_singleton, ← starts]
    cases m with
    | start =>
      rw [(move_start_eq_some hm).2]
      simp [launch, ih]
      omega
    | stop => cases hm; simpa using ih
    | arrive line => cases hm; simpa using ih
    | step k =>
      obtain ⟨p, l, -, -, -, rfl⟩ := move_step_eq_some hm
      simpa using ih

/-! ## Playing moves -/

/-- A history and the console that it leads to, with one more move if it is possible. -/
def play (fs : Files) (r : List (Console × Move) × Console) (m : Move) :
    List (Console × Move) × Console :=
  match r.2.move (Shell.exec fs) m with
  | none => r
  | some c' => (r.1 ++ [(r.2, m)], c')

theorem move_eq_some_play {r : List (Console × Move) × Console}
    (h : (r.2.move (Shell.exec fs) m).isSome = true) :
    r.2.move (Shell.exec fs) m = some (play fs r m).2 := by
  obtain ⟨c', hc'⟩ := Option.isSome_iff_exists.1 h
  rw [play, hc']

theorem history_play (fs : Files) (c : Console) (ms : List Move) :
    History (Shell.exec fs) c (ms.foldl (play fs) ([], c)).1 (ms.foldl (play fs) ([], c)).2 := by
  have hall : ∀ r : List (Console × Move) × Console, History (Shell.exec fs) c r.1 r.2 →
      History (Shell.exec fs) c (ms.foldl (play fs) r).1 (ms.foldl (play fs) r).2 := by
    induction ms with
    | nil => exact fun _ hr => hr
    | cons m ms ih =>
      intro r hr
      refine ih (play fs r m) ?_
      unfold play
      split
      · exact hr
      · next c' hm => exact hr.snoc hm
  exact hall ([], c) .nil

/-! ## Winding down -/

/-- A loop that was in phase `p` at an input `i` when its shell was stopped, and what has happened
since. -/
structure Winding (p : Phase) (i : Input) (h : List (Console × Move)) (c : Console) (q : Phase) :
    Prop where
  stopped : c.shell.running = false
  loops : c.loops = [q]
  /-- If the loop reads, then it is the read that was pending. -/
  reading : q = .reading → p = .reading ∧ trail h = [] ∧ c.input = i.fed (arrivals h)
  /-- What it ran, and has to run, is what it had to run. -/
  due : ran h ++ q.due c.input <+: p.due (i.fed (arrivals h))
  left : (trail h).length + q.stepsLeft ≤ p.stepsLeft

theorem Winding.start {p : Phase} (hs : c.shell.running = false) (hp : c.loops = [p]) :
    Winding p c.input [] c p where
  stopped := hs
  loops := hp
  reading hq := ⟨hq, rfl, (Input.fed_nil _).symm⟩
  due := by
    rw [show arrivals [] = [] from rfl, Input.fed_nil]
    exact List.prefix_rfl
  left := by simp [trail]

section Moves

variable {p q : Phase} {i : Input}

theorem Winding.stop (hw : Winding p i h c q) :
    Winding p i (h ++ [(c, .stop)]) { c with shell := c.shell.stop } q := by
  have htrail : trail (h ++ [(c, .stop)]) = trail h := by simp [trail]
  have harrivals : arrivals (h ++ [(c, .stop)]) = arrivals h := by simp [arrivals]
  refine ⟨rfl, hw.loops, ?_, ?_, ?_⟩
  · rw [htrail, harrivals]
    exact hw.reading
  · rw [ran, htrail, harrivals]
    exact hw.due
  · rw [htrail]
    exact hw.left

theorem Winding.arrive (hw : Winding p i h c q) (line : List Char) :
    Winding p i (h ++ [(c, .arrive line)]) { c with input := c.input.feed line } q := by
  have htrail : trail (h ++ [(c, .arrive line)]) = trail h := by simp [trail]
  have harrivals : arrivals (h ++ [(c, .arrive line)]) = arrivals h ++ [line] := by
    simp [arrivals]
  have hreading : q = .reading → p = .reading ∧ trail h = [] ∧
      c.input.feed line = i.fed (arrivals h ++ [line]) := by
    intro hq
    obtain ⟨hp, hnone, hinput⟩ := hw.reading hq
    exact ⟨hp, hnone, by rw [hinput, Input.feed_fed]⟩
  refine ⟨hw.stopped, hw.loops, ?_, ?_, ?_⟩
  · rw [htrail, harrivals]
    exact hreading
  · rw [ran, htrail, harrivals]
    by_cases hq : q = .reading
    · -- the line may be the first one for the pending read
      obtain ⟨hp, hnone, hinput⟩ := hreading hq
      rw [hnone, hinput, hq, hp]
      exact List.prefix_rfl
    · have hdue := hw.due
      rw [Phase.due_of_ne_reading hq] at hdue ⊢
      rw [← Input.feed_fed]
      exact hdue.trans (Phase.due_fed p _ [line])
  · rw [htrail]
    exact hw.left

theorem Winding.step {k : Nat} (hw : Winding p i h c q)
    (hm : c.move (Shell.exec fs) (.step k) = some c') :
    ∃ q', Winding p i (h ++ [(c, .step k)]) c' q' := by
  obtain ⟨q₀, l, hq₀, -, hl, rfl⟩ := move_step_eq_some hm
  obtain ⟨rfl, rfl⟩ : k = 0 ∧ q₀ = q := by
    rw [hw.loops, List.getElem?_singleton] at hq₀
    split at hq₀
    · next hk => exact ⟨hk, (Option.some.inj hq₀).symm⟩
    · cases hq₀
  obtain ⟨hstopped, hread, hleft, hdue⟩ :=
    Loop.step_of_stopped (fun line _ hs => Shell.running_exec_of_stopped hs line) hw.stopped hl
  have htrail : trail (h ++ [(c, .step 0)]) = trail h ++ [q₀] := by simp [trail, hq₀]
  have harrivals : arrivals (h ++ [(c, .step 0)]) = arrivals h := by simp [arrivals]
  have hran : ran (h ++ [(c, .step 0)]) = ran h ++ q₀.line?.toList := by
    rw [ran, htrail, List.filterMap_append, ran]
    cases q₀ <;> rfl
  refine ⟨l.phase, hstopped, ?_, fun hq => absurd hq hread, ?_, ?_⟩
  · rw [hw.loops]
    rfl
  · rw [hran, harrivals, List.append_assoc]
    exact ((List.prefix_append_right_inj _).2 hdue).trans hw.due
  · have hbefore := hw.left
    rw [htrail, List.length_append, List.length_singleton]
    simp only at hleft
    omega

/-- Every move but a start lets a loop wind down further. -/
theorem Winding.move (hw : Winding p i h c q) (hm : c.move (Shell.exec fs) m = some c')
    (hne : m ≠ .start) : ∃ q', Winding p i (h ++ [(c, m)]) c' q' := by
  cases m with
  | start => exact absurd rfl hne
  | stop => cases hm; exact ⟨q, hw.stop⟩
  | arrive line => cases hm; exact ⟨q, hw.arrive line⟩
  | step k => exact hw.step hm

end Moves

/-- A loop winds down as long as the shell is not started again. -/
theorem History.winding {p : Phase} (hh : History (Shell.exec fs) c₁ h c)
    (hs : c₁.shell.running = false) (hp : c₁.loops = [p]) (hnone : starts h = 0) :
    ∃ q, Winding p c₁.input h c q := by
  induction hh with
  | nil => exact ⟨p, .start hs hp⟩
  | @snoc h c c' m hh hm ih =>
    rw [starts, List.countP_append, List.countP_singleton, ← starts] at hnone
    have hne : m ≠ .start := by
      rintro rfl
      simp at hnone
    obtain ⟨q, hw⟩ := ih (by omega)
    exact hw.move hm hne

/-! ## Stopping -/

/-- A move that stops the shell leaves it stopped. -/
theorem running_of_halts (hm : c.move (Shell.exec fs) m = some c') (hhalts : c.Halts fs m) :
    c'.shell.running = false ∧ m ≠ .start := by
  cases m with
  | start => exact hhalts.elim
  | arrive line => exact hhalts.elim
  | stop => cases hm; exact ⟨rfl, nofun⟩
  | step k =>
    obtain ⟨line, hline, hstops⟩ := hhalts
    obtain ⟨p, l, hp, -, hl, rfl⟩ := move_step_eq_some hm
    obtain rfl : Phase.executing line = p := Option.some.inj (hline.symm.trans hp)
    have hrunning : (c.shell.exec fs line).shell.running = false := by
      rw [← Bool.not_eq_true, Shell.running_exec_iff]
      exact fun hr => hr.2 hstops
    cases Loop.stepped_of_step hl with
    | pass => exact ⟨hrunning, nofun⟩
    | fail => exact ⟨hrunning, nofun⟩

/-- Behind a line that stopped the shell, the loop that ran it has no line to run and does not
read. -/
theorem due_of_halts {p : Phase} (hm : c.move (Shell.exec fs) m = some c') (hhalts : c.Halts fs m)
    (hne : m ≠ .stop) (hp : c'.loops = [p]) (i : Input) : p.due i = [] ∧ p ≠ .reading := by
  cases m with
  | start => exact hhalts.elim
  | arrive line => exact hhalts.elim
  | stop => exact absurd rfl hne
  | step k =>
    obtain ⟨line, hline, -⟩ := hhalts
    obtain ⟨q, l, hq, -, hl, rfl⟩ := move_step_eq_some hm
    obtain rfl : Phase.executing line = q := Option.some.inj (hline.symm.trans hq)
    have hmem : l.phase ∈ c.loops.set k l.phase :=
      List.mem_set (List.getElem?_eq_some_iff.1 hq).1 l.phase
    obtain rfl : l.phase = p := by
      rw [show c.loops.set k l.phase = [p] from hp] at hmem
      exact List.mem_singleton.1 hmem
    cases Loop.stepped_of_step hl with
    | pass => exact ⟨rfl, nofun⟩
    | fail => exact ⟨rfl, nofun⟩

/-- A loop that can go no further has ended, or waits for a line. -/
theorem move_step_isSome_or {q : Phase} (hq : c.loops = [q]) :
    (c.move (Shell.exec fs) (.step 0)).isSome = true ∨ (∃ f, q = .ended f) ∨
      q = .reading ∧ c.input.next.1 = .waiting := by
  cases hl : Loop.step (Shell.exec fs) ⟨q, c.shell, c.input, []⟩ with
  | none => exact .inr (Loop.step_eq_none_iff.1 hl)
  | some l => exact .inl (by simp [Console.move, hq, hl])

/-- **A stop lets at most one line through.** A shell is started once beside its caller; then it is
stopped by the move `m`, whatever its loop does at that time, and it is not started again. From then
on the loop runs at most the line that was due, which it had read before or gets from its pending
read. It begins no other read, takes four steps at most, and stands still only when it has ended or
while the pending read waits. If the stop came from the line that the loop ran, it runs no other and
reads no more. If it came from outside while a line was run, then whatever is left of that line, the
shell does not run behind it; and if no handler asks whether the shell runs, the stop makes no
difference to the line. -/
theorem stop_lets_one_line_through (hh : History (Shell.exec fs) c₀ h c) (h0 : c₀.loops = [])
    (honce : starts h = 1) (hm : c.move (Shell.exec fs) m = some c₁) (hhalts : c.Halts fs m)
    (hh' : History (Shell.exec fs) c₁ h' c₂) (hnone : starts h' = 0) :
    ∃ p q, c₁.loops = [p] ∧ c₂.loops = [q] ∧
      (ran h' <+: p.due (c₁.input.fed (arrivals h')) ∧ (ran h').length ≤ 1) ∧
      (q = .reading → p = .reading ∧ trail h' = []) ∧
      (trail h').length ≤ 4 ∧
      ((c₂.move (Shell.exec fs) (.step 0)).isSome = true ∨ (∃ f, q = .ended f) ∨
        q = .reading ∧ c₂.input.next.1 = .waiting) ∧
      (m ≠ .stop → ran h' = [] ∧ q ≠ .reading) ∧
      (m = .stop → ∀ line, p = .executing line →
        (∀ rest : Program, (c₁.shell.perform fs rest).shell.running = false) ∧
        (c.shell.Unaware .running →
          c₁.shell.exec fs line = (c.shell.exec fs line).stopped)) := by
  obtain ⟨hstopped, hne⟩ := running_of_halts hm hhalts
  obtain ⟨p, hp⟩ : ∃ p, c₁.loops = [p] := by
    have hlength := (hh.snoc hm).length_loops
    have hlast : starts (h ++ [(c, m)]) = starts h := by simp [starts, hne]
    rw [h0, hlast, honce] at hlength
    exact List.length_eq_one_iff.1 hlength
  obtain ⟨q, hw⟩ := hh'.winding hstopped hp hnone
  have hran : ran h' <+: p.due (c₁.input.fed (arrivals h')) :=
    (List.prefix_append _ _).trans hw.due
  have hone : (ran h').length ≤ 1 := Nat.le_trans hran.length_le (p.length_due_le _)
  refine ⟨p, q, hp, hw.loops, ⟨hran, hone⟩, ?_, ?_,
    move_step_isSome_or hw.loops, ?_, ?_⟩
  · intro hq
    obtain ⟨hreading, htrail, -⟩ := hw.reading hq
    exact ⟨hreading, htrail⟩
  · have hleft := hw.left
    have hmost : p.stepsLeft ≤ 4 := by cases p <;> simp [Phase.stepsLeft]
    omega
  · intro hinside
    obtain ⟨hdue, hread⟩ := due_of_halts hm hhalts hinside hp (c₁.input.fed (arrivals h'))
    rw [hdue] at hran
    exact ⟨List.prefix_nil.1 hran, fun hq => hread (hw.reading hq).1⟩
  · rintro rfl line -
    cases hm
    exact ⟨fun rest => Shell.running_perform_of_stopped rfl rest,
      fun hunaware => Shell.exec_stop hunaware line⟩

/-- A file that runs another one, in which the shell is stopped before a further line. -/
def exitFiles : Files :=
  ((∅ : Files).put ["a"] (.file (Text.Utf8.encode "exec filename=b\n".toList))).put
    ["b"] (.file (Text.Utf8.encode "exit\necho\n".toList))

/-- Stopped while it reads, a loop runs the next line and no other; stopped by a line in a file in a
file, it runs none. -/
theorem stop_lets_read_line_through :
    let lines : List Move := [.arrive "echo\n".toList, .arrive "echo x\n".toList]
    let rest : List Move := lines ++ List.replicate 5 (.step 0)
    (let r := [.start, .step 0].foldl (play exitFiles) ([], waiting)
      let c₁ : Console := { r.2 with shell := r.2.shell.stop }
      let r' := rest.foldl (play exitFiles) ([], c₁)
      starts r.1 = 1 ∧ starts r'.1 = 0 ∧ ran r'.1 = ["echo"] ∧ r'.2.loops = [.ended none] ∧
        ran r'.1 <+: Phase.due (c₁.input.fed (arrivals r'.1)) .reading) ∧
    (let r := [.start, .arrive "exec filename=a\n".toList, .step 0, .step 0].foldl
        (play exitFiles) ([], waiting)
      let c₁ := (play exitFiles r (.step 0)).2
      let r' := rest.foldl (play exitFiles) ([], c₁)
      starts r.1 = 1 ∧ starts r'.1 = 0 ∧ r.2.Halts exitFiles (.step 0) ∧ ran r'.1 = [] ∧
        r'.2.loops = [.ended none]) := by
  intro lines rest
  constructor
  · intro r c₁ r'
    have honce : starts r.1 = 1 := by decide +kernel
    have hnone : starts r'.1 = 0 := by decide +kernel
    obtain ⟨p, q, hp, -, ⟨hdue, -⟩, -⟩ := stop_lets_one_line_through
      (history_play exitFiles waiting _) rfl honce (m := .stop) rfl trivial
      (history_play exitFiles c₁ rest) hnone
    have hreading : c₁.loops = [.reading] := by decide +kernel
    obtain rfl : Phase.reading = p := List.singleton_inj.1 (hreading.symm.trans hp)
    exact ⟨honce, hnone, by decide +kernel, by decide +kernel, hdue⟩
  · intro r c₁ r'
    have honce : starts r.1 = 1 := by decide +kernel
    have hnone : starts r'.1 = 0 := by decide +kernel
    have hmove : (r.2.move (Shell.exec exitFiles) (.step 0)).isSome = true := by decide +kernel
    have hline : r.2.loops[0]? = some (.executing "exec filename=a") := by decide +kernel
    have hstops : r.2.shell.Stops exitFiles "exec filename=a" := by
      have hbefore : r.2.shell.running = true := by decide +kernel
      have hafter : (r.2.shell.exec exitFiles "exec filename=a").shell.running = false := by
        decide +kernel
      refine Classical.byContradiction fun hnot => ?_
      rw [(Shell.running_exec_iff _ _).2 ⟨hbefore, hnot⟩] at hafter
      cases hafter
    have hhalts : r.2.Halts exitFiles (.step 0) := ⟨_, hline, hstops⟩
    obtain ⟨p, q, -, -, -, -, -, -, hinside, -⟩ := stop_lets_one_line_through
      (history_play exitFiles waiting _) rfl honce (move_eq_some_play hmove) hhalts
      (history_play exitFiles c₁ rest) hnone
    exact ⟨honce, hnone, hhalts, (hinside nofun).1, by decide +kernel⟩

end Console

end LineShell
