import LineShell.Proofs.Shell.Calling
import LineShell.Shell.Builtin

/-!
# Giving variables values by a line

A line of `setvar` can give values to many variables. All values are resolved before the handler
runs, so a reference to a variable that the same line sets means what the variable held before. The
parameters of the line are a map and not the pairs that were typed, but writing the map writes the
same as writing the pairs in order (`Assoc.insertAll_entries_ofList`). What a variable holds then is
read back by `echo`, as it stands.

Both lines are written as the grammar has them (`Line.Layout.spaced`), and `Shell.exec_of_known`
takes a line of the grammar to the run of its handler.
-/

namespace LineShell

/-! ## Lines with one space in front of each parameter -/

namespace Line

theorem isSpacing_of_mem_space :
    ([' '] : List Char) ≠ [] ∧ ∀ c ∈ [' '], isSpacing c = true := by
  simp [isSpacing]

/-- A command with parameters, and one space in front of each. -/
def Layout.spaced (command : Name) (pieces : List Piece) : Layout where
  name := command
  params := pieces.map (⟨[' '], isSpacing_of_mem_space⟩, ·)
  trailing := ⟨[], isSpacing_of_mem_nil⟩

theorem Layout.chars_spaced (command : Name) (pieces : List Piece) :
    (spaced command pieces).chars = command.val ++ pieces.flatMap fun p => ' ' :: p.chars := by
  simp [spaced, chars, tailChars, List.flatMap_map]

theorem Layout.pairs_spaced (command : Name) (pieces : List Piece) :
    (spaced command pieces).pairs = pieces.map Piece.pair := by
  simp [spaced, pairs]

end Line

/-! ## Assigning -/

/-- A program that gives values to variables writes all pairs in order. -/
theorem Program.run_assignments (fs : Files) (call : Call → Shell → Outcome Bool)
    (ps : List (String × String)) (next : Program) (s : Shell) :
    (ps.foldr (fun p next => setVariable p.1 p.2 next) next).run fs call s =
      next.run fs call { s with vars := s.vars.insertAll ps } := by
  induction ps generalizing s with
  | nil => rfl
  | cons p ps ih => rw [List.foldr_cons, Program.run, ih, Shell.setVariable, Assoc.insertAll_cons]

namespace Shell

variable {fs : Files} {s : Shell}

/-- A line of the grammar runs the handler of its command, if there is one. -/
theorem exec_of_known {line : String} {h : Handler} (l : Line.Layout) (hl : l.chars = line.toList)
    (hget : s.commands.get? (String.ofList l.name.val) = some h) :
    s.exec fs line =
      (((h.body (s.substitute (Assoc.ofList l.pairs))).run fs (callAt fs (maxDepth - 1)) s).map
        fun _ => true).after
        [.called (String.ofList l.name.val) (s.substitute (Assoc.ofList l.pairs))] := by
  have hdepth : s.exec fs line = s.execAt fs (maxDepth - 1 + 1) line := rfl
  rw [hdepth, execAt_of_layout l hl, dispatchWith_of_known hget]

/-- A line that gives values to variables, each value between quotes. -/
def assignmentLine (ps : List (String × String)) : String :=
  "setvar" ++ String.join (ps.map fun p => " " ++ p.1 ++ "=\"" ++ p.2 ++ "\"")

/-- Whether every pair can be written on such a line: a name, and a value without a quote. -/
def Assignable (ps : List (String × String)) : Prop :=
  ∀ p ∈ ps, Line.isName p.1.toList = true ∧ '"' ∉ p.2.toList

/-- The parameters of such a line. -/
theorem exists_pieces {ps : List (String × String)} (hps : Assignable ps) :
    ∃ pieces : List Line.Piece, pieces.map Line.Piece.pair = ps ∧
      (pieces.flatMap fun p => ' ' :: p.chars) =
        ps.flatMap fun p => (" " ++ p.1 ++ "=\"" ++ p.2 ++ "\"").toList := by
  induction ps with
  | nil => exact ⟨[], rfl, rfl⟩
  | cons p ps ih =>
    obtain ⟨⟨hname, hvalue⟩, hps⟩ := List.forall_mem_cons.1 hps
    obtain ⟨pieces, hpairs, hchars⟩ := ih hps
    refine ⟨.quoted ⟨p.1.toList, hname⟩ ⟨p.2.toList, hvalue⟩ :: pieces, ?_, ?_⟩
    · simp [hpairs, Line.Piece.pair, Line.Piece.key, Line.Piece.value]
    · rw [List.flatMap_cons, List.flatMap_cons, hchars]
      simp [Line.Piece.chars, Line.Piece.key, Line.Piece.tail]

theorem exists_layout_assignmentLine {ps : List (String × String)} (hps : Assignable ps) :
    ∃ l : Line.Layout, l.chars = (assignmentLine ps).toList ∧
      String.ofList l.name.val = "setvar" ∧ l.pairs = ps := by
  obtain ⟨pieces, hpairs, hchars⟩ := exists_pieces hps
  refine ⟨.spaced ⟨"setvar".toList, by decide⟩ pieces, ?_, rfl, ?_⟩
  · rw [Line.Layout.chars_spaced, hchars, assignmentLine, String.toList_append,
      String.toList_join, List.flatMap_map]
  · rw [Line.Layout.pairs_spaced, hpairs]

/-- All values are resolved with what the variables hold before the first of them is set. -/
theorem exec_assignmentLine (hset : s.commands.get? "setvar" = some Builtin.setvar.handler)
    {ps : List (String × String)} (hps : Assignable ps) :
    let qs := ps.map fun p => (p.1, resolve s.vars p.2)
    s.exec fs (assignmentLine ps) = ⟨.ok true, { s with vars := s.vars.insertAll qs },
      [.called "setvar" (Assoc.ofList qs)]⟩ := by
  intro qs
  obtain ⟨l, hl, hname, hpairs⟩ := exists_layout_assignmentLine hps
  have hargs : s.substitute (Assoc.ofList l.pairs) = Assoc.ofList qs := by
    rw [hpairs, substitute, Assoc.mapValues_ofList]
  rw [exec_of_known l hl (by rw [hname]; exact hset), hargs, hname]
  simp only [Builtin.handler, Builtin.body, Program.run_assignments,
    Assoc.insertAll_entries_ofList, Program.run]
  rfl

/-- The line that asks for what a variable holds. -/
def echoLine (n : String) : String := "echo text=[" ++ n ++ "]"

theorem exists_layout_echoLine {n : String} (hn : Line.isName n.toList = true) :
    ∃ l : Line.Layout, l.chars = (echoLine n).toList ∧ String.ofList l.name.val = "echo" ∧
      l.pairs = [("text", "[" ++ n ++ "]")] := by
  have hall : ∀ c ∈ n.toList, Line.isNameChar c = true :=
    Line.Name.isNameChar_of_mem ⟨n.toList, hn⟩
  have hbare : (∀ c ∈ ("[" ++ n ++ "]").toList, Line.isSpacing c = false) ∧
      ("[" ++ n ++ "]").toList.head? ≠ some '"' := by
    simp only [String.toList_append]
    refine ⟨fun c hc => ?_, by simp⟩
    rcases List.mem_append.1 hc with hc | hc
    · rcases List.mem_append.1 hc with hc | hc
      · obtain rfl : c = '[' := by simpa using hc
        decide
      · exact Line.isSpacing_of_isNameChar (hall c hc)
    · obtain rfl : c = ']' := by simpa using hc
      decide
  refine ⟨.spaced ⟨"echo".toList, by decide⟩
    [.bare ⟨"text".toList, by decide⟩ ⟨("[" ++ n ++ "]").toList, hbare⟩], ?_, rfl, ?_⟩
  · rw [Line.Layout.chars_spaced]
    simp [echoLine, Line.Piece.chars, Line.Piece.key, Line.Piece.tail]
  · simp only [Line.Layout.pairs_spaced, Line.Piece.pair, Line.Piece.key, Line.Piece.value,
      List.map_cons, List.map_nil, String.ofList_toList]

/-- What a variable holds is written as it stands. -/
theorem exec_echoLine (hecho : s.commands.get? "echo" = some Builtin.echo.handler) {n x : String}
    (hn : Line.isName n.toList = true) (hx : s.vars.get? n = some x) :
    s.exec fs (echoLine n) =
      ⟨.ok true, s, [.called "echo" (Assoc.ofList [("text", x)]), .output (x ++ "\n")]⟩ := by
  obtain ⟨l, hl, hname, hpairs⟩ := exists_layout_echoLine hn
  have hargs : s.substitute (Assoc.ofList l.pairs) = Assoc.ofList [("text", x)] := by
    rw [hpairs, substitute, Assoc.mapValues_ofList, List.map_singleton,
      (resolves_resolve s.vars).reference hx]
  rw [exec_of_known l hl (by rw [hname]; exact hecho), hargs, hname]
  rfl

/-- **A line gives its variables their values at once, and `echo` reads them back.** Every value is
resolved with the variables as they were before the line, whatever the line sets; the pairs are then
written in order, and nothing else changes. What a variable then holds is written as it stands, even
if it looks like a reference. -/
theorem assigned_at_once_and_read_back (fs : Files) {s : Shell}
    (hset : s.commands.get? "setvar" = some Builtin.setvar.handler)
    (hecho : s.commands.get? "echo" = some Builtin.echo.handler) {ps : List (String × String)}
    (hps : Assignable ps) :
    ∃ r, Resolves s.vars r ∧
      let qs := ps.map fun p => (p.1, r p.2)
      let t := { s with vars := s.vars.insertAll qs }
      s.exec fs (assignmentLine ps) = ⟨.ok true, t, [.called "setvar" (Assoc.ofList qs)]⟩ ∧
      ∀ p ∈ ps, ∃ x, t.vars.get? p.1 = some x ∧ t.exec fs (echoLine p.1) =
        ⟨.ok true, t, [.called "echo" (Assoc.ofList [("text", x)]), .output (x ++ "\n")]⟩ := by
  refine ⟨resolve s.vars, resolves_resolve s.vars, ?_⟩
  intro qs t
  refine ⟨exec_assignmentLine hset hps, fun p hp => ?_⟩
  have hkey : p.1 ∈ t.vars.keys := by
    refine Assoc.mem_keys_insertAll.2 (.inr ?_)
    simpa [qs] using ⟨p.2, hp⟩
  obtain ⟨x, hx⟩ := Option.isSome_iff_exists.1 (Assoc.contains_iff.2 hkey)
  exact ⟨x, hx, exec_echoLine (s := t) hecho (hps p hp).1 hx⟩

/-- A shell with two variables, one of which holds a reference to the other. -/
def referring : Shell :=
  { standard "" false with vars := Assoc.ofList [("a", "[b]"), ("b", "x=\"1\" y")] }

/-- Two variables are exchanged by one line, and what looks like a reference is read back as it
stands. -/
theorem exchanged_and_read_back :
    let ps := [("a", "[b]"), ("b", "[a]")]
    assignmentLine ps = "setvar a=\"[b]\" b=\"[a]\"" ∧ Assignable ps ∧
      referring.commands.get? "setvar" = some Builtin.setvar.handler ∧
      referring.commands.get? "echo" = some Builtin.echo.handler ∧
      ∃ t, (referring.exec ∅ (assignmentLine ps)).shell = t ∧
        t.vars = Assoc.ofList [("a", "x=\"1\" y"), ("b", "[b]")] ∧
        Event.written (t.exec ∅ (echoLine "b")).events = "[b]\n" := by
  intro ps
  have hline : assignmentLine ps = "setvar a=\"[b]\" b=\"[a]\"" := by decide +kernel
  have hps : Assignable ps := by
    unfold Assignable
    decide +kernel
  obtain ⟨r, hr, hexec, hecho⟩ := assigned_at_once_and_read_back ∅
    (s := referring) rfl rfl hps
  have ha : r "[a]" = "[b]" := hr.reference (n := "a") rfl
  have hb : r "[b]" = "x=\"1\" y" := hr.reference (n := "b") rfl
  obtain ⟨x, hx, hwritten⟩ := hecho ("b", "[a]") (by simp [ps])
  simp only [ps, List.map_cons, List.map_nil, ha, hb] at hexec hx hwritten
  obtain rfl : "[b]" = x := Option.some.inj hx
  refine ⟨hline, hps, rfl, rfl, _, rfl, ?_, ?_⟩
  · rw [hexec]
    rfl
  · rw [hexec, hwritten]
    rfl

end Shell

end LineShell
