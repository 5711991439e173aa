import LineShell.Launch.Build
import LineShell.Proofs.Config.Checking
import LineShell.Proofs.Line.Grammar
import LineShell.Proofs.Shell.Assignments

/-!
# The names of variables

A configuration may name its variables as it likes, but a line can name only what the grammar calls
a name. The check of a configuration is there to keep the two together. It does so but for one kind
of name: a line feed behind a name passes, and no line can have a parameter with a line feed in its
name. So the check passes exactly the names that can be typed, and these with a line feed behind
them (`Config.passed_iff_typable`).

## How the proofs go

* That a text can be typed as a name (`Line.IsKey`) is said by what a line with it is read as; it
  comes to being a name (`Line.isKey_iff`), since a line with one parameter is read back
  (`Line.parse_single`) and no other parameter has another name (`Line.isName_of_mem_params`).
* The check looks at the text from its end (`Config.isVariableName_iff`).
-/

namespace LineShell

variable {fs : Files} {s : Shell} {n v : String}

/-! ## Names that can be typed -/

namespace Line

/-- Whether a text is read as the name of a parameter where it stands by itself. -/
def IsKey (n : String) : Prop :=
  (parse ("printvar " ++ n)).isValid = true ∧
    (parse ("printvar " ++ n)).params = Assoc.ofList [(n, "true")]

instance : Decidable (IsKey n) := inferInstanceAs (Decidable (_ ∧ _))

/-- A line with one parameter, behind one space. -/
def Layout.single (command : Name) (p : Piece) : Layout where
  name := command
  params := [(⟨[' '], isSpacing_of_mem_space⟩, p)]
  trailing := ⟨[], isSpacing_of_mem_nil⟩

/-- A line with one parameter is read as such. -/
theorem parse_single (command : Name) (p : Piece) {line : String}
    (h : line.toList = command.val ++ ' ' :: p.chars) :
    parse line = ⟨some (String.ofList command.val), Assoc.ofList [p.pair], line.toList.length,
      none⟩ := by
  have hchars : (Layout.single command p).chars = line.toList := by
    rw [h, Layout.chars, Layout.single, Layout.tailChars, List.flatMap_singleton, List.append_nil]
    rfl
  rw [parse_of_layout _ hchars]
  rfl

theorem parse_printvar (hn : isName n.toList = true) :
    parse ("printvar " ++ n) = ⟨some "printvar", Assoc.ofList [(n, "true")],
      ("printvar " ++ n).toList.length, none⟩ := by
  have hpair : (Piece.flag ⟨n.toList, hn⟩).pair = (n, "true") := by
    simp only [Piece.pair, Piece.key, Piece.value, String.ofList_toList]
    rfl
  rw [parse_single ⟨"printvar".toList, by decide⟩ (.flag ⟨n.toList, hn⟩), hpair]
  · rfl
  · rw [String.toList_append, Piece.chars, Piece.tail, List.append_nil]
    rfl

/-- What can be typed as a name is a name. -/
theorem isKey_iff : IsKey n ↔ isName n.toList = true := by
  constructor
  · rintro ⟨hvalid, hparams⟩
    refine isName_of_mem_params hvalid ?_
    rw [hparams, Assoc.mem_keys_ofList]
    exact List.mem_singleton_self n
  · intro hn
    rw [IsKey, parse_printvar hn]
    exact ⟨rfl, rfl⟩

end Line

/-! ## Names that pass -/

namespace Config

theorem isVariableName_newline (m : String) :
    isVariableName (m ++ "\n") = Line.isName m.toList := by
  have hreverse : (m ++ "\n").toList.reverse = '\n' :: m.toList.reverse := by
    rw [String.toList_append, List.reverse_append]
    rfl
  unfold isVariableName
  rw [hreverse]
  simp only [List.reverse_reverse]

theorem isVariableName_of_ne (h : ∀ m, n ≠ m ++ "\n") :
    isVariableName n = Line.isName n.toList := by
  unfold isVariableName
  split
  · next rest hrest =>
    refine absurd ?_ (h (String.ofList rest.reverse))
    rw [← String.toList_inj, String.toList_append, String.toList_ofList,
      ← List.reverse_reverse n.toList, hrest, List.reverse_cons]
    rfl
  · rfl

/-- The check passes names, with a line feed behind them or not. -/
theorem isVariableName_iff : isVariableName n = true ↔
    Line.isName n.toList = true ∨ ∃ m : String, Line.isName m.toList = true ∧ n = m ++ "\n" := by
  by_cases hn : ∃ m, n = m ++ "\n"
  · obtain ⟨m, rfl⟩ := hn
    rw [isVariableName_newline]
    constructor
    · exact fun h => .inr ⟨m, h, rfl⟩
    · rintro (h | ⟨m', hm', he⟩)
      · -- a line feed is no name character
        simp [Line.isName, Line.isNameChar] at h
      · rwa [(String.append_left_inj _).1 he]
  · rw [not_exists] at hn
    rw [isVariableName_of_ne hn]
    constructor
    · exact .inl
    · rintro (h | ⟨m, -, hm⟩)
      · exact h
      · exact absurd hm (hn m)

/-- A check objects to the names that do not pass, and to no others. -/
theorem objects_iff {c : Config} {os : List Objection} (h : c.check fs = .ok os) :
    Objection.name n ∈ os ↔ n ∈ c.vars.keys ∧ isVariableName n = false := by
  obtain ⟨found, rfl, -⟩ := check_eq_ok h
  simp [mem_applying, settingObjections, nameObjections]

end Config

/-! ## Typing them -/

namespace Shell

/-- A line with the command for listings shows the variable that it names. -/
theorem exec_printvar (hs : s.commands.get? "printvar" = some Builtin.printvar.handler)
    (hn : Line.isName n.toList = true) :
    s.exec fs ("printvar " ++ n) =
      ⟨.ok true, s, [.called "printvar" (Assoc.ofList [(n, "true")]), .output "Variables:\n",
        .output ("\t" ++ n ++ ": " ++ (s.vars.get? n).getD "None" ++ "\n"), .output ".\n"]⟩ := by
  have hparse := Line.parse_printvar hn
  have hvalid : (Line.parse ("printvar " ++ n)).isValid = true := by rw [hparse]; rfl
  -- the value of a parameter without one is no name in brackets
  have hvalue : resolve s.vars "true" = "true" := rfl
  have hparams : s.substitute (Assoc.ofList [(n, "true")]) = Assoc.ofList [(n, "true")] := by
    refine Assoc.ext_entries ?_
    show [(n, resolve s.vars "true")] = _
    rw [hvalue]
    rfl
  rw [exec, maxDepth, execAt, callAt, if_pos hvalid, hparse, dispatchWith]
  simp only [Option.bind_some, hs, Option.map_some, hparams]
  rfl

/-- A line with the command for variables gives a variable the value that stands behind it. -/
theorem exec_setvar (hs : s.commands.get? "setvar" = some Builtin.setvar.handler)
    (hn : Line.isName n.toList = true) (hv : '"' ∉ v.toList) :
    s.exec fs ("setvar " ++ n ++ "=\"" ++ v ++ "\"") =
      ⟨.ok true, s.setVariable n (resolve s.vars v),
        [.called "setvar" (Assoc.ofList [(n, resolve s.vars v)])]⟩ := by
  have hline : assignmentLine [(n, v)] = "setvar " ++ n ++ "=\"" ++ v ++ "\"" := by
    rw [← String.toList_inj]
    simp [assignmentLine]
  rw [← hline, exec_assignmentLine hs (by simpa [Assignable] using ⟨hn, hv⟩)]
  rfl

end Shell

namespace Config

/-- The shell of a configuration has all built-in commands, if it is to have them. -/
theorem get?_shellOf {c : Config} (h : c.shell.builtins.holds = true) (b : Builtin) :
    c.shellOf.commands.get? b.name = some b.handler := by
  simp only [shellOf, h, if_true]
  cases b <;> rfl

/-- **The check passes the names that can be typed, and these with a line feed behind them.** A
variable whose name can be typed is shown and given values by lines that name it; a variable whose
name cannot be typed is no parameter of any line. -/
theorem passed_iff_typable (fs : Files) {c : Config} {os : List Objection}
    (h : c.check fs = .ok os) {n : String} (hn : n ∈ c.vars.keys) :
    (Objection.name n ∉ os ↔ Line.IsKey n ∨ ∃ m, Line.IsKey m ∧ n = m ++ "\n") ∧
    (¬ Line.IsKey n → ∀ line, (Line.parse line).isValid = true →
      n ∉ (Line.parse line).params.keys) ∧
    (Line.IsKey n → c.shell.builtins.holds = true →
      (∃ x, c.vars.get? n = some x ∧
        Event.written (c.shellOf.exec fs ("printvar " ++ n)).events =
          "Variables:\n" ++ ("\t" ++ n ++ ": " ++ x ++ "\n") ++ ".\n") ∧
      ∀ v, '"' ∉ v.toList →
        (c.shellOf.exec fs ("setvar " ++ n ++ "=\"" ++ v ++ "\"")).shell =
          c.shellOf.setVariable n (resolve c.vars v)) := by
  refine ⟨?_, ?_, ?_⟩
  · have hpasses : Objection.name n ∉ os ↔ isVariableName n = true := by
      rw [objects_iff h]
      simp [hn]
    simp only [hpasses, isVariableName_iff, Line.isKey_iff]
  · intro hkey line hvalid hmem
    exact hkey (Line.isKey_iff.2 (Line.isName_of_mem_params hvalid hmem))
  · intro hkey hbuiltins
    have hname := Line.isKey_iff.1 hkey
    constructor
    · obtain ⟨x, hx⟩ := Option.isSome_iff_exists.1 (Assoc.contains_iff.2 hn)
      refine ⟨x, hx, ?_⟩
      rw [Shell.exec_printvar (get?_shellOf hbuiltins .printvar) hname, variables_shellOf, hx]
      simp only [Event.written, List.filterMap_cons, List.filterMap_nil, Event.output?,
        String.join_cons, String.join_nil, Option.getD_some, String.append_assoc,
        String.append_empty]
    · intro v hv
      rw [Shell.exec_setvar (get?_shellOf hbuiltins .setvar) hname hv, variables_shellOf]

/-- A configuration with one variable. -/
def withVariable (n v : String) : Config := { vars := Assoc.ofList [(n, v)] }

/-- A name that passes and is typed, and one that does not pass and is no parameter. -/
theorem passed_and_objected :
    let c := withVariable "a.b" "1"
    let d := withVariable "a b" "1"
    let line := "setvar a b=1"
    c.check ∅ = .ok [] ∧ d.check ∅ = .ok [.name "a b"] ∧
      "a.b" ∈ c.vars.keys ∧ "a b" ∈ d.vars.keys ∧
      Event.written (c.shellOf.exec ∅ "printvar a.b").events =
        "Variables:\n\ta.b: 1\n.\n" ∧
      (Line.parse line).isValid = true ∧ "a b" ∉ (Line.parse line).params.keys := by
  intro c d line
  have hpasses : c.check ∅ = .ok [] := by decide +kernel
  have hobjects : d.check ∅ = .ok [.name "a b"] := by decide +kernel
  have hc : "a.b" ∈ c.vars.keys := by decide +kernel
  have hd : "a b" ∈ d.vars.keys := by decide +kernel
  have hvalid : (Line.parse line).isValid = true := by decide +kernel
  obtain ⟨hiff, -, htyped⟩ := passed_iff_typable ∅ hpasses hc
  obtain ⟨hiff', huntyped, -⟩ := passed_iff_typable ∅ hobjects hd
  refine ⟨hpasses, hobjects, hc, hd, ?_, hvalid, huntyped (fun hkey => ?_) line hvalid⟩
  · have hkey : Line.IsKey "a.b" := by decide +kernel
    obtain ⟨⟨x, hx, hshown⟩, -⟩ := htyped hkey (by decide +kernel)
    rw [show x = "1" from (Option.some.inj hx).symm] at hshown
    exact hshown
  · exact hiff'.2 (.inl hkey) List.mem_cons_self

/-- A name with a line feed at its end passes, and cannot be typed. -/
theorem line_feed_passes :
    (withVariable "a\n" "1").check ∅ = .ok [] ∧
      "a\n" ∈ (withVariable "a\n" "1").vars.keys ∧ ¬ Line.IsKey "a\n" := by
  decide +kernel

end Config

end LineShell
