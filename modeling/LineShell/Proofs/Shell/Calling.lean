import LineShell.Proofs.Line.Grammar
import LineShell.Shell.Handlers

/-!
# What a line does

A line is refused, passed over, or calls one handler. Which of these, and with which arguments, is
settled before the handler runs: by the grammar of lines, and by the commands and variables that the
shell has then. What the handler does to them comes too late to change its own call.

* `Resolved` - the arguments that parameters come to, said of each value on its own
* `Contract` - what a line has to do

`execAt` follows what the reader of lines says of a line; the lemmas here say it by the grammar
instead, one for each way a line can go.
-/

namespace LineShell

/-! ## Arguments -/

/-- A value is a reference to the name that stands between its brackets. -/
theorem bracketed?_eq_some_iff {value n : String} :
    bracketed? value = some n ↔ value = "[" ++ n ++ "]" := by
  have hwritten : ("[" ++ n ++ "]").toList = '[' :: (n.toList ++ [']']) := by
    rw [String.toList_append, String.toList_append]
    rfl
  rw [← String.toList_inj, hwritten]
  unfold bracketed?
  constructor
  · intro h
    split at h
    · next rest hrest =>
      split at h
      · next hlast =>
        obtain ⟨inner, rfl⟩ := List.getLast?_eq_some_iff.1 hlast
        rw [hrest, ← Option.some.inj h, String.toList_ofList, List.dropLast_concat]
      · cases h
    · cases h
  · intro h
    rw [h]
    simp

/-- What a function makes of values, if it resolves references to variables: a reference to one that
is set becomes what the variable holds, and every other value stays. -/
structure Resolves (vars : Assoc String String) (r : String → String) : Prop where
  reference : ∀ {n x}, vars.get? n = some x → r ("[" ++ n ++ "]") = x
  other : ∀ {v}, (∀ n, v = "[" ++ n ++ "]" → vars.get? n = none) → r v = v

theorem resolves_resolve (vars : Assoc String String) : Resolves vars (resolve vars) where
  reference {n x} hn := by
    rw [resolve, bracketed?_eq_some_iff.2 rfl]
    simp only [hn, Option.getD_some]
  other {v} hother := by
    rw [resolve]
    cases hv : bracketed? v with
    | none => rfl
    | some n => simp only [hother n (bracketed?_eq_some_iff.1 hv), Option.getD_none]

/-- The arguments that parameters come to: a reference to a variable gives way to what the variable
holds, as it stands, and every other value stays. -/
structure Resolved (vars : Assoc String String) (params args : Params) : Prop where
  keys : args.keys = params.keys
  reference : ∀ {k n x}, params.get? k = some ("[" ++ n ++ "]") → vars.get? n = some x →
    args.get? k = some x
  other : ∀ {k v}, params.get? k = some v → (∀ n, v = "[" ++ n ++ "]" → vars.get? n = none) →
    args.get? k = some v

theorem resolved_substitute (s : Shell) (params : Params) :
    Resolved s.vars params (s.substitute params) where
  keys := Assoc.keys_mapValues _ params
  reference hk hn := by
    rw [Shell.substitute, Assoc.get?_mapValues, hk, Option.map_some,
      (resolves_resolve s.vars).reference hn]
  other hk hother := by
    rw [Shell.substitute, Assoc.get?_mapValues, hk, Option.map_some,
      (resolves_resolve s.vars).other hother]

/-! ## Calls -/

namespace Shell

variable {fs : Files} {call : Call → Shell → Outcome Bool} {line : String} {s : Shell}

/-- The warnings among what was seen. -/
def warnings (es : List Event) : List Log.Record :=
  (Event.records es).filter fun r => r.level = .warning

/-- What comes of a line that calls nothing: no result, nothing written, and the shell as it was. -/
structure PassedOver (s : Shell) (o : Outcome Bool) : Prop where
  result : o.result = .ok false
  shell : o.shell = s
  calls : o.events.filterMap Event.called? = []
  output : o.events.filterMap Event.output? = []

/-- What a line has to do, if `call` is what the calls of its handler come to. -/
structure Contract (fs : Files) (call : Call → Shell → Outcome Bool) (line : String) (s : Shell)
    (o : Outcome Bool) : Prop where
  /-- What is no line of the grammar leaves one warning. -/
  refused : (¬ ∃ l : Line.Layout, l.chars = line.toList) → PassedOver s o ∧
    warnings o.events = [⟨.warning, .shell, s!"Invalid command: {(Line.parse line).render}"⟩]
  /-- A command that nobody registered leaves none. -/
  unknown : ∀ l : Line.Layout, l.chars = line.toList →
    s.commands.get? (String.ofList l.name.val) = none → PassedOver s o ∧ warnings o.events = []
  /-- A handler is called once, with the parameters of the line and the variables of the shell
  before the call, and what it comes to is what the line comes to. -/
  called : ∀ (l : Line.Layout) (h : Handler), l.chars = line.toList →
    s.commands.get? (String.ofList l.name.val) = some h →
    ∃ args, Resolved s.vars (Assoc.ofList l.pairs) args ∧
      o.result = ((h.body args).run fs call s).result.map (fun _ => true) ∧
      o.shell = ((h.body args).run fs call s).shell ∧
      o.events = .called (String.ofList l.name.val) args :: ((h.body args).run fs call s).events

/-- A line of the grammar is dispatched as its layout says. -/
theorem execAt_of_layout (l : Line.Layout) (h : l.chars = line.toList) (depth : Nat) :
    s.execAt fs (depth + 1) line =
      s.dispatchWith fs (callAt fs depth) (some (String.ofList l.name.val))
        (Assoc.ofList l.pairs) := by
  have hparse := Line.parse_of_layout l h
  have hvalid : (Line.parse line).isValid = true := by rw [hparse]; rfl
  rw [execAt, callAt, if_pos hvalid, hparse]

/-- A line that is none of the grammar is refused. -/
theorem execAt_of_not_isValid (h : (Line.parse line).isValid = false) (depth : Nat) :
    s.execAt fs (depth + 1) line = ⟨.ok false, s,
      (((Line.parse line).diagnosis line).toList.map fun m => Event.logged ⟨.debug, .parser, m⟩) ++
        [record .warning s!"Invalid command: {(Line.parse line).render}"]⟩ := by
  rw [execAt, callAt, if_neg (by simp [h])]

theorem dispatchWith_of_unknown {name : String} (h : s.commands.get? name = none)
    (params : Params) : s.dispatchWith fs call (some name) params =
      ⟨.ok false, s, [record .debug ("Ignoring unknown command '" ++ name ++ "'")]⟩ := by
  simp only [dispatchWith, Option.bind_some, h, Option.map_none]
  rfl

theorem dispatchWith_of_known {name : String} {h : Handler} (hget : s.commands.get? name = some h)
    (params : Params) : s.dispatchWith fs call (some name) params =
      (((h.body (s.substitute params)).run fs call s).map fun _ => true).after
        [.called name (s.substitute params)] := by
  simp only [dispatchWith, Option.bind_some, hget, Option.map_some]

/-- What the reader of lines notes about a line is no warning, and nothing else is seen of it. -/
theorem passedOver_refused (line : String) (s : Shell) (message : String) :
    PassedOver s ⟨.ok false, s,
      (((Line.parse line).diagnosis line).toList.map fun m => Event.logged ⟨.debug, .parser, m⟩) ++
        [record .warning message]⟩ ∧
    warnings ((((Line.parse line).diagnosis line).toList.map fun m =>
      Event.logged ⟨.debug, .parser, m⟩) ++ [record .warning message]) =
        [⟨.warning, .shell, message⟩] := by
  cases (Line.parse line).diagnosis line with
  | none => exact ⟨⟨rfl, rfl, rfl, rfl⟩, rfl⟩
  | some note => exact ⟨⟨rfl, rfl, rfl, rfl⟩, rfl⟩

theorem isValid_eq_false_of_no_layout (h : ¬ ∃ l : Line.Layout, l.chars = line.toList) :
    (Line.parse line).isValid = false := by
  rw [← Bool.not_eq_true]
  intro hvalid
  obtain ⟨l, hl, -⟩ := Line.exists_layout_of_isValid hvalid
  exact h ⟨l, hl⟩

/-- **What a line does.** A line that is none of the grammar leaves one warning and nothing else,
one whose command is not registered not even that. Any other line calls the handler that is
registered under its command, once and with its parameters, in which references to variables have
given way to what these held before the call; and it comes to `true`, or to the failure of the
handler. So do the lines that lines run. -/
theorem exec_calls_registered (fs : Files) (line : String) (s : Shell) :
    Contract fs (callAt fs (maxDepth - 1)) line s (s.exec fs line) ∧
      ∀ depth, Contract fs (callAt fs depth) line s (s.execAt fs (depth + 1) line) := by
  have hall : ∀ depth, Contract fs (callAt fs depth) line s (s.execAt fs (depth + 1) line) := by
    intro depth
    refine ⟨fun hno => ?_, fun l hl hget => ?_, fun l h hl hget => ?_⟩
    · rw [execAt_of_not_isValid (isValid_eq_false_of_no_layout hno)]
      exact passedOver_refused line s _
    · rw [execAt_of_layout l hl, dispatchWith_of_unknown hget]
      exact ⟨⟨rfl, rfl, rfl, rfl⟩, rfl⟩
    · rw [execAt_of_layout l hl, dispatchWith_of_known hget]
      exact ⟨_, resolved_substitute s _, rfl, rfl, rfl⟩
  exact ⟨hall (maxDepth - 1), hall⟩

/-- A shell whose variables hold what looks like a reference, or like parameters. -/
def lookalike : Shell where
  commands := Assoc.ofList [("note", .recorder .object "" "note")]
  vars := Assoc.ofList [("a", "[b]"), ("b", "x=\"1\" y")]

/-- What variables hold is not looked at again. -/
theorem lookalikes_stay :
    let o := lookalike.exec ∅ "note p=[a] q=[b] r=[c] q=\"[a] \" s=[b]"
    o.result = .ok true ∧ ∃ args : Params,
      o.events = [.called "note" args, .noted (.called "note" args)] ∧
      args.keys = ["p", "q", "r", "s"] ∧ args.get? "p" = some "[b]" ∧
      args.get? "q" = some "[a] " ∧ args.get? "r" = some "[c]" ∧
      args.get? "s" = some "x=\"1\" y" := by
  intro o
  obtain ⟨hcontract, -⟩ := exec_calls_registered ∅
    "note p=[a] q=[b] r=[c] q=\"[a] \" s=[b]" lookalike
  obtain ⟨l, hl, hname, hparams⟩ := Line.exists_layout_of_isValid
    (show (Line.parse "note p=[a] q=[b] r=[c] q=\"[a] \" s=[b]").isValid = true by decide +kernel)
  rw [show (Line.parse "note p=[a] q=[b] r=[c] q=\"[a] \" s=[b]").command = some "note" by
    decide +kernel, Option.some.injEq] at hname
  rw [show (Line.parse "note p=[a] q=[b] r=[c] q=\"[a] \" s=[b]").params = Assoc.ofList
    [("p", "[a]"), ("q", "[a] "), ("r", "[c]"), ("s", "[b]")] by decide +kernel] at hparams
  obtain ⟨args, hargs, hresult, -, hevents⟩ :=
    hcontract.called l (.recorder .object "" "note") hl (by rw [← hname]; rfl)
  rw [← hname] at hevents
  rw [← hparams] at hargs
  have hbare : ∀ n, "[a] " ≠ "[" ++ n ++ "]" := by
    intro n h
    rw [← bracketed?_eq_some_iff, show bracketed? "[a] " = none by decide] at h
    cases h
  have hunset : ∀ n, "[c]" = "[" ++ n ++ "]" → lookalike.vars.get? n = none := by
    intro n h
    rw [← bracketed?_eq_some_iff] at h
    obtain rfl : "c" = n := Option.some.inj h
    decide
  exact ⟨hresult, args, hevents, hargs.keys, hargs.reference (n := "a") rfl rfl,
    hargs.other rfl fun n h => absurd h (hbare n), hargs.other rfl hunset,
    hargs.reference (n := "b") rfl rfl⟩

end Shell

end LineShell
