import LineShell.Proofs.Files.Growth
import LineShell.Proofs.Shell.Builtins
import LineShell.Proofs.Shell.CommandFiles

/-!
# Handlers that read files as text

A handler gets the text of a file with its line ends as they are. Most make line ends one before
they do anything else, as the command for files does, and then it does not matter which ones there
were (`Program.ReadsText`). On a shell with such handlers only, no line sees the line ends of any
file (`Shell.ReadsText.callAt`), however deep calls nest.

What handlers there are can change while a line runs, so that they are such has to be kept on the
way: a handler that reads files as text registers only handlers that do.
-/

namespace LineShell

open Text Text.Utf8

variable {fs fs' : Files} {call call' : Call → Shell → Outcome Bool} {s : Shell}

/-! ## Files -/

namespace Files

/-- Whether at each path there is the same to be read, but for line ends. -/
def SameTexts (fs fs' : Files) : Prop :=
  ∀ path, (fs'.readText path).map unifyNewlines = (fs.readText path).map unifyNewlines

theorem sameShape_put (fs : Files) (place : List String) (bytes bytes' : List UInt8) :
    SameShape (fs.put place (.file bytes)) (fs.put place (.file bytes')) where
  cwd := rfl
  home := rfl
  denials := rfl
  node q := by
    rw [node?_put, node?_put]
    split <;> rfl

/-- Files are the same but for line ends, if those differ in one of them at most. -/
theorem sameTexts_put (fs : Files) (place : List String) {text text' : List Char}
    (h : unifyNewlines text' = unifyNewlines text) :
    SameTexts (fs.put place (.file (encode text))) (fs.put place (.file (encode text'))) := by
  intro path
  have hlocate := (sameShape_put fs place (encode text) (encode text')).locateSteps path
    (Path.cut path.toList)
  have htext (text : List Char) : decode (encode text) = .ok text := decode_eq_ok_iff.2 rfl
  rw [readText, readText, readBytes, readBytes, locate, locate, hlocate]
  cases (fs.put place (.file (encode text))).locateSteps path (Path.cut path.toList) with
  | error e => rfl
  | ok q =>
    have hdenials (bytes : List UInt8) : (fs.put place (.file bytes)).denials = fs.denials := rfl
    by_cases hq : q = place ∧ q ≠ []
    · simp only [node?_put, if_pos hq, hdenials]
      cases fs.denials.read.get? q with
      | some r => rfl
      | none =>
        simp only [htext]
        exact congrArg Except.ok h
    · simp only [node?_put, if_neg hq, hdenials]

end Files

/-! ## Programs -/

/-- Whether a program does the same with a file, whatever its line ends are, and registers no
handlers but such. -/
def Program.ReadsText : Program → Prop
  | .done => True
  | .fail _ => True
  | .write _ next => next.ReadsText
  | .log _ next => next.ReadsText
  | .note _ next => next.ReadsText
  | .setVariable _ _ next => next.ReadsText
  | .vars next => ∀ vs, (next vs).ReadsText
  | .commands next => ∀ texts, (next texts).ReadsText
  | .ask _ next => ∀ a, (next a).ReadsText
  | .register _ _ _ body next => (∀ params, (body params).ReadsText) ∧ next.ReadsText
  | .call _ next => ∀ r, (next r).ReadsText
  | .stop next => next.ReadsText
  | .readFile _ next =>
    (∀ r r', r'.map unifyNewlines = r.map unifyNewlines → next r' = next r) ∧
      ∀ r, (next r).ReadsText

theorem Program.inherited_readsText : Inherited (fun _ => True) ReadsText where
  done := trivial
  fail _ := trivial
  write _ _ h := h
  log _ _ h := h
  setVariable _ _ _ h := h
  vars h := h
  commands h := h
  exec _ _ h := forall_orFail (fun _ => trivial) fun _ => h
  stop h := h
  readFile _ _ hsame h := ⟨hsame, h⟩

/-- The built-in commands read files as text. -/
theorem Builtin.readsText_body (b : Builtin) (params : Params) : (b.body params).ReadsText :=
  inherited_body Program.inherited_readsText b params fun _ _ => trivial

/-! ## Calls -/

/-- Whether all handlers of a shell read files as text. -/
def Shell.ReadsText (s : Shell) : Prop :=
  ∀ name h, s.commands.get? name = some h → ∀ params, (h.body params).ReadsText

/-- Whether calls come to the same in both ways to run them, where all handlers read files as text,
and keep it so. -/
def SameReading (call call' : Call → Shell → Outcome Bool) : Prop :=
  ∀ c {s : Shell}, s.ReadsText → call' c s = call c s ∧ (call c s).shell.ReadsText

namespace Shell

theorem OnlyBuiltins.readsText (hs : s.OnlyBuiltins) : s.ReadsText := by
  intro name h hget params
  obtain ⟨b, rfl⟩ := hs name h hget
  exact b.readsText_body params

namespace ReadsText

theorem register (hs : s.ReadsText) {name : String} {h : Handler}
    (hh : ∀ params, (h.body params).ReadsText) : (s.register name h).ReadsText := by
  intro n h' hget
  rw [Shell.register, Assoc.get?_insert] at hget
  split at hget
  · exact Option.some.inj hget ▸ hh
  · exact hs n h' hget

/-- A program that reads files as text goes the same way, whatever their line ends are. -/
theorem run (hfs : fs.SameTexts fs') (hcall : SameReading call call') {p : Program}
    (hp : p.ReadsText) (hs : s.ReadsText) :
    p.run fs' call' s = p.run fs call s ∧ (p.run fs call s).shell.ReadsText := by
  induction p generalizing s with
  | done => exact ⟨rfl, hs⟩
  | fail f => exact ⟨rfl, hs⟩
  | write text next ih => exact (ih hp hs).imp_left (congrArg (Outcome.after [.output text]))
  | log r next ih => exact (ih hp hs).imp_left (congrArg (Outcome.after [.logged r]))
  | note n next ih => exact (ih hp hs).imp_left (congrArg (Outcome.after [.noted n]))
  | setVariable name value next ih => exact ih hp hs
  | vars next ih => exact ih s.vars (hp s.vars) hs
  | commands next ih => exact ih s.helpTexts (hp s.helpTexts) hs
  | ask q next ih => exact ih (s.answerTo q) (hp (s.answerTo q)) hs
  | register name origin help body next ihBody ih => exact ih hp.2 (hs.register hp.1)
  | call c next ih =>
    obtain ⟨hsame, hafter⟩ := hcall c hs
    rw [Program.run, Program.run, hsame]
    exact (ih _ (hp _) hafter).imp_left (congrArg (Outcome.after (call c s).events))
  | stop next ih => exact ih hp hs
  | readFile path next ih =>
    have hnext := hp.1 _ _ (hfs path)
    rw [Program.run, Program.run, hnext]
    exact (ih _ (hp.2 _) hs).imp_left (congrArg (Outcome.after [.opened path]))

theorem dispatchWith (hfs : fs.SameTexts fs') (hcall : SameReading call call')
    (command : Option String) (params : Params) (hs : s.ReadsText) :
    s.dispatchWith fs' call' command params = s.dispatchWith fs call command params ∧
      (s.dispatchWith fs call command params).shell.ReadsText := by
  unfold Shell.dispatchWith
  split
  · exact ⟨rfl, hs⟩
  · next name h hget =>
    obtain ⟨n, -, hn⟩ := Option.bind_eq_some_iff.1 hget
    obtain ⟨h', hh', he⟩ := Option.map_eq_some_iff.1 hn
    cases he
    obtain ⟨hrun, hafter⟩ := run hfs hcall (hs name h hh' (s.substitute params)) hs
    dsimp only
    rw [hrun]
    exact ⟨rfl, hafter⟩

/-- No call sees the line ends of files, however deep calls nest. -/
theorem callAt (hfs : fs.SameTexts fs') (depth : Nat) :
    SameReading (Shell.callAt fs depth) (Shell.callAt fs' depth) := by
  induction depth with
  | zero => exact fun _ _ hs => ⟨rfl, hs⟩
  | succ depth ih =>
    intro c s hs
    cases c with
    | line text =>
      simp only [Shell.callAt]
      split
      · exact dispatchWith hfs ih _ _ hs
      · exact ⟨rfl, hs⟩
    | command name params => exact dispatchWith hfs ih name params hs

theorem exec (hfs : fs.SameTexts fs') (hs : s.ReadsText) (line : String) :
    s.exec fs' line = s.exec fs line :=
  (callAt hfs maxDepth (.line line) hs).1

theorem runScript (hfs : fs.SameTexts fs') (hs : s.ReadsText) (path : String) (echo : Bool) :
    s.runScript fs' path echo = s.runScript fs path echo := by
  have hbody := Builtin.readsText_body .exec
    (Assoc.ofList [("filename", path), ("print-lines", if echo then "true" else "false")])
  rw [Shell.runScript, Shell.perform, (run hfs (callAt hfs maxDepth) hbody hs).1]
  rfl

end ReadsText

end Shell

end LineShell
