import LineShell.Proofs.Shell.Unaware

/-!
# Runs on shells that are alike

What a program does depends on the commands and the variables of its shell, on what it asks about
the loop, and on nothing else of it. Of the files it sees only those that it opens. So on two shells
that handlers cannot tell apart (`Indistinct`) a program goes through the same run, and what it
leaves cannot be told apart either. Calls may even nest deeper in the second run, if handlers give
up where they nest too deep and the first run does not come to the end of its depth.

* `Indistinct.run`, `Indistinct.callAt` - for any relation between shells that handlers do not see,
  with the files and the depth of the second run its own
* `Shell.Alike` - the widest such relation: the same commands and variables

A program makes calls, and a call runs a program. As in the runs themselves, neither needs to be
opened for the other: what is known of calls is taken as `Agrees`.
-/

namespace LineShell

/-! ## The files that a run opens -/

instance decidableEqExcept {ε α : Type} [DecidableEq ε] [DecidableEq α] :
    DecidableEq (Except ε α)
  | .ok a, .ok b => decidable_of_iff (a = b) ⟨congrArg _, Except.ok.inj⟩
  | .error e, .error f => decidable_of_iff (e = f) ⟨congrArg _, Except.error.inj⟩
  | .ok _, .error _ => isFalse nofun
  | .error _, .ok _ => isFalse nofun

/-- Whether the files that were opened have the same texts among the other files. -/
def Files.AgreeOn (fs fs' : Files) (es : List Event) : Prop :=
  ∀ path, .opened path ∈ es → fs'.readText path = fs.readText path

namespace Files.AgreeOn

variable {fs fs' : Files} {es es' : List Event}

theorem left (h : fs.AgreeOn fs' (es ++ es')) : fs.AgreeOn fs' es :=
  fun path hp => h path (List.mem_append_left es' hp)

theorem right (h : fs.AgreeOn fs' (es ++ es')) : fs.AgreeOn fs' es' :=
  fun path hp => h path (List.mem_append_right es hp)

theorem iff_opened :
    fs.AgreeOn fs' es ↔
      ∀ path ∈ es.filterMap Event.opened?, fs'.readText path = fs.readText path := by
  refine forall_congr' fun path => imp_congr_left ?_
  rw [List.mem_filterMap]
  refine ⟨fun h => ⟨_, h, rfl⟩, fun ⟨e, he, hopened⟩ => ?_⟩
  cases e <;> cases hopened
  exact he

instance : Decidable (fs.AgreeOn fs' es) := decidable_of_iff' _ iff_opened

end Files.AgreeOn

/-! ## What handlers cannot tell apart -/

/-- A relation between shells that handlers cannot tell apart who are blind for something, and that
is kept whatever such a handler does to both. -/
structure Indistinct (b : Blind) (R : Shell → Shell → Prop) : Prop where
  unaware : ∀ {s t}, R s t → s.Unaware b
  commands : ∀ {s t}, R s t → t.commands = s.commands
  vars : ∀ {s t}, R s t → t.vars = s.vars
  answer : ∀ {s t} q, R s t → ¬ b.question q → t.answerTo q = s.answerTo q
  setVariable : ∀ {s t} name value, R s t → R (s.setVariable name value) (t.setVariable name value)
  register : ∀ {s t} name (h : Handler), (∀ params, (h.body params).Unaware b) → R s t →
    R (s.register name h) (t.register name h)
  stop : ∀ {s t : Shell}, R s t → R s.stop t.stop

namespace Outcome

variable {α β : Type}

/-- Two outcomes with the same result and the same events, and with shells in a relation. -/
structure Related (R : Shell → Shell → Prop) (o p : Outcome α) : Prop where
  result : p.result = o.result
  shell : R o.shell p.shell
  events : p.events = o.events

/-- A run of which no other need be different: calls have not nested too deep, if that counts, and
every file that it opened has the same text among the other files. -/
structure Settles (b : Blind) (fs fs' : Files) (o : Outcome α) : Prop where
  result : b.depth → o.result ≠ .error .tooDeep
  files : fs.AgreeOn fs' o.events

variable {R : Shell → Shell → Prop} {b : Blind} {fs fs' : Files} {o p : Outcome α}

theorem Related.after (h : o.Related R p) (es : List Event) : (o.after es).Related R (p.after es) :=
  ⟨h.result, h.shell, congrArg (es ++ ·) h.events⟩

theorem Related.map (h : o.Related R p) (f : α → β) : (o.map f).Related R (p.map f) :=
  ⟨congrArg (Except.map f) h.result, h.shell, h.events⟩

theorem Related.eq (h : o.Related Eq p) : p = o := by
  cases o
  cases p
  cases h
  simp_all

theorem Settles.of_after {es : List Event} (h : (o.after es).Settles b fs fs') :
    o.Settles b fs fs' :=
  ⟨h.result, h.files.right⟩

theorem Settles.of_map {f : α → β} (h : (o.map f).Settles b fs fs') : o.Settles b fs fs' := by
  refine ⟨fun hb he => h.result hb ?_, h.files⟩
  rw [map, he]
  rfl

/-- With the same files, where it does not count how deep calls nest, nothing need be different. -/
theorem settles_self (hb : ¬ b.depth) (fs : Files) (o : Outcome α) : o.Settles b fs fs :=
  ⟨fun h => absurd h hb, fun _ _ => rfl⟩

/-- With the same files, only calls that nest too deep can make a difference. -/
theorem settles_of_result (fs : Files) (h : o.result ≠ .error .tooDeep) : o.Settles b fs fs :=
  ⟨fun _ => h, fun _ _ => rfl⟩

end Outcome

/-- Calls come to the same on shells in a relation, if the first way to run them settles it. -/
def Agrees (b : Blind) (R : Shell → Shell → Prop) (fs fs' : Files)
    (call call' : Call → Shell → Outcome Bool) : Prop :=
  ∀ c {s t : Shell}, R s t → (call c s).Settles b fs fs' → (call c s).Related R (call' c t)

namespace Indistinct

variable {b : Blind} {R : Shell → Shell → Prop} {fs fs' : Files}
  {call call' : Call → Shell → Outcome Bool} {s t : Shell}

theorem helpTexts (hR : Indistinct b R) (h : R s t) : t.helpTexts = s.helpTexts := by
  rw [Shell.helpTexts, hR.commands h, Shell.helpTexts]

theorem substitute (hR : Indistinct b R) (h : R s t) (params : Params) :
    t.substitute params = s.substitute params := by
  rw [Shell.substitute, hR.vars h, Shell.substitute]

/-- The answer to a question is the same, or makes no difference. -/
theorem next_answer (hR : Indistinct b R) (h : R s t) {q : Question} {next : Bool → Program}
    (hnext : b.question q → next true = next false) :
    next (t.answerTo q) = next (s.answerTo q) := by
  by_cases hq : b.question q
  · have hsame (a : Bool) : next a = next false := by
      cases a with
      | true => exact hnext hq
      | false => rfl
    rw [hsame, hsame (s.answerTo q)]
  · rw [hR.answer q h hq]

/-- What a call does not settle, the program that makes it does not settle either. -/
theorem settles_call {c : Call} {next : Except Failure Bool → Program}
    (hdeep : b.depth → next (.error .tooDeep) = .fail .tooDeep)
    (h : ((Program.call c next).run fs call s).Settles b fs fs') :
    (call c s).Settles b fs fs' := by
  rw [Program.run] at h
  refine ⟨fun hb he => h.result hb ?_, h.files.left⟩
  rw [Outcome.result_after, he, hdeep hb]
  rfl

/-- A program whose calls agree goes through the same run. -/
theorem run (hR : Indistinct b R) (hcall : Agrees b R fs fs' call call') {p : Program}
    (hp : p.Unaware b) (h : R s t) (hsettles : (p.run fs call s).Settles b fs fs') :
    (p.run fs call s).Related R (p.run fs' call' t) := by
  induction p generalizing s t with
  | done => exact ⟨rfl, h, rfl⟩
  | fail f => exact ⟨rfl, h, rfl⟩
  | write text next ih => exact (ih hp h hsettles.of_after).after _
  | log r next ih => exact (ih hp h hsettles.of_after).after _
  | note n next ih => exact (ih hp h hsettles.of_after).after _
  | setVariable name value next ih => exact ih hp (hR.setVariable name value h) hsettles
  | vars next ih =>
    rw [Program.run, Program.run, hR.vars h]
    exact ih s.vars (hp s.vars) h hsettles
  | commands next ih =>
    rw [Program.run, Program.run, hR.helpTexts h]
    exact ih s.helpTexts (hp s.helpTexts) h hsettles
  | ask q next ih =>
    rw [Program.run, Program.run, hR.next_answer h hp.1]
    exact ih (s.answerTo q) (hp.2 _) h hsettles
  | register name origin help body next ihBody ih =>
    exact ih hp.2 (hR.register name _ hp.1 h) hsettles
  | call c next ih =>
    have ho := hcall c h (settles_call hp.1 hsettles)
    rw [Program.run] at hsettles ⊢
    rw [Program.run, ho.result, ho.events]
    exact (ih _ (hp.2 _) ho.shell hsettles.of_after).after _
  | stop next ih => exact ih hp (hR.stop h) hsettles
  | readFile path next ih =>
    have htext : fs'.readText path = fs.readText path :=
      hsettles.files path List.mem_cons_self
    rw [Program.run, Program.run, htext]
    exact (ih (fs.readText path) (hp _) h hsettles.of_after).after _

theorem dispatchWith (hR : Indistinct b R) (hcall : Agrees b R fs fs' call call')
    (command : Option String) (params : Params) (h : R s t)
    (hsettles : (s.dispatchWith fs call command params).Settles b fs fs') :
    (s.dispatchWith fs call command params).Related R
      (t.dispatchWith fs' call' command params) := by
  unfold Shell.dispatchWith at hsettles ⊢
  rw [hR.commands h, hR.substitute h]
  split
  · exact ⟨rfl, h, rfl⟩
  · next name hd hget =>
    rw [hget] at hsettles
    have hbody : (hd.body (s.substitute params)).Unaware b := by
      obtain ⟨n, -, hn⟩ := Option.bind_eq_some_iff.1 hget
      obtain ⟨hd', hget', he⟩ := Option.map_eq_some_iff.1 hn
      cases he
      exact hR.unaware h name hd hget' _
    exact ((hR.run hcall hbody h hsettles.of_after.of_map).map _).after _

/-- Calls agree that may nest equally deep; and if handlers give up where calls nest too deep, then
those that may nest deeper agree as well. -/
theorem callAt (hR : Indistinct b R) {depth depth' : Nat} (hd : depth ≤ depth')
    (hdeep : b.depth ∨ depth' = depth) :
    Agrees b R fs fs' (Shell.callAt fs depth) (Shell.callAt fs' depth') := by
  induction depth generalizing depth' with
  | zero =>
    intro c s t h hsettles
    obtain hb | rfl := hdeep
    · exact absurd rfl (hsettles.result hb)
    · exact ⟨rfl, h, rfl⟩
  | succ depth ih =>
    obtain ⟨deeper, rfl⟩ : ∃ n, depth' = n + 1 := ⟨depth' - 1, by omega⟩
    have hinner : Agrees b R fs fs' (Shell.callAt fs depth) (Shell.callAt fs' deeper) :=
      ih (by omega) (hdeep.imp_right (by omega))
    intro c s t h hsettles
    cases c with
    | line text =>
      simp only [Shell.callAt] at hsettles ⊢
      split
      · next hv =>
        rw [if_pos hv] at hsettles
        exact hR.dispatchWith hinner _ _ h hsettles
      · exact ⟨rfl, h, rfl⟩
    | command name params => exact hR.dispatchWith hinner name params h hsettles

/-- A line comes to the same on shells that handlers cannot tell apart. -/
theorem exec (hR : Indistinct b R) (line : String) (h : R s t)
    (hsettles : (s.exec fs line).Settles b fs fs') :
    (s.exec fs line).Related R (t.exec fs' line) :=
  hR.callAt (Nat.le_refl Shell.maxDepth) (.inr rfl) (.line line) h hsettles

/-- The same shell cannot be told apart from itself. -/
theorem eq : Indistinct .nothing Eq where
  unaware {s _} _ := s.unaware_nothing
  commands h := h ▸ rfl
  vars h := h ▸ rfl
  answer _ h _ := h ▸ rfl
  setVariable _ _ h := h ▸ rfl
  register _ _ _ h := h ▸ rfl
  stop h := h ▸ rfl

end Indistinct

/-! ## Commands and variables -/

/-- Two shells that have the same commands and the same variables. -/
structure Shell.Alike (s t : Shell) : Prop where
  commands : t.commands = s.commands
  vars : t.vars = s.vars

namespace Shell.Alike

variable {b : Blind} {s t : Shell}

theorem refl (s : Shell) : s.Alike s := ⟨rfl, rfl⟩

/-- Handlers who ask nothing about the loop cannot tell such shells apart. -/
theorem indistinct (hb : ∀ q, b.question q) :
    Indistinct b fun s t => s.Alike t ∧ s.Unaware b where
  unaware h := h.2
  commands h := h.1.commands
  vars h := h.1.vars
  answer q _ hq := absurd (hb q) hq
  setVariable name value h :=
    ⟨⟨h.1.commands, congrArg (·.insert name value) h.1.vars⟩, h.2⟩
  register name hd hh h :=
    ⟨⟨congrArg (·.insert name hd) h.1.commands, h.1.vars⟩, h.2.register name hh⟩
  stop h := ⟨⟨h.1.commands, h.1.vars⟩, h.2⟩

/-- Alike shells at the same point of the same loop are the same. -/
theorem eq (h : s.Alike t) (hprompt : t.prompt = s.prompt)
    (hasync : t.runAsync = s.runAsync) (hrunning : t.running = s.running)
    (hworker : t.worker = s.worker) : t = s := by
  cases s
  cases t
  cases h
  simp_all

end Shell.Alike

end LineShell
