import LineShell.Console.Session
import LineShell.Proofs.Console.Answers

/-!
# Consoles that do not know of each other

In a session, things are done with several consoles, in any order, while files are written
(`Session.play`). What is done with one console, be it by its caller or by its loops step by step,
is seen by no other. Each console answers, and is left, as if nothing but its own had been done
(`Session.AsAlone`). Files are all that the consoles have in common; so those have to keep the texts
that the console comes to see.

## How the proof goes

A turn of the session concerns one console or the files. Where it concerns the console in question,
that does the same as it would alone, since its answer depends only on the files that are opened for
it (`Console.respond_on`). Everything else goes by.
-/

namespace LineShell

/-- One thing that happens in a session: something is done with the console of this number, or a
file is written. -/
inductive Turn where
  | deed (k : Nat) (d : Deed)
  | write (path : String) (bytes : List UInt8)

namespace Turn

/-- What is done with the console of this number. -/
def deedOf? (k : Nat) : Turn → Option Deed
  | deed j d => if j = k then some d else none
  | write _ _ => none

/-- Whether no file is written. -/
def isDeed : Turn → Bool
  | deed _ _ => true
  | write _ _ => false

end Turn

namespace Session

variable {s : Session} {c : Console} {k : Nat}

/-- The session after a turn, and which console answers what. What goes to a console that there is
not changes nothing. -/
def take (s : Session) : Turn → Session × List (Nat × Answer)
  | .deed k d =>
    match s.consoles[k]? with
    | none => (s, [])
    | some c =>
      let r := c.respond (d.on s.files)
      ({ s with consoles := s.consoles.set k r.console }, [(k, r)])
  | .write path bytes => (s.writeFile path bytes, [])

/-- The session after several turns, and all answers in order. -/
def play (s : Session) : List Turn → Session × List (Nat × Answer)
  | [] => (s, [])
  | t :: ts =>
    let r := (s.take t).1.play ts
    (r.1, (s.take t).2 ++ r.2)

/-- What the console of this number answered. -/
def answersOf (k : Nat) (rs : List (Nat × Answer)) : List Answer :=
  rs.filterMap fun r => if r.1 = k then some r.2 else none

theorem answersOf_append (k : Nat) (rs rs' : List (Nat × Answer)) :
    answersOf k (rs ++ rs') = answersOf k rs ++ answersOf k rs' :=
  List.filterMap_append

/-- To act on a console is a turn. -/
theorem take_of_perform {s' : Session} {a : Action} {r : Answer}
    (h : s.perform k a = some (r, s')) (fs : Files) :
    s.take (.deed k (.act fs a)) = (s', [(k, r)]) := by
  unfold perform at h
  split at h
  · cases h
  · next c hc =>
    cases h
    simp only [take, hc]
    rfl

/-! ## One turn -/

/-- A turn of another console leaves this one alone. -/
theorem take_other {t : Turn} (ht : t.deedOf? k = none) :
    (s.take t).1.consoles[k]? = s.consoles[k]? ∧ answersOf k (s.take t).2 = [] := by
  cases t with
  | deed j d =>
    have hj : j ≠ k := fun h => by simp [Turn.deedOf?, h] at ht
    cases hc : s.consoles[j]? with
    | none => simp [take, hc, answersOf]
    | some c => simp [take, hc, answersOf, hj]
  | write path bytes => exact ⟨rfl, rfl⟩

/-- A turn of this console gives its answer, and leaves the console that it leaves. -/
theorem take_own {t : Turn} {d : Deed} (ht : t.deedOf? k = some d)
    (hc : s.consoles[k]? = some c) :
    let r := c.respond (d.on s.files)
    (s.take t).1.consoles[k]? = some r.console ∧ answersOf k (s.take t).2 = [r] := by
  cases t with
  | deed j e =>
    obtain ⟨rfl, rfl⟩ : j = k ∧ e = d := by
      simp only [Turn.deedOf?] at ht
      split at ht
      · next hj => exact ⟨hj, Option.some.inj ht⟩
      · cases ht
    have hlt : j < s.consoles.length := (List.getElem?_eq_some_iff.1 hc).1
    simp [take, hc, answersOf, List.getElem?_set_self hlt]
  | write path bytes => cases ht

/-- Only writing changes the files. -/
theorem files_take {t : Turn} (ht : t.isDeed = true) : (s.take t).1.files = s.files := by
  cases t with
  | deed j d => cases hc : s.consoles[j]? <;> simp [take, hc]
  | write path bytes => cases ht

theorem files_play {ts : List Turn} (hts : ∀ t ∈ ts, t.isDeed = true) :
    (s.play ts).1.files = s.files := by
  induction ts generalizing s with
  | nil => rfl
  | cons t ts ih =>
    rw [List.forall_mem_cons] at hts
    exact (ih hts.2).trans (files_take hts.1)

/-! ## All turns -/

/-- What was done with the console of this number, as it is done with these files. -/
def ownDeeds (k : Nat) (fs : Files) (ts : List Turn) : List Deed :=
  (ts.filterMap (Turn.deedOf? k)).map (Deed.on fs)

/-- Whether the files keep the texts that these events tell of, during all of the turns. -/
def Keeps (s : Session) (fs : Files) (ts : List Turn) (es : List Event) : Prop :=
  ∀ ts', ts' <+: ts → fs.AgreeOn (s.play ts').1.files es

theorem keeps_nil {fs : Files} {es : List Event} : s.Keeps fs [] es ↔ fs.AgreeOn s.files es := by
  simp [Keeps, play]

theorem keeps_cons {fs : Files} {t : Turn} {ts : List Turn} {es : List Event} :
    s.Keeps fs (t :: ts) es ↔ fs.AgreeOn s.files es ∧ (s.take t).1.Keeps fs ts es := by
  constructor
  · exact fun h => ⟨h [] List.nil_prefix, fun ts' hts' =>
      h (t :: ts') (List.cons_prefix_cons.2 ⟨rfl, hts'⟩)⟩
  · rintro ⟨hnow, hlater⟩ (_ | ⟨t', ts'⟩) hts'
    · exact hnow
    · obtain ⟨rfl, htail⟩ := List.cons_prefix_cons.1 hts'
      exact hlater ts' htail

instance decidableKeeps (fs : Files) (es : List Event) :
    (s : Session) → (ts : List Turn) → Decidable (s.Keeps fs ts es)
  | _, [] => decidable_of_iff _ keeps_nil.symm
  | s, t :: ts =>
    have := decidableKeeps fs es (s.take t).1 ts
    decidable_of_iff _ keeps_cons.symm

theorem Keeps.left {fs : Files} {ts : List Turn} {es es' : List Event}
    (h : s.Keeps fs ts (es ++ es')) : s.Keeps fs ts es := fun ts' hts' => (h ts' hts').left

theorem Keeps.right {fs : Files} {ts : List Turn} {es es' : List Event}
    (h : s.Keeps fs ts (es ++ es')) : s.Keeps fs ts es' := fun ts' hts' => (h ts' hts').right

/-- Whether the console of this number answers, and is left, as if nothing had been done but what
was done with it. -/
def AsAlone (s : Session) (k : Nat) (c : Console) (ts : List Turn) : Prop :=
  answersOf k (s.play ts).2 = c.answers (ownDeeds k s.files ts) ∧
    (s.play ts).1.consoles[k]? = some (c.after (ownDeeds k s.files ts))

/-- A console that comes to see only files which keep their texts answers, and is left, as if
nothing had been done but what was done with it. The files are compared with `fs` throughout, since
those of the session may change on the way. -/
theorem apart_of_keeps {fs : Files} {ts : List Turn} (hc : s.consoles[k]? = some c)
    (h : s.Keeps fs ts (Console.eventsOf (c.answers (ownDeeds k fs ts)))) :
    answersOf k (s.play ts).2 = c.answers (ownDeeds k fs ts) ∧
      (s.play ts).1.consoles[k]? = some (c.after (ownDeeds k fs ts)) := by
  induction ts generalizing s c with
  | nil => exact ⟨rfl, hc⟩
  | cons t ts ih =>
    cases ht : t.deedOf? k with
    | none =>
      obtain ⟨hcons, hans⟩ := take_other (s := s) ht
      have hown : ownDeeds k fs (t :: ts) = ownDeeds k fs ts := by simp [ownDeeds, ht]
      rw [hown] at h ⊢
      simpa [play, answersOf_append, hans] using ih (hcons.trans hc) (keeps_cons.1 h).2
    | some d =>
      have hown : ownDeeds k fs (t :: ts) = d.on fs :: ownDeeds k fs ts := by simp [ownDeeds, ht]
      rw [hown] at h ⊢
      have hnow : c.respond (d.on s.files) = c.respond (d.on fs) :=
        Console.respond_on (keeps_cons.1 h.left).1
      obtain ⟨hcons, hans⟩ := take_own ht hc
      rw [hnow, Console.console_respond] at hcons
      obtain ⟨ihans, ihcons⟩ := ih hcons (keeps_cons.1 h.right).2
      refine ⟨?_, ihcons⟩
      rw [play, answersOf_append, hans, hnow, ihans]
      rfl

/-- **Consoles know nothing of each other.** In a session with any consoles, let anything be done
with them, in any order, and let their loops take steps in between. Then each of them answers, is
left, and lets be seen just what it would if nothing had been done but what was done with it: if no
file is written, and also if those files that it would come to open keep their texts. -/
theorem consoles_apart (s : Session) (k : Nat) (c : Console) (hc : s.consoles[k]? = some c)
    (ts : List Turn) :
    ((∀ t ∈ ts, t.isDeed = true) → s.AsAlone k c ts) ∧
      (s.Keeps s.files ts (Console.eventsOf (c.answers (ownDeeds k s.files ts))) →
        s.AsAlone k c ts) := by
  refine ⟨fun hts => apart_of_keeps hc fun ts' hts' path _ => ?_, apart_of_keeps hc⟩
  rw [files_play fun t ht => hts t (hts'.subset ht)]

/-- Two shells, one with a gate and one with a text to read, and a command file that runs
another. -/
def pair : Session where
  files := { nodes := .ofList [
    (["a.txt"], .file (Text.Utf8.encode "exec filename=b.txt\nsetvar x=1\n".toList)),
    (["b.txt"], .file (Text.Utf8.encode "echo text=inner\n".toList))] }
  consoles := [⟨Shell.standard "> " true, .gate, []⟩,
    ⟨Shell.standard "" false, .ofText "echo text=[x]\nexit\nhelp\n".toList, []⟩]

/-- While the loop of the first shell runs the command files, the second shell sets the same
variable, a third file is written, and the second shell reads its text up to where that stops it. -/
theorem consoles_apart_pair :
    let fs : Files := ∅
    let ts : List Turn := [.deed 0 (.act fs (.start none)), .deed 1 (.act fs (.setVariable "x" "2")),
      .deed 0 (.act fs (.feed "exec filename=a.txt\n")), .write "c.txt" [],
      .deed 1 (.act fs (.start none)), .deed 0 (.act fs (.feed "echo text=[x]\n"))]
    (pair.play ts).1.files ≠ pair.files ∧
      Event.written (Console.eventsOf (answersOf 0 (pair.play ts).2)) =
        "> Executing file: a.txt\nExecuting file: b.txt\ninner\n> 1\n> " ∧
      Event.written (Console.eventsOf (answersOf 1 (pair.play ts).2)) = "2\n" ∧
      pair.AsAlone 0 ⟨Shell.standard "> " true, .gate, []⟩ ts ∧
      pair.AsAlone 1 ⟨Shell.standard "" false, .ofText "echo text=[x]\nexit\nhelp\n".toList, []⟩
        (ts.filter Turn.isDeed) := by
  intro fs ts
  refine ⟨by decide +kernel, by decide +kernel, by decide +kernel, ?_, ?_⟩
  · exact (consoles_apart pair 0 _ rfl ts).2 (by decide +kernel)
  · exact (consoles_apart pair 1 _ rfl (ts.filter Turn.isDeed)).1 (by decide)

end Session

end LineShell
