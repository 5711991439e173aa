import LineShell.Console.Input
import LineShell.Shell.Exec

/-!
# The loop that reads lines

A loop looks whether its shell is still running, shows the prompt, reads a line and runs it, and
begins again. It is a machine (`Phase`) that moves one step at a time (`Loop.step`), so that other
things can happen between its steps; `Loop.run` takes all the steps that can be taken.

## What ends a loop

* the shell is not running when the loop looks
* the input has ended, or cannot be read: the latter is logged if it is a matter of reading
* anything else that goes wrong, when a line is read or run: the failure stays with the loop

However it ends, the shell is not running afterwards. To say so is a step of its own
(`Phase.ending`).

## Termination

`Loop.measure` falls with every step (`measure_step`): each line that is read is pending no longer.
-/

namespace LineShell

/-- Where a loop is. -/
inductive Phase where
  | checking
  | reading
  | executing (line : String)
  /-- Nothing more is read; the shell has still to be told. -/
  | ending (failure : Option Failure)
  | ended (failure : Option Failure)
deriving DecidableEq, Repr

namespace Phase

/-- Whether a loop in this phase can still do something. -/
def isAlive : Phase → Bool
  | ended _ => false
  | _ => true

/-- How many steps are left in one round. -/
def rank : Phase → Nat
  | executing _ => 4
  | checking => 3
  | reading => 2
  | ending _ => 1
  | ended _ => 0

end Phase

/-- A loop together with what it works on, and what was seen in its last steps. -/
structure Loop where
  phase : Phase
  shell : Shell
  input : Input
  events : List Event := []

namespace Loop

/-- Puts earlier events in front. -/
def after (es : List Event) (l : Loop) : Loop := { l with events := es ++ l.events }

/-- Ends a loop: the shell runs no longer. -/
def finish (failure : Option Failure) (s : Shell) (i : Input) (es : List Event) : Loop :=
  ⟨.ended failure, { s with running := false }, i,
    es ++ [Shell.record .debug "Input loop stopped"]⟩

/-- What is shown before a line is read. -/
def promptEvents (s : Shell) : List Event := if s.prompt = "" then [] else [.output s.prompt]

/-- One step: `none` when the loop has to wait for a line, or has ended. -/
def step (exec : String → Shell → Outcome Bool) (l : Loop) : Option Loop :=
  let s := l.shell
  match l.phase with
  | .checking =>
    if s.running then some ⟨.reading, s, l.input, promptEvents s⟩
    else some ⟨.ending none, s, l.input, []⟩
  | .reading =>
    let (next, input) := l.input.next
    match next with
    | .line text => some ⟨.executing (String.ofList (Text.dropLineEnd text)), s, input, []⟩
    | .ended => some ⟨.ending none, s, input, [Shell.record .debug "End of input"]⟩
    | .failed f =>
      if f.endsInput then
        some ⟨.ending none, s, input,
          [Shell.record .error s!"An error occurred while reading input: {f.message}"]⟩
      else some ⟨.ending (some f), s, input, []⟩
    | .waiting => none
  | .executing line =>
    let o := exec line s
    match o.result with
    | .ok _ => some ⟨.checking, o.shell, l.input, o.events⟩
    | .error f => some ⟨.ending (some f), o.shell, l.input, o.events⟩
  | .ending f => some (finish f s l.input [])
  | .ended _ => none

/-- What is left to do. -/
def measure (l : Loop) : Nat := 4 * l.input.pending.length + l.phase.rank

/-- Every step leaves less to do. -/
theorem measure_step {exec : String → Shell → Outcome Bool} {l l' : Loop}
    (h : l.step exec = some l') : l'.measure < l.measure := by
  unfold step at h
  cases hp : l.phase with
  | checking =>
    simp only [hp] at h
    split at h <;> cases h <;> simp [measure, hp, Phase.rank]
  | reading =>
    have hle := l.input.length_next_le
    simp only [hp] at h
    split at h
    · next text hn =>
      have := Input.length_next_of_line hn
      cases h; simp [measure, hp, Phase.rank]; omega
    · cases h; simp [measure, hp, Phase.rank]; omega
    · split at h <;> cases h <;> simp [measure, hp, Phase.rank] <;> omega
    · simp at h
  | executing line =>
    simp only [hp] at h
    split at h <;> cases h <;> simp [measure, hp, Phase.rank]
  | ending f =>
    simp only [hp] at h
    cases h
    simp [measure, hp, finish, Phase.rank]
  | ended f => simp [hp] at h

/-- Takes all the steps that can be taken. -/
def run (exec : String → Shell → Outcome Bool) (l : Loop) : Loop :=
  match _h : l.step exec with
  | none => { l with events := [] }
  | some l' => (run exec l').after l'.events
termination_by l.measure
decreasing_by exact measure_step _h

/-- A loop that has not begun, and the record of its beginning. -/
def start (s : Shell) (i : Input) : Loop :=
  ⟨.checking, s, i, [Shell.record .debug "Input loop started"]⟩

/-- A whole run, from the first look at the shell. -/
def runAll (exec : String → Shell → Outcome Bool) (s : Shell) (i : Input) : Loop :=
  ((start s i).run exec).after (start s i).events

end Loop

end LineShell
