import LineShell.Console.Basic

/-!
# Sessions

Several consoles that see the same files. Each action goes to one of them and leaves the others
alone; only writing a file concerns them all.
-/

namespace LineShell

/-- Consoles that see the same files. -/
structure Session where
  files : Files
  consoles : List Console

namespace Session

/-- Does something with one of the consoles; `none` if there is no such console. -/
def perform (s : Session) (k : Nat) (a : Action) : Option (Answer × Session) :=
  match s.consoles[k]? with
  | none => none
  | some c =>
    let r := c.perform s.files a
    some (r, { s with consoles := s.consoles.set k r.console })

/-- Writes a file that all consoles see. If that fails, they see what becomes of
it. -/
def writeFile (s : Session) (path : String) (bytes : List UInt8) : Session :=
  { s with files := Files.left (s.files.write path bytes) }

/-- An action leaves the other consoles alone. -/
theorem getElem?_perform_of_ne {s s' : Session} {k j : Nat} {a : Action} {r : Answer}
    (h : s.perform k a = some (r, s')) (hj : j ≠ k) : s'.consoles[j]? = s.consoles[j]? := by
  unfold perform at h
  split at h
  · simp at h
  · cases h
    simp [List.getElem?_set_ne (Ne.symm hj)]

end Session

end LineShell
