import LineShell.Line.Basic

/-!
# Reading a line

One pass from left to right. `readValue` reads what may follow a parameter's name, `readParams`
the parameters, `parse` the whole line. The cursor of the result is found from what is left over,
so that no position has to be carried along.

## Termination

`readParams` reads a name, which is not empty, before it goes on: the rest gets shorter
(`length_of_readValue`).
-/

namespace LineShell.Line

/-- The text up to the first double quote, and what follows the quote. -/
def readQuoted : List Char → Option (List Char × List Char)
  | [] => none
  | '"' :: cs => some ([], cs)
  | c :: cs => (readQuoted cs).map fun (v, rest) => (c :: v, rest)

/-- Reads what may follow a name: nothing, or `=` and a value. Fails, with what is left, at a
quoted value that is not closed. -/
def readValue : List Char → Except (List Char) (List Char × List Char)
  | '=' :: '"' :: cs =>
    match readQuoted cs with
    | some r => .ok r
    | none => .error ('"' :: cs)
  | '=' :: cs => .ok (cs.takeWhile (!isSpacing ·), cs.dropWhile (!isSpacing ·))
  | cs => .ok (flagValue, cs)

/-- Where reading the parameters ended. -/
structure Ending where
  params : Params
  rest : List Char
  fault : Option Fault
deriving DecidableEq

theorem length_of_readQuoted {cs v rest : List Char} (h : readQuoted cs = some (v, rest)) :
    rest.length < cs.length := by
  induction cs generalizing v rest with
  | nil => simp [readQuoted] at h
  | cons c cs ih =>
    unfold readQuoted at h
    split at h
    · simp at *
    · simp_all
    · next heq =>
      simp only [List.cons.injEq] at heq
      obtain ⟨rfl, rfl⟩ := heq
      obtain ⟨⟨v', r'⟩, hr, he⟩ := Option.map_eq_some_iff.1 h
      simp only [Prod.mk.injEq] at he
      obtain ⟨_, rfl⟩ := he
      have := ih hr
      simp; omega

theorem length_dropWhile_le (p : Char → Bool) (cs : List Char) :
    (cs.dropWhile p).length ≤ cs.length :=
  (List.dropWhile_sublist p).length_le

/-- Reading a value leaves no more than there was. -/
theorem length_of_readValue {cs v rest : List Char} (h : readValue cs = .ok (v, rest)) :
    rest.length ≤ cs.length := by
  unfold readValue at h
  split at h
  · split at h
    · next r hr =>
      cases h
      have := length_of_readQuoted hr
      simp; omega
    · simp at h
  · next cs' _ =>
    cases h
    have := length_dropWhile_le (!isSpacing ·) cs'
    simp; omega
  · cases h; exact Nat.le_refl _

/-- Reads parameters up to the end of the line or the first fault. -/
def readParams (acc : Params) (cs : List Char) : Ending :=
  if cs.isEmpty then ⟨acc, [], none⟩
  else
    let name := cs.takeWhile isNameChar
    if _hn : name = [] then ⟨acc, cs, some .noName⟩
    else
      match _hv : readValue (cs.dropWhile isNameChar) with
      | .error rest => ⟨acc, rest, some .unterminated⟩
      | .ok (value, []) => ⟨acc.insert (String.ofList name) (String.ofList value), [], none⟩
      | .ok (value, c :: rest) =>
        if isSpacing c then
          readParams (acc.insert (String.ofList name) (String.ofList value))
            (rest.dropWhile isSpacing)
        else ⟨acc, c :: rest, some (.unseparated (.parameter (String.ofList name)) c)⟩
termination_by cs.length
decreasing_by
  have h1 := length_of_readValue _hv
  have h2 := length_dropWhile_le isSpacing rest
  have h3 : (cs.takeWhile isNameChar).length + (cs.dropWhile isNameChar).length = cs.length := by
    rw [← List.length_append, List.takeWhile_append_dropWhile]
  have h4 : 0 < (cs.takeWhile isNameChar).length := List.length_pos_iff.2 _hn
  simp only [List.length_cons] at h1
  omega

/-- Reads a line. -/
def parse (line : String) : Parsed :=
  let cs := line.toList
  let name := cs.takeWhile isNameChar
  let rest := cs.dropWhile isNameChar
  if name.isEmpty then ⟨none, ∅, 0, some .noCommand⟩
  else
    match rest with
    | [] => ⟨some (String.ofList name), ∅, cs.length, none⟩
    | c :: rest' =>
      if isSpacing c then
        let e := readParams ∅ (rest'.dropWhile isSpacing)
        ⟨some (String.ofList name), e.params, cs.length - e.rest.length, e.fault⟩
      else ⟨some (String.ofList name), ∅, name.length, some (.unseparated .command c)⟩

end LineShell.Line
