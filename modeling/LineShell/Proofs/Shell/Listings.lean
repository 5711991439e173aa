import LineShell.Proofs.Shell.Assignments
import LineShell.Proofs.Shell.Changes
import Mathlib.Data.List.Induction
import Mathlib.Data.String.Basic

/-!
# What the listings show

`help` lists the commands and `printvar` the variables of a shell. Whatever was registered and
assigned before, from outside or by lines, a listing has one entry for each name, in the order of
their code points, and the entry tells what was put under the name last; and `printvar` with names
has one entry for each of them, in the order in which they are first written
(`Shell.listings_of_history`). A listing changes nothing.

## How the proof goes

What a shell holds is its history, written over nothing (`Shell.recorded_history`). Since no name
occurs twice in a map, its names sorted are strictly increasing (`pairwise_sortNames`), and a map
made of pairs has its names in the order of their first occurrence (`Assoc.keys_ofList`). The
commands are then run once for any shell (`Builtin.run_help`, `Builtin.run_printvar`).
-/

namespace LineShell

variable {fs : Files} {call : Call → Shell → Outcome Bool} {s : Shell}

/-! ## Names -/

/-- Names that are all different are strictly increasing once they are sorted. -/
theorem pairwise_sortNames {names : List String} (h : names.Nodup) :
    (sortNames names).Pairwise (· < ·) := by
  have htrans (a b c : String) (hab : decide (a ≤ b) = true) (hbc : decide (b ≤ c) = true) :
      decide (a ≤ c) = true :=
    decide_eq_true (le_trans (of_decide_eq_true hab) (of_decide_eq_true hbc))
  have htotal (a b : String) : (decide (a ≤ b) || decide (b ≤ a)) = true := by
    simpa using le_total a b
  have hsorted := List.pairwise_mergeSort htrans htotal names
  have hnodup : (sortNames names).Nodup := (List.mergeSort_perm names _).nodup_iff.2 h
  refine (hsorted.and hnodup).imp fun hab => ?_
  exact lt_of_le_of_ne (of_decide_eq_true hab.1) hab.2

/-- The names of a map that is made of pairs, in the order of their first occurrence. -/
theorem Assoc.keys_ofList {κ α : Type} [DecidableEq κ] (l : List (κ × α)) :
    (ofList l).keys = (l.map Prod.fst).eraseDups := by
  induction l using List.reverseRecOn with
  | nil => rfl
  | append_singleton l p ih =>
    rw [ofList, insertAll_append, insertAll_cons, insertAll_nil, keys_insert, ← ofList, ih,
      List.map_append, List.eraseDups_append, List.map_singleton]
    by_cases hp : p.1 ∈ l.map Prod.fst
    · have hknown : [p.1].removeAll (l.map Prod.fst) = [] := by simpa [List.removeAll] using hp
      rw [if_pos (List.mem_eraseDups.2 hp), hknown, List.eraseDups_nil, List.append_nil]
    · have hnew : [p.1].removeAll (l.map Prod.fst) = [p.1] := by simpa [List.removeAll] using hp
      rw [if_neg (mt List.mem_eraseDups.1 hp), hnew]
      rfl

/-- What was put under a name last. -/
def lastOf {α : Type} (name : String) (l : List (String × α)) : Option α :=
  Assoc.find? name l.reverse

theorem get?_ofList {α : Type} (l : List (String × α)) (name : String) :
    (Assoc.ofList l).get? name = lastOf name l := by
  rw [Assoc.ofList, Assoc.get?_insertAll]
  exact Option.or_none

/-! ## Listings -/

/-- What is seen of a listing: a heading, an entry for each name, and a dot. -/
def listing (heading : String) (entry : String → String) (names : List String) : List Event :=
  .output heading :: names.map (fun n => .output (entry n)) ++ [.output ".\n"]

namespace Program

/-- Texts are written one after the other, and nothing else happens. -/
theorem run_writeAll (fs : Files) (call : Call → Shell → Outcome Bool) (texts : List String)
    (s : Shell) : (writeAll texts .done).run fs call s = ⟨.ok (), s, texts.map .output⟩ := by
  induction texts with
  | nil => rfl
  | cons text texts ih => exact congrArg (Outcome.after [.output text]) ih

/-- Writing the texts of a listing shows the listing. -/
theorem run_listing (fs : Files) (call : Call → Shell → Outcome Bool) (heading : String)
    (entry : String → String) (names : List String) (s : Shell) :
    (writeAll (heading :: names.map entry ++ [".\n"]) .done).run fs call s =
      ⟨.ok (), s, listing heading entry names⟩ := by
  rw [run_writeAll, List.map_append, List.map_cons, List.map_map]
  rfl

end Program

namespace Builtin

/-- The entry of a command: its name, and its help text if there is any. -/
def commandEntry (help : String) (n : String) : String :=
  if help = "" then s!"\t-{n}\n" else s!"\t-{n} - {help}\n"

/-- The entry of a variable: its name, and its value if it has one. -/
def variableEntry (value : Option String) (n : String) : String :=
  "\t" ++ n ++ ": " ++ value.getD "None" ++ "\n"

theorem helpLines_eq (texts : Assoc String String) :
    helpLines texts = "Commands:\n" ::
      (sortNames texts.keys).map (fun n => commandEntry ((texts.get? n).getD "") n) ++ [".\n"] := by
  refine congrArg (fun entries => "Commands:\n" :: entries ++ [".\n"]) ?_
  refine List.map_congr_left fun n _ => ?_
  cases texts.get? n with
  | none => rfl
  | some t =>
    by_cases ht : t = ""
    · rw [ht]
      rfl
    · rw [commandEntry, Option.getD_some, if_neg ht]
      split
      · next h => cases h
      · next h => exact absurd (Option.some.inj h) ht
      · next h => rw [Option.some.inj h]

/-- Listing the commands shows what is registered, and changes nothing. -/
theorem run_help (params : Params) (s : Shell) :
    (help.body params).run fs call s = ⟨.ok (), s, listing "Commands:\n"
      (fun n => commandEntry (((s.commands.get? n).map Handler.help).getD "") n)
      (sortNames s.commands.keys)⟩ := by
  have hrun : (help.body params).run fs call s =
      (Program.writeAll (helpLines s.helpTexts) .done).run fs call s := rfl
  rw [hrun, helpLines_eq, Program.run_listing, Shell.helpTexts, Assoc.keys_mapValues]
  simp only [Assoc.get?_mapValues]

/-- Listing variables shows what they hold, and changes nothing. -/
theorem run_printvar (params : Params) (s : Shell) :
    (printvar.body params).run fs call s = ⟨.ok (), s, listing "Variables:\n"
      (fun n => variableEntry (s.vars.get? n) n)
      (if params.keys.isEmpty then sortNames s.vars.keys else params.keys)⟩ :=
  Program.run_listing fs call "Variables:\n" (fun n => variableEntry (s.vars.get? n) n) _ s

end Builtin

/-! ## After any history -/

namespace Shell

/-- A line of the grammar with this command. -/
theorem exec_listing {line : String} {l : Line.Layout} {b : Builtin} {es : List Event}
    (hl : l.chars = line.toList)
    (hget : s.commands.get? (String.ofList l.name.val) = some b.handler)
    (hrun : (b.body (s.substitute (Assoc.ofList l.pairs))).run fs (callAt fs (maxDepth - 1)) s =
      ⟨.ok (), s, es⟩) :
    s.exec fs line = ⟨.ok true, s,
      .called (String.ofList l.name.val) (s.substitute (Assoc.ofList l.pairs)) :: es⟩ := by
  rw [exec_of_known l hl hget, Builtin.handler, hrun]
  rfl

/-- **After any history, the listings are complete.** `help` has one entry for each name that was
registered, and `printvar` without names one for each variable that was given a value, in strictly
increasing order; with names, it has one for each of them, in the order in which they are first
written. An entry tells what was put under the name last. A listing leaves the shell as it is. -/
theorem listings_of_history (s₀ : Shell) (rs : List Request) (fs : Files) :
    let new := { s₀ with commands := ∅, vars := ∅ }
    let s := new.serveAll rs
    let registered := Change.registrations (new.history rs)
    let assigned := Change.assignments (new.history rs)
    ∀ (line : String) (l : Line.Layout), l.chars = line.toList →
      let name := String.ofList l.name.val
      let call := Event.called name (s.substitute (Assoc.ofList l.pairs))
      (s.commands.get? name = some Builtin.help.handler →
        ∃ names : List String, names.Pairwise (· < ·) ∧
          (∀ n, n ∈ names ↔ n ∈ registered.map Prod.fst) ∧
          s.exec fs line = ⟨.ok true, s, call :: listing "Commands:\n"
            (fun n => Builtin.commandEntry (((lastOf n registered).map Handler.help).getD "") n)
            names⟩) ∧
      (s.commands.get? name = some Builtin.printvar.handler →
        (l.params = [] → ∃ names : List String, names.Pairwise (· < ·) ∧
          (∀ n, n ∈ names ↔ n ∈ assigned.map Prod.fst) ∧
          s.exec fs line = ⟨.ok true, s, call :: listing "Variables:\n"
            (fun n => Builtin.variableEntry (lastOf n assigned) n) names⟩) ∧
        (l.params ≠ [] → s.exec fs line = ⟨.ok true, s, call :: listing "Variables:\n"
          (fun n => Builtin.variableEntry (lastOf n assigned) n)
          (l.pairs.map Prod.fst).eraseDups⟩)) := by
  intro new s registered assigned line l hl name call
  obtain ⟨hvars, hcommands⟩ := recorded_history new rs
  have hlastVar (n : String) : s.vars.get? n = lastOf n assigned := by
    rw [← get?_ofList]
    exact congrArg (Assoc.get? · n) hvars
  have hlastCommand (n : String) : s.commands.get? n = lastOf n registered := by
    rw [← get?_ofList]
    exact congrArg (Assoc.get? · n) hcommands
  have hkeys : (s.substitute (Assoc.ofList l.pairs)).keys = (l.pairs.map Prod.fst).eraseDups := by
    rw [substitute, Assoc.keys_mapValues, Assoc.keys_ofList]
  refine ⟨fun hget => ?_, fun hget => ⟨fun hparams => ?_, fun hparams => ?_⟩⟩
  · refine ⟨sortNames s.commands.keys, pairwise_sortNames s.commands.nodup_keys, fun n => ?_, ?_⟩
    · rw [mem_sortNames, hcommands]
      exact Assoc.mem_keys_ofList
    · rw [exec_listing hl hget (Builtin.run_help _ s)]
      simp only [hlastCommand]
      rfl
  · refine ⟨sortNames s.vars.keys, pairwise_sortNames s.vars.nodup_keys, fun n => ?_, ?_⟩
    · rw [mem_sortNames, hvars]
      exact Assoc.mem_keys_ofList
    · have hnone : (l.pairs.map Prod.fst).eraseDups.isEmpty = true := by
        rw [Line.Layout.pairs, hparams]
        rfl
      rw [exec_listing hl hget (Builtin.run_printvar _ s), hkeys, if_pos hnone]
      simp only [hlastVar]
      rfl
  · have hsome : ¬ (l.pairs.map Prod.fst).eraseDups.isEmpty = true := by
      obtain ⟨p, ps, hp⟩ := List.exists_cons_of_ne_nil hparams
      rw [Line.Layout.pairs, hp, List.map_cons, List.map_cons, List.eraseDups_cons]
      exact Bool.false_ne_true
    rw [exec_listing hl hget (Builtin.run_printvar _ s), hkeys, if_neg hsome]
    simp only [hlastVar]
    rfl

/-- Built-in commands, one that is registered twice, and values from outside and from a line. -/
def shortHistory : List Request :=
  Builtin.all.map (fun b => .register b.name (some b.handler)) ++
    [.register "zap" (some .greet), .setVariable "z" "1", .register "ghost" none,
      .exec ∅ "setvar a=[z]3 z=[z]", .register "zap" (some (.recorder .object "hi" ""))]

theorem listings_of_shortHistory :
    let s := ({} : Shell).serveAll shortHistory
    let assigned := Change.assignments (({} : Shell).history shortHistory)
    assigned = [("z", "1"), ("a", "[z]3"), ("z", "1")] ∧
    (∃ names : List String, names.Pairwise (· < ·) ∧ ∃ entry,
      s.exec ∅ "help" = ⟨.ok true, s, .called "help" ∅ ::
        listing "Commands:\n" entry names⟩) ∧
    ∃ args, s.exec ∅ "printvar z q z" = ⟨.ok true, s, .called "printvar" args ::
      listing "Variables:\n" (fun n => Builtin.variableEntry (lastOf n assigned) n)
        ["z", "q"]⟩ := by
  intro s assigned
  have hhelp : s.commands.get? "help" = some Builtin.help.handler := by with_unfolding_all rfl
  have hprintvar : s.commands.get? "printvar" = some Builtin.printvar.handler := by
    with_unfolding_all rfl
  refine ⟨by decide +kernel, ?_, ?_⟩
  · obtain ⟨hlist, -⟩ := listings_of_history {} shortHistory ∅ "help"
      (.spaced ⟨"help".toList, by decide⟩ []) rfl
    obtain ⟨names, hsorted, -, hexec⟩ := hlist hhelp
    exact ⟨names, hsorted, _, hexec⟩
  · have hz : Line.isName ['z'] = true := by decide
    obtain ⟨-, hlist⟩ := listings_of_history {} shortHistory ∅ "printvar z q z"
      (.spaced ⟨"printvar".toList, by decide⟩
        [.flag ⟨['z'], hz⟩, .flag ⟨['q'], by decide⟩, .flag ⟨['z'], hz⟩]) rfl
    exact ⟨_, (hlist hprintvar).2 nofun⟩

end Shell

end LineShell
