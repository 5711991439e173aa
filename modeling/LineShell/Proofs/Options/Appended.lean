import LineShell.Options.Parser

/-!
# An option at the end of the command line

A command line that ends with the name of an option and a text can be read only if that option
takes that text, whatever stands before (`parse_append`): an option before it cannot take a name for
its own text, and behind two dashes the name would be left over. The text must not look like an
option itself.

What is left over is never taken back (`leftOver_consume`). So nothing is left over at any point of
a reading that succeeds, and the induction goes along the arguments in front of the last two.
-/

namespace LineShell.Options

variable {acc acc' : Consumed} {marks : List (String × Mark)} {args : List String}
  {name text : String} {n : Named} {m : Mark} {opts : Options}

/-! ## Consuming -/

/-- Taking note of options changes nothing but these. -/
theorem exists_of_set {k : Cluster} {operand : Option String}
    (h : (k.set operand acc.options).map (fun opts => { acc with options := opts }) = .ok acc') :
    ∃ opts, k.set operand acc.options = .ok opts ∧ acc' = { acc with options := opts } := by
  cases hs : k.set operand acc.options with
  | error s =>
    rw [hs] at h
    cases h
  | ok opts =>
    rw [hs] at h
    exact ⟨opts, rfl, (Except.ok.inj h).symm⟩

/-- Taking note of options leaves nothing over. -/
theorem leftOver_of_set {k : Cluster} {operand : Option String}
    (h : (k.set operand acc.options).map (fun opts => { acc with options := opts }) = .ok acc') :
    acc'.leftOver = acc.leftOver := by
  obtain ⟨opts, -, rfl⟩ := exists_of_set h
  rfl

/-- Nothing was left over before, if nothing is in the end. -/
theorem leftOver_consume (h : consume acc marks = .ok acc') (hl : acc'.leftOver = []) :
    acc.leftOver = [] := by
  fun_induction consume acc marks with
  | case1 acc =>
    obtain rfl := Except.ok.inj h
    exact hl
  | case2 | case3 | case5 | case7 | case8 => cases h
  | case4 _ _ _ _ _ _ _ _ _ _ hgo ih =>
    rw [← leftOver_of_set hgo]
    exact ih h
  | case6 _ _ _ _ _ _ _ _ _ _ _ hgo ih =>
    rw [← leftOver_of_set hgo]
    exact ih h
  | case9 _ _ _ _ _ _ _ _ _ _ hgo ih =>
    rw [← leftOver_of_set hgo]
    exact ih h
  | case10 _ _ _ _ _ ih =>
    exact absurd (List.append_eq_nil_iff.1 (ih h)).2 (List.cons_ne_nil _ _)

/-- Two dashes are left over. -/
theorem ne_separator_of_consume (h : consume acc marks = .ok acc') (hl : acc'.leftOver = []) :
    ∀ x ∈ marks, x.2 ≠ .separator := by
  fun_induction consume acc marks with
  | case1 => exact fun x hx => absurd hx List.not_mem_nil
  | case2 | case3 | case5 | case7 | case8 => cases h
  | case4 _ _ _ _ _ _ _ _ _ _ _ ih =>
    exact List.forall_mem_cons.2 ⟨Mark.noConfusion, ih h⟩
  | case6 _ _ _ _ _ _ _ _ _ _ _ _ ih =>
    exact List.forall_mem_cons.2 ⟨Mark.noConfusion,
      List.forall_mem_cons.2 ⟨Mark.noConfusion, ih h⟩⟩
  | case9 _ _ _ _ _ _ _ _ _ _ _ ih =>
    exact List.forall_mem_cons.2 ⟨Mark.noConfusion, ih h⟩
  | case10 =>
    exact absurd (List.append_eq_nil_iff.1 (leftOver_consume h hl)).2 (List.cons_ne_nil _ _)

/-- If an option and a text come last, the option takes the text. -/
theorem consume_last {o : Opt} (hn : n.cluster = .ok ⟨[], o, none⟩) (ho : o.takesOperand = true)
    (h : consume acc marks = .ok acc') (hl : acc'.leftOver = []) (front : List (String × Mark))
    (hm : marks = front ++ [(name, .option n), (text, m)]) :
    m = .plain ∧ ∃ before, setOperand o (.ofString text) before = .ok acc'.options := by
  revert front
  fun_induction consume acc marks with
  | case1 => exact fun front hm => absurd hm (by simp)
  | case2 | case3 | case5 | case7 | case8 => cases h
  | case4 acc a n' rest k hk go t hat acc₁ hgo ih =>
    intro front hm
    -- the option comes with no text attached
    cases front with
    | nil =>
      obtain ⟨⟨⟩, rfl⟩ := List.cons.inj hm
      obtain rfl := Except.ok.inj (hn.symm.trans hk)
      cases hat
    | cons x front => exact ih h front (List.cons.inj hm).2
  | case6 acc a n' k hk go hat hop arg rest acc₁ hgo ih =>
    intro front hm
    cases front with
    | nil =>
      obtain ⟨⟨⟩, hrest⟩ := List.cons.inj hm
      obtain ⟨⟨⟩, rfl⟩ := List.cons.inj hrest
      obtain rfl := Except.ok.inj (hn.symm.trans hk)
      obtain ⟨opts, hset, rfl⟩ := exists_of_set hgo
      obtain rfl := Except.ok.inj h
      exact ⟨rfl, acc.options, hset⟩
    | cons x front =>
      -- a name is never taken as a text by the option before it
      cases front with
      | nil =>
        obtain ⟨⟨⟩, _⟩ := List.cons.inj (List.cons.inj hm).2
      | cons y front => exact ih h front (List.cons.inj (List.cons.inj hm).2).2
  | case9 acc a n' rest k hk go hat hop acc₁ hgo ih =>
    intro front hm
    cases front with
    | nil =>
      obtain ⟨⟨⟩, rfl⟩ := List.cons.inj hm
      obtain rfl := Except.ok.inj (hn.symm.trans hk)
      exact absurd ho hop
    | cons x front => exact ih h front (List.cons.inj hm).2
  | case10 acc a mark rest hno ih =>
    exact absurd (List.append_eq_nil_iff.1 (leftOver_consume h hl)).2 (List.cons_ne_nil _ _)

/-! ## Reading -/

/-- The name of an option, in full. -/
theorem classify_name {o : Opt} (h : name ∈ o.spec.names) :
    classify name = .ok (.option ⟨o, isLong name, none⟩) := by
  have hall : ∀ p ∈ Opt.named, p.1.toList.head? = some '-' := by decide
  have hdash : name.toList.head? = some '-' :=
    hall (name, o) (List.mem_flatMap.2 ⟨o, Opt.mem_all o, List.mem_map.2 ⟨name, h, rfl⟩⟩)
  have hfull : inFull? name = some ⟨o, isLong name, none⟩ := by
    rw [inFull?, Opt.ofName?_of_mem h]
    rfl
  unfold classify
  dsimp only
  rw [if_neg (fun hne => hne hdash), hfull]

/-- The last arguments are looked at by themselves, unless they stand behind two dashes. -/
theorem classifyAll_append {rest : List String} (h : classifyAll (args ++ rest) = .ok marks) :
    (∃ front more, classifyAll rest = .ok more ∧ marks = front ++ more) ∨
      ∃ x ∈ marks, x.2 = .separator := by
  induction args generalizing marks with
  | nil => exact .inl ⟨[], marks, h, rfl⟩
  | cons arg args ih =>
    rw [List.cons_append, classifyAll] at h
    split at h
    · obtain rfl := Except.ok.inj h
      exact .inr ⟨_, List.mem_cons_self, rfl⟩
    · split at h
      · cases h
      · next mark _ =>
        cases hr : classifyAll (args ++ rest) with
        | error f =>
          rw [hr] at h
          cases h
        | ok ms =>
          rw [hr] at h
          obtain rfl := Except.ok.inj h
          rcases ih hr with ⟨front, more, hmore, rfl⟩ | ⟨x, hx, hs⟩
          · exact .inl ⟨(arg, mark) :: front, more, hmore, rfl⟩
          · exact .inr ⟨x, List.mem_cons_of_mem _ hx, hs⟩

/-- Two dashes are not the name of an option. -/
theorem ne_dashes_of_name {o : Opt} (h : name ∈ o.spec.names) : name ≠ "--" := by
  have hall : ∀ p ∈ Opt.named, p.1 ≠ "--" := by decide
  exact hall (name, o) (List.mem_flatMap.2 ⟨o, Opt.mem_all o, List.mem_map.2 ⟨name, h, rfl⟩⟩)

/-- What the marks of an option and a text are, if the text is plain. -/
theorem classifyAll_pair (hname : name ≠ "--") (hn : classify name = .ok (.option n))
    (h : classifyAll [name, text] = .ok marks) :
    ∃ m, marks = [(name, .option n), (text, m)] ∧
      (m = .plain → text ≠ "--" ∧ classify text = .ok .plain) := by
  rw [classifyAll, if_neg hname, hn] at h
  simp only [classifyAll] at h
  split at h
  · obtain rfl := Except.ok.inj h
    exact ⟨.separator, rfl, Mark.noConfusion⟩
  · next htext =>
    cases hc : classify text with
    | error f =>
      rw [hc] at h
      cases h
    | ok m =>
      rw [hc] at h
      obtain rfl := Except.ok.inj h
      exact ⟨m, rfl, fun hm => ⟨htext, by rw [hm]⟩⟩

/-- **An option at the end of a command line takes the text behind it.** -/
theorem parse_append {o : Opt} (hname : name ∈ o.spec.names) (ho : o.takesOperand = true)
    (h : parse (args ++ [name, text]) = .ok opts) :
    text ≠ "--" ∧ classify text = .ok .plain ∧
      ∃ before, setOperand o (.text text) before = .ok opts := by
  unfold parse at h
  cases hall : classifyAll (args ++ [name, text]) with
  | error f =>
    rw [hall] at h
    cases h
  | ok marks =>
    rw [hall] at h
    dsimp only at h
    split at h
    · cases h
    · next final hcons =>
      obtain rfl := Except.ok.inj h
      rcases classifyAll_append hall with ⟨front, more, hmore, hm⟩ | ⟨x, hx, hs⟩
      · obtain ⟨m, rfl, hplain⟩ :=
          classifyAll_pair (ne_dashes_of_name hname) (classify_name hname) hmore
        obtain ⟨rfl, before, hset⟩ := consume_last rfl ho hcons rfl front hm
        obtain ⟨htext, hclass⟩ := hplain rfl
        rw [Operand.ofString, if_neg htext] at hset
        exact ⟨htext, hclass, before, hset⟩
      · exact absurd hs (ne_separator_of_consume hcons rfl x hx)
    · cases h

/-- A text that one option takes at the end of a command line can be given to another alone. -/
theorem parse_pair {o : Opt} (hname : name ∈ o.spec.names) (ho : o.takesOperand = true)
    (htext : text ≠ "--") (hplain : classify text = .ok .plain) :
    parse [name, text] = setOperand o (.text text) {} := by
  have hmarks : classifyAll [name, text] =
      .ok [(name, .option ⟨o, isLong name, none⟩), (text, .plain)] := by
    simp only [classifyAll, if_neg (ne_dashes_of_name hname), classify_name hname, if_neg htext,
      hplain, Except.map]
  have hset : (Cluster.mk [] o none).set (some text) {} = setOperand o (.text text) {} := by
    simp only [Cluster.set, setFlags, Except.bind, Operand.ofString, if_neg htext]
  unfold parse
  simp only [hmarks, consume, Named.cluster, ho, if_true, hset]
  cases setOperand o (.text text) {} with
  | error s => rfl
  | ok opts => rfl

end LineShell.Options
