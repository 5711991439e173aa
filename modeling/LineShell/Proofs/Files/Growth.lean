import LineShell.Files.Tree

/-!
# Files only grow

Making directories and writing files takes nothing away: what stood at a place still stands there,
and a file is still a file, whatever its content is now (`Grows`). So a path that could be followed
before leads to the same place afterwards, and a file that was written is read back as it was
written, if it may be read (`readBytes_write`). At all other places, neither changes anything that
is there (`Extends`, `node?_write`), also when it breaks off on the way (`left`). And what files
hold counts only for those who read it: paths lead to the same places whatever it is, and can be
written or not (`SameShape`).
-/

namespace LineShell

/-- What stands at a place, whatever the content of a file is. -/
def Node.bare : Node → Node
  | .file _ => .file []
  | n => n

namespace Files

variable {fs fs' fs'' : Files} {path : String} {place : List String} {n : Node}
  {bytes : List UInt8}

/-- Nothing has gone: where something stood there stands something of its kind. -/
structure Grows (fs fs' : Files) : Prop where
  cwd : fs'.cwd = fs.cwd
  home : fs'.home = fs.home
  denials : fs'.denials = fs.denials
  node : ∀ {place n}, fs.node? place = some n → (fs'.node? place).map Node.bare = some n.bare

theorem Grows.refl (fs : Files) : Grows fs fs :=
  ⟨rfl, rfl, rfl, fun h => by rw [h]; rfl⟩

theorem Grows.trans (h : Grows fs fs') (h' : Grows fs' fs'') : Grows fs fs'' := by
  refine ⟨h'.cwd.trans h.cwd, h'.home.trans h.home, h'.denials.trans h.denials, fun hn => ?_⟩
  obtain ⟨m, hm, hb⟩ := Option.map_eq_some_iff.1 (h.node hn)
  rw [h'.node hm, hb]

/-! ## Following paths -/

theorem Grows.dir (h : Grows fs fs') (hn : fs.node? place = some .dir) :
    fs'.node? place = some .dir := by
  obtain ⟨m, hm, hb⟩ := Option.map_eq_some_iff.1 (h.node hn)
  cases m with
  | dir => exact hm
  | file | sink => cases hb

/-- What the system denies decides where a step leads. -/
theorem stepFrom_of_denials (h : fs'.denials = fs.denials) (place : List String) (s : List Char) :
    fs'.stepFrom place s = fs.stepFrom place s := by
  rw [stepFrom, stepFrom, h]

/-- Steps that could be followed lead to the same place. -/
theorem Grows.follow (h : Grows fs fs') {steps : List (List Char)} {last : List String}
    (hf : fs.follow place steps = .ok last) : fs'.follow place steps = .ok last := by
  induction steps generalizing place with
  | nil => exact hf
  | cons s rest ih =>
    rw [Files.follow] at hf ⊢
    cases hn : fs.node? place with
    | none =>
      rw [hn] at hf
      cases hf
    | some n =>
      cases n with
      | file | sink =>
        rw [hn] at hf
        cases hf
      | dir =>
        rw [hn] at hf
        -- a directory on the way is still one, whatever it holds now
        rw [h.dir hn, stepFrom_of_denials h.denials]
        dsimp only at hf ⊢
        cases hs : fs.stepFrom place s with
        | error r =>
          rw [hs] at hf
          cases hf
        | ok next =>
          rw [hs] at hf
          exact ih hf

/-- A path that could be followed leads to the same place. -/
theorem Grows.locate (h : Grows fs fs') (hl : fs.locate path = .ok place) :
    fs'.locate path = .ok place := by
  have hstart : fs'.startOf path = fs.startOf path := by rw [startOf, startOf, h.cwd]
  unfold Files.locate locateSteps at hl ⊢
  split at hl
  · cases hl
  · rw [hstart]
    cases hf : fs.follow (fs.startOf path) (Path.cut path.toList) with
    | error r =>
      rw [hf] at hl
      cases hl
    | ok last =>
      rw [hf] at hl
      rw [h.follow hf]
      exact hl

/-- What stands at a path is what stands at the place it leads to. -/
theorem look_eq_ok_iff : fs.look path = .ok n ↔
    ∃ place, fs.locate path = .ok place ∧ fs.node? place = some n := by
  unfold look
  constructor
  · intro h
    split at h
    · cases h
    · next place hl =>
      split at h
      · next m hm =>
        obtain rfl := Except.ok.inj h
        exact ⟨place, hl, hm⟩
      · cases h
  · rintro ⟨place, hl, hn⟩
    rw [hl]
    simp only [hn]

/-- A file has bytes if it may be read; a device has none in it, and a directory is no file. -/
theorem readBytes_eq_ok_iff : fs.readBytes path = .ok bytes ↔
    ∃ place n, fs.locate path = .ok place ∧ fs.node? place = some n ∧
      fs.denials.read.get? place = none ∧ (n = .file bytes ∨ n = .sink ∧ bytes = []) := by
  unfold readBytes
  cases hl : fs.locate path with
  | error e => simp
  | ok place =>
    dsimp only
    cases hn : fs.node? place with
    | none => simp [hn]
    | some n =>
      cases hd : fs.denials.read.get? place with
      | some r => simp [hn, hd]
      | none => cases n <;> simp [hn, hd, eq_comm]

/-- Where a file stands, there is one. -/
theorem isFile_iff : fs.isFile path = .ok true ↔ ∃ bytes, fs.look path = .ok (.file bytes) := by
  unfold isFile test
  constructor
  · intro h
    split at h
    · next n hn =>
      cases n with
      | file bytes => exact ⟨bytes, hn⟩
      | dir | sink => cases h
    · split at h <;> cases h
  · rintro ⟨bytes, h⟩
    rw [h]

/-- What stands at a path cannot be known exactly if looking there fails, and not with an
absence. -/
theorem test_eq_error_iff {p : Node → Bool} {e : FileError} : fs.test p path = .error e ↔
    fs.look path = .error e ∧ e.isAbsence = false := by
  unfold test
  cases fs.look path with
  | ok n => simp
  | error e' =>
    dsimp only
    split
    · next ha =>
      refine iff_of_false nofun ?_
      rintro ⟨he, hno⟩
      rw [Except.error.inj he, hno] at ha
      cases ha
    · next ha =>
      constructor
      · intro he
        obtain rfl := Except.error.inj he
        exact ⟨rfl, Bool.eq_false_iff.2 ha⟩
      · rintro ⟨he, -⟩
        rw [Except.error.inj he]

/-- Where there was a file, there is one. -/
theorem Grows.isFile (h : Grows fs fs') (hf : fs.isFile path = .ok true) :
    fs'.isFile path = .ok true := by
  obtain ⟨bytes, hl⟩ := isFile_iff.1 hf
  obtain ⟨place, hl, hn⟩ := look_eq_ok_iff.1 hl
  obtain ⟨m, hm, hb⟩ := Option.map_eq_some_iff.1 (h.node hn)
  cases m with
  | file new => exact isFile_iff.2 ⟨new, look_eq_ok_iff.2 ⟨place, h.locate hl, hm⟩⟩
  | dir | sink => cases hb

/-- A file is present. -/
theorem present_of_isFile (h : fs.isFile path = .ok true) : fs.present path = .ok true := by
  obtain ⟨bytes, hl⟩ := isFile_iff.1 h
  unfold present test
  rw [hl]

/-! ## Writing -/

/-- What was put at a place stands there, and nothing else has changed. The root stays a
directory. -/
theorem node?_put (fs : Files) (place : List String) (n : Node) (q : List String) :
    (fs.put place n).node? q = if q = place ∧ q ≠ [] then some n else fs.node? q := by
  unfold node? put
  dsimp only
  rw [Assoc.get?_insert]
  cases q with
  | nil => simp
  | cons s q => simp

/-- Putting something of its kind in the place of what is there lets files grow. -/
theorem grows_put (h : ∀ m, fs.node? place = some m → m.bare = n.bare) :
    Grows fs (fs.put place n) := by
  refine ⟨rfl, rfl, rfl, fun {q m} hm => ?_⟩
  rw [node?_put]
  split
  · next hq =>
    rw [hq.1] at hm
    rw [Option.map_some, h m hm]
  · rw [hm]
    rfl

/-- Nothing has changed, but something may stand now where nothing stood. -/
structure Extends (fs fs' : Files) : Prop where
  cwd : fs'.cwd = fs.cwd
  home : fs'.home = fs.home
  denials : fs'.denials = fs.denials
  node : ∀ {place n}, fs.node? place = some n → fs'.node? place = some n

theorem Extends.refl (fs : Files) : Extends fs fs := ⟨rfl, rfl, rfl, id⟩

theorem Extends.trans (h : Extends fs fs') (h' : Extends fs' fs'') : Extends fs fs'' :=
  ⟨h'.cwd.trans h.cwd, h'.home.trans h.home, h'.denials.trans h.denials,
    fun hn => h'.node (h.node hn)⟩

theorem Extends.grows (h : Extends fs fs') : Grows fs fs' :=
  ⟨h.cwd, h.home, h.denials, fun hn => by rw [h.node hn, Option.map_some]⟩

theorem extends_makeDir (h : fs.makeDir path = .ok fs') : Extends fs fs' := by
  unfold makeDir at h
  split at h
  · cases h
  · split at h
    · cases h
    · next hfree =>
      split at h
      · cases h
      · obtain rfl := Except.ok.inj h
        refine ⟨rfl, rfl, rfl, fun {place n} hn => ?_⟩
        rw [node?_put, if_neg, hn]
        rintro ⟨rfl, -⟩
        cases hn.symm.trans hfree

theorem extends_ensureDir (h : fs.ensureDir path = .ok fs') : Extends fs fs' := by
  unfold ensureDir at h
  split at h
  · split at h
    · cases h
    · split at h
      · obtain rfl := Except.ok.inj h
        exact .refl fs
      · cases h
  · exact extends_makeDir h

theorem extends_ensureDirs (fs : Files) (root : String) (lastFirst : List String) :
    Extends fs (left (fs.ensureDirs root lastFirst)) := by
  induction lastFirst with
  | nil =>
    rw [ensureDirs]
    cases h : fs.ensureDir (Path.render ⟨root, []⟩) with
    | ok fs' => exact extends_ensureDir h
    | error e => exact .refl fs
  | cons s above ih =>
    rw [ensureDirs]
    cases h : fs.ensureDir (Path.render ⟨root, (s :: above).reverse⟩) with
    | ok fs' => exact extends_ensureDir h
    | error e =>
      dsimp only
      split
      · cases habove : fs.ensureDirs root above with
        | error u =>
          rw [habove] at ih
          exact ih
        | ok mid =>
          rw [habove] at ih
          dsimp only
          -- what was made above stays, whatever becomes of the last one
          cases hlast : mid.ensureDir (Path.render ⟨root, (s :: above).reverse⟩) with
          | ok fs' => exact ih.trans (extends_ensureDir hlast)
          | error e => exact ih
      · exact .refl fs

/-- Making directories leaves everything as it is, whether all of them are made or not. -/
theorem extends_makeDirs (fs : Files) (p : Path) : Extends fs (left (fs.makeDirs p)) :=
  extends_ensureDirs fs p.root p.steps.reverse

/-- A file is opened at the place that its path leads to, where no directory stands. -/
theorem locate_of_opened (h : fs.opened path = .ok place) :
    fs.locate path = .ok place ∧ fs.node? place ≠ some .dir := by
  unfold opened at h
  split at h
  · split at h <;> cases h
  · split at h
    · cases h
    · next q hq =>
      split at h
      · cases h
      · next hn =>
        split at h
        · cases h
        · obtain rfl := Except.ok.inj h
          exact ⟨hq, hn⟩

/-- A file that was filled lets files grow. -/
theorem grows_fill (h : fs.node? place ≠ some .dir) (bytes : List UInt8) :
    Grows fs (fs.fill place bytes) := by
  unfold fill
  split
  · exact .refl fs
  · next hn =>
    refine grows_put fun m hm => ?_
    cases m with
    | file old => rfl
    | dir => exact absurd hm h
    | sink => exact absurd hm hn

/-- Filling a file leaves all other places alone. -/
theorem node?_fill_of_ne (bytes : List UInt8) {q : List String} (hq : q ≠ place) :
    (fs.fill place bytes).node? q = fs.node? q := by
  unfold fill
  split
  · rfl
  · rw [node?_put, if_neg fun h => hq h.1]

/-- A file that was filled holds what it was filled with, unless it is a device. -/
theorem node?_fill_self (h : fs.node? place ≠ some .dir) (bytes : List UInt8) :
    (fs.fill place bytes).node? place = some (.file bytes) ∨
      fs.node? place = some .sink ∧ fs.fill place bytes = fs := by
  unfold fill
  split
  · next hn => exact .inr ⟨hn, rfl⟩
  · refine .inl ?_
    rw [node?_put, if_pos]
    refine ⟨rfl, ?_⟩
    -- the root is a directory
    rintro rfl
    exact h rfl

/-- How writing a file can go: it is not opened, and all is as it was; or it is, and holds all that
was to be written, or the beginning up to where the system lets it break off. -/
theorem write_cases (fs : Files) (path : String) (bytes : List UInt8) :
    (∃ e, fs.write path bytes = .error ⟨e, fs⟩) ∨
      ∃ place, fs.opened path = .ok place ∧
        ((∃ n r, fs.denials.finish.get? place = some (n, r) ∧
            fs.write path bytes = .error ⟨.brokenOff r, fs.fill place (bytes.take n)⟩) ∨
          fs.write path bytes = .ok (fs.fill place bytes)) := by
  rw [write]
  cases fs.opened path with
  | error e => exact .inl ⟨e, rfl⟩
  | ok place =>
    refine .inr ⟨place, rfl, ?_⟩
    dsimp only
    cases fs.denials.finish.get? place with
    | none => exact .inr rfl
    | some b => exact .inl ⟨b.1, b.2, rfl, rfl⟩

/-- What writing leaves: all as it was, or one file with other bytes. -/
theorem left_write (fs : Files) (path : String) (bytes : List UInt8) :
    left (fs.write path bytes) = fs ∨
      ∃ place part, fs.opened path = .ok place ∧
        left (fs.write path bytes) = fs.fill place part := by
  obtain ⟨e, h⟩ | ⟨place, hplace, ⟨n, r, -, h⟩ | h⟩ := write_cases fs path bytes
  · exact .inl (by rw [h]; rfl)
  · exact .inr ⟨place, _, hplace, by rw [h]; rfl⟩
  · exact .inr ⟨place, bytes, hplace, by rw [h]; rfl⟩

/-- Writing a file lets files grow, also if it breaks off. -/
theorem grows_write (fs : Files) (path : String) (bytes : List UInt8) :
    Grows fs (left (fs.write path bytes)) := by
  obtain h | ⟨place, part, hplace, h⟩ := left_write fs path bytes
  · rw [h]
    exact .refl fs
  · rw [h]
    exact grows_fill (locate_of_opened hplace).2 part

/-- Writing a file leaves everything as it is but what stands at its path, also if it breaks off. -/
theorem node?_write (hn : fs.node? place = some n)
    (hl : (left (fs.write path bytes)).locate path ≠ .ok place) :
    (left (fs.write path bytes)).node? place = some n := by
  have hgrows := grows_write fs path bytes
  obtain h | ⟨last, part, hlast, h⟩ := left_write fs path bytes
  · rw [h]
    exact hn
  · rw [h] at hgrows hl ⊢
    rw [node?_fill_of_ne part, hn]
    rintro rfl
    exact hl (hgrows.locate (locate_of_opened hlast).1)

/-! ## What files hold -/

/-- The same things stand at the same places, whatever the files hold. -/
structure SameShape (fs fs' : Files) : Prop where
  cwd : fs'.cwd = fs.cwd
  home : fs'.home = fs.home
  denials : fs'.denials = fs.denials
  node : ∀ place, (fs'.node? place).map Node.bare = (fs.node? place).map Node.bare

/-- At each place stands the same, or a file and another one. -/
theorem SameShape.node_eq_or (h : SameShape fs fs') (place : List String) :
    fs'.node? place = fs.node? place ∨
      ∃ old new, fs.node? place = some (.file old) ∧ fs'.node? place = some (.file new) := by
  have hnode := h.node place
  cases hn : fs.node? place with
  | none =>
    rw [hn, Option.map_none, Option.map_eq_none_iff] at hnode
    exact .inl hnode
  | some n =>
    rw [hn] at hnode
    obtain ⟨m, hm, hb⟩ := Option.map_eq_some_iff.1 hnode
    cases n with
    | file old =>
      cases m with
      | file new => exact .inr ⟨old, new, rfl, hm⟩
      | dir | sink => cases hb
    | dir | sink =>
      cases m with
      | file new => cases hb
      | dir | sink => first | exact .inl hm | cases hb

theorem SameShape.follow (h : SameShape fs fs') (steps : List (List Char)) (place : List String) :
    fs'.follow place steps = fs.follow place steps := by
  induction steps generalizing place with
  | nil => rfl
  | cons s rest ih =>
    rw [Files.follow, Files.follow]
    obtain hsame | ⟨old, new, hold, hnew⟩ := h.node_eq_or place
    · simp only [hsame, stepFrom_of_denials h.denials, ih]
    · rw [hold, hnew]

theorem SameShape.locateSteps (h : SameShape fs fs') (path : String) (steps : List (List Char)) :
    fs'.locateSteps path steps = fs.locateSteps path steps := by
  have hstart : fs'.startOf path = fs.startOf path := by rw [startOf, startOf, h.cwd]
  rw [Files.locateSteps, Files.locateSteps, hstart, h.follow]

/-- What files hold does not matter to which file is opened. -/
theorem SameShape.opened (h : SameShape fs fs') (path : String) :
    fs'.opened path = fs.opened path := by
  unfold Files.opened
  split
  · rw [h.locateSteps]
  · rw [locate, locate, h.locateSteps]
    split
    · rfl
    · next place _ =>
      simp only [denied?, h.denials]
      obtain hsame | ⟨old, new, hold, hnew⟩ := h.node_eq_or place
      · rw [hsame]
      · rw [hold, hnew]
        rfl

/-- What files hold does not matter to whether a path can be written. -/
theorem SameShape.write (h : SameShape fs fs') (path : String) (bytes : List UInt8) :
    (fs'.write path bytes).isOk = (fs.write path bytes).isOk := by
  rw [Files.write, Files.write, h.opened, h.denials]
  split
  · rfl
  · split <;> rfl

/-- **What was written into a file is read back from it**, if it may be read. -/
theorem readBytes_write (h : fs.write path bytes = .ok fs') (hf : fs'.isFile path = .ok true)
    (hr : (fs'.readBytes path).isOk = true) : fs'.readBytes path = .ok bytes := by
  obtain ⟨e, h'⟩ | ⟨place, hplace, ⟨n, r, -, h'⟩ | h'⟩ := write_cases fs path bytes
  · cases h.symm.trans h'
  · cases h.symm.trans h'
  · obtain rfl := Except.ok.inj (h.symm.trans h')
    obtain ⟨hlocate, hdir⟩ := locate_of_opened hplace
    have hlocate' := (grows_fill hdir bytes).locate hlocate
    obtain hfile | ⟨hsink, hsame⟩ := node?_fill_self hdir bytes
    · cases hold : (fs.fill place bytes).readBytes path with
      | error e =>
        rw [hold] at hr
        cases hr
      | ok old =>
        obtain ⟨q, n, hq, -, hallowed, -⟩ := readBytes_eq_ok_iff.1 hold
        obtain rfl := Except.ok.inj (hlocate'.symm.trans hq)
        rw [← hold]
        exact readBytes_eq_ok_iff.2 ⟨_, _, hlocate', hfile, hallowed, .inl rfl⟩
    · rw [hsame] at hf
      obtain ⟨old, hlook⟩ := isFile_iff.1 hf
      rw [look_eq_ok_iff.2 ⟨place, hlocate, hsink⟩] at hlook
      cases hlook

end Files

end LineShell
