import LineShell.Launch.Program
import LineShell.Proofs.Config.Origin
import LineShell.Proofs.Files.Growth

/-!
# Programs that do not come to a shell

A command line can end the program before there is a shell: it is no command line, or asks for help;
it asks for a sample; or it comes to a configuration that does not do. The program then has read
nothing of its input and called no handler (`Launch.Unbegun`), and all files are as they were, but
for the sample that was asked for (`Launch.SampleOnly`). Of that a beginning is left, and the
program refused, if writing it breaks off (`Launch.SampleBroken`). A configuration is saved only
behind the check, so one that does not do is not saved either.

## How the proofs go

Setting up is taken function by function: which results it can come to, what they leave of the
files, and that it lets nothing be seen but texts and records. The program adds to that only if
there is a configuration to start with.
-/

namespace LineShell

/-- Whether an event is something said, in the output or in the log. -/
def Event.isSaid : Event → Bool
  | .output _ => true
  | .logged _ => true
  | _ => false

namespace Setup

variable {fs fs' : Files} {args : List String} {name : String} {o : Options} {es : List Event}

/-! ## Setting up only says things -/

theorem said_logged (log : List Log.Record) : ∀ e ∈ logged log, e.isSaid = true := by
  simp [logged, Event.isSaid]

theorem said_sample (fs : Files) (name : String) :
    ∀ e ∈ (sample fs name).events, e.isSaid = true := by
  unfold sample
  dsimp only
  split
  · exact said_logged _
  · exact List.forall_mem_append.2 ⟨said_logged _, by simp [line, Event.isSaid]⟩
  · exact List.forall_mem_append.2 ⟨said_logged _, by simp [line, Event.isSaid]⟩

theorem said_saveTo (hes : ∀ e ∈ es, e.isSaid = true) (file : Option String) (c : Config)
    (st : ConfigStore) (fs : Files) : ∀ e ∈ (saveTo file c st fs es).events, e.isSaid = true := by
  unfold saveTo
  split
  · exact hes
  · dsimp only
    split
    · exact List.forall_mem_append.2 ⟨hes, said_logged _⟩
    · refine List.forall_mem_append.2 ⟨List.forall_mem_append.2 ⟨hes, said_logged _⟩, ?_⟩
      split <;> simp [line, Event.isSaid]

theorem said_configure (fs : Files) (o : Options) :
    ∀ e ∈ (configure fs o).events, e.isSaid = true := by
  unfold configure
  dsimp only
  split
  · exact said_logged _
  · split
    · exact said_logged _
    · exact said_logged _
    · exact said_saveTo (said_logged _) _ _ _ _
    · exact List.forall_mem_append.2 ⟨said_logged _, by simp [line, Event.isSaid]⟩

/-- All that is seen of setting up is said in the output or in the log. -/
theorem said_run (fs : Files) (args : List String) :
    ∀ e ∈ (run fs args).events, e.isSaid = true := by
  unfold run
  split
  · split <;> simp [Event.isSaid]
  · split
    · exact said_sample _ _
    · exact said_configure _ _

/-! ## What setting up comes to -/

/-- The content of a sample. -/
def sampleBytes : List UInt8 := ConfigStore.bytesOf Config.sampleText

/-- What is seen when a sample has been written. -/
def sampleEvents (name : String) : List Event :=
  [.logged (ConfigStore.record .info s!"Sample configuration created: {name}"),
    line s!"Sample configuration created: {name}",
    line s!"Edit the file and run again with: -c {name}"]

theorem sample_of_write (h : fs.write name sampleBytes = .ok fs') :
    sample fs name = ⟨.ok .sampled, fs', sampleEvents name⟩ := by
  rw [sampleBytes] at h
  simp only [sample, ConfigStore.writeSample, Option.getD_some, h]
  rfl

/-- What setting up with these arguments can come to, and what it then leaves of the files. Nothing
is said of the files if it comes to a configuration, which may have been saved, or if it fails. A
sample that could not be written to its end has been begun. -/
inductive Outline (fs : Files) (args : List String) : Result → Prop
  | stopped {s : Options.Stop} {es : List Event} : Outline fs args ⟨.error (.stopped s), fs, es⟩
  | failed {f : Config.Fault} {fs' : Files} {es : List Event} :
    Outline fs args ⟨.error (.failed f), fs', es⟩
  | sampled {o : Options} {name : String} {fs' : Files} (options : Options.parse args = .ok o)
    (asked : operandText o.createConfig = some name)
    (written : fs.write name sampleBytes = .ok fs') :
    Outline fs args ⟨.ok .sampled, fs', sampleEvents name⟩
  | refused {st : ConfigStore} {es : List Event} : Outline fs args ⟨.ok (.refused st), fs, es⟩
  | broken {o : Options} {name : String} {place : List String} {n : Nat} {r : Refusal}
    {st : ConfigStore} {es : List Event} (options : Options.parse args = .ok o)
    (asked : operandText o.createConfig = some name) (opened : fs.opened name = .ok place)
    (denied : fs.denials.finish.get? place = some (n, r)) :
    Outline fs args ⟨.ok (.refused st), fs.fill place (sampleBytes.take n), es⟩
  | ready {c : Config} {st : ConfigStore} {fs' : Files} {es : List Event} :
    Outline fs args ⟨.ok (.ready c st), fs', es⟩

theorem outline_sample (ho : Options.parse args = .ok o)
    (hname : operandText o.createConfig = some name) : Outline fs args (sample fs name) := by
  obtain ⟨e, hw⟩ | ⟨place, hplace, ⟨n, r, hdenied, hw⟩ | hw⟩ :=
    Files.write_cases fs name sampleBytes
  · rw [sampleBytes] at hw
    simp only [sample, ConfigStore.writeSample, Option.getD_some, hw]
    -- what is no path at all is not reported, but fails
    cases e with
    | nullInPath => exact .failed
    | refused | undecodable | brokenOff => exact .refused
  · rw [sampleBytes] at hw
    simp only [sample, ConfigStore.writeSample, Option.getD_some, hw]
    exact .broken ho hname hplace hdenied
  · rw [sample_of_write hw]
    exact .sampled ho hname hw

theorem outline_saveTo (file : Option String) (c : Config) (st : ConfigStore) (es : List Event) :
    Outline fs args (saveTo file c st fs es) := by
  unfold saveTo
  split
  · exact .ready
  · dsimp only
    split
    · exact .failed
    · exact .ready

/-- Only what has passed the check is saved. -/
theorem outline_configure (o : Options) : Outline fs args (configure fs o) := by
  unfold configure
  dsimp only
  split
  · exact .failed
  · split
    · exact .failed
    · exact .failed
    · exact outline_saveTo ..
    · exact .refused

theorem outline_run (fs : Files) (args : List String) : Outline fs args (run fs args) := by
  unfold run
  split
  · exact .stopped
  · next o ho =>
    split
    · next name hname => exact outline_sample ho hname
    · exact outline_configure o

/-- Whether setting up comes to nothing to start. -/
def Result.isRefused (r : Result) : Bool :=
  match r.result with
  | .ok (.refused _) => true
  | _ => false

theorem Result.isRefused_iff {r : Result} :
    r.isRefused = true ↔ ∃ st, r.result = .ok (.refused st) := by
  unfold isRefused
  split
  · next st h => exact ⟨fun _ => ⟨st, h⟩, fun _ => rfl⟩
  · next h => exact ⟨Bool.noConfusion, fun ⟨st, hst⟩ => (h st hst).elim⟩

/-- Setting up leaves the files as they are if the command line ends the program. -/
theorem files_of_stopped {s : Options.Stop} (h : (run fs args).result = .error (.stopped s)) :
    (run fs args).files = fs := by
  have houtline := outline_run fs args
  generalize run fs args = made at houtline h
  cases houtline with
  | stopped => rfl
  | failed | sampled | refused | broken | ready => cases h

/-- Setting up that ends with a sample would end so whatever the files held. -/
theorem run_of_sameShape (h : (run fs args).result = .ok .sampled) (hshape : fs.SameShape fs') :
    (run fs' args).result = .ok .sampled ∧ (run fs' args).events = (run fs args).events := by
  have houtline := outline_run fs args
  generalize run fs args = made at houtline h
  cases houtline with
  | stopped | failed | refused | broken | ready => cases h
  | @sampled o name _ ho hname hw =>
    have hok := hshape.write name sampleBytes
    rw [hw] at hok
    cases hfiles : fs'.write name sampleBytes with
    | error u =>
      rw [hfiles] at hok
      cases hok
    | ok files => simp only [run, ho, hname, sample_of_write hfiles, and_self]

end Setup

namespace Launch

variable {fs : Files} {args : List String} {input : Input}

/-! ## All that is seen of a program -/

/-- All that is seen of a program: of setting up, and of the shell if there is one. -/
def seen (fs : Files) (args : List String) (input : Input) : List Event :=
  let setup := Setup.run fs args
  setup.events ++ match setup.result with
    | .ok (.ready c _) =>
      if c.console.rank.isOk then (runShell setup.files c input).2.1 else []
    | _ => []

/-- The output of a program is what is seen of it in the output. -/
theorem output_eq_seen (fs : Files) (args : List String) (input : Input) :
    (run fs args input).output = Event.written (seen fs args input) := by
  unfold run seen
  generalize Setup.run fs args = setup
  obtain ⟨result, files, events⟩ := setup
  rcases result with (s | f) | (_ | st | ⟨c, st⟩)
  · simp
  · simp
  · simp
  · simp
  · dsimp only
    cases c.console.rank with
    | error f => simp [Except.isOk, Except.toBool]
    | ok rank => simp [Except.isOk, Except.toBool]

/-- A program of which nothing has begun when it ends: its input does not matter, and nothing is
seen but what was said. So no handler was called, and no file of lines was opened. -/
structure Unbegun (fs : Files) (args : List String) : Prop where
  input : ∀ input input', run fs args input = run fs args input'
  seen : ∀ input, ∀ e ∈ seen fs args input, e.isSaid = true
  crashes : ∀ input, (run fs args input).crashes = []

/-- Whether nothing is different but the file at this place, which holds these bytes now; on a
device they are lost. -/
structure OnlyHolds (place : List String) (bytes : List UInt8) (fs fs' : Files) : Prop where
  cwd : fs'.cwd = fs.cwd
  home : fs'.home = fs.home
  denials : fs'.denials = fs.denials
  others : ∀ q, q ≠ place → fs'.node? q = fs.node? q
  here : fs'.node? place = some (.file bytes) ∨ fs.node? place = some .sink ∧ fs' = fs

/-- A program that began to write the sample that was asked for: the system let it break off, and
the file holds what had been written so far. -/
def SampleBroken (fs : Files) (args : List String) (fs' : Files) : Prop :=
  ∃ o name place n r, Options.parse args = .ok o ∧
    Setup.operandText o.createConfig = some name ∧ fs.locate name = .ok place ∧
    fs.denials.finish.get? place = some (n, r) ∧
    OnlyHolds place (Setup.sampleBytes.take n) fs fs'

/-- A program that wrote the sample that was asked for, and nothing else; no file was loaded, so it
would have said the same whatever the files held. -/
structure SampleOnly (fs : Files) (args : List String) (input : Input) : Prop where
  written : ∃ o name place, Options.parse args = .ok o ∧
    Setup.operandText o.createConfig = some name ∧ fs.locate name = .ok place ∧
    OnlyHolds place Setup.sampleBytes fs (run fs args input).files
  unloaded : ∀ fs', fs.SameShape fs' →
    (run fs' args input).ending = (run fs args input).ending ∧
      (run fs' args input).output = (run fs args input).output ∧
      (run fs' args input).errors = (run fs args input).errors

/-! ## Programs that end early -/

/-- If there is nothing to start, nothing begins. -/
theorem unbegun_of_not_ready
    (h : ∀ c st, (Setup.run fs args).result ≠ .ok (.ready c st)) : Unbegun fs args := by
  have hsaid := Setup.said_run fs args
  have hrun (input input' : Input) : run fs args input = run fs args input' ∧
      seen fs args input = (Setup.run fs args).events ∧ (run fs args input).crashes = [] := by
    unfold run seen
    generalize Setup.run fs args = made at h
    obtain ⟨result, files, events⟩ := made
    rcases result with (s | f) | (_ | st | ⟨c, st⟩)
    case ok.ready => exact absurd rfl (h c st)
    all_goals exact ⟨rfl, List.append_nil events, rfl⟩
  refine ⟨fun input input' => (hrun input input').1, fun input => ?_,
    fun input => (hrun input input).2.2⟩
  rw [(hrun input input).2.1]
  exact hsaid

/-- A shell that was started does not end like a program that was refused. -/
theorem ending_runShell (fs : Files) (c : Config) (input : Input) :
    (runShell fs c input).1 = .status 0 ∨ ∃ f, (runShell fs c input).1 = .shell f := by
  unfold runShell
  dsimp only
  split
  · exact .inr ⟨_, rfl⟩
  · unfold endingOf
    split
    · exact .inl rfl
    · exact .inl rfl
    · exact .inr ⟨_, rfl⟩

/-- A program ends early exactly if setting up does. -/
theorem ending_run_iff (fs : Files) (args : List String) (input : Input) :
    ((run fs args input).ending = .status 1 ↔
        ∃ st, (Setup.run fs args).result = .ok (.refused st)) ∧
      ∀ s, (run fs args input).ending = .stopped s ↔
        (Setup.run fs args).result = .error (.stopped s) := by
  unfold run
  generalize Setup.run fs args = made
  obtain ⟨result, files, events⟩ := made
  rcases result with (s | f) | (_ | st | ⟨c, st⟩)
  case ok.ready =>
    dsimp only
    split
    · simp
    · next rank _ => obtain h | ⟨f, h⟩ := ending_runShell files c input <;> simp [h]
  all_goals simp

theorem files_run (fs : Files) (args : List String) (input : Input) :
    (run fs args input).files = (Setup.run fs args).files := by
  unfold run
  dsimp only
  split
  case h_5 => split <;> rfl
  all_goals rfl

/-- A file that was filled is all that is different. -/
theorem onlyHolds_fill {name : String} {place : List String} (h : fs.opened name = .ok place)
    (bytes : List UInt8) : OnlyHolds place bytes fs (fs.fill place bytes) := by
  obtain ⟨-, hdir⟩ := Files.locate_of_opened h
  have hgrows := Files.grows_fill hdir bytes
  exact ⟨hgrows.cwd, hgrows.home, hgrows.denials, fun q hq => Files.node?_fill_of_ne bytes hq,
    Files.node?_fill_self hdir bytes⟩

/-- A program that is refused leaves the files as they are, or has begun a sample. -/
theorem files_of_refused {st : ConfigStore} (h : (Setup.run fs args).result = .ok (.refused st)) :
    (Setup.run fs args).files = fs ∨ SampleBroken fs args (Setup.run fs args).files := by
  have houtline := Setup.outline_run fs args
  generalize Setup.run fs args = made at houtline h
  cases houtline with
  | stopped | failed | sampled | ready => cases h
  | refused => exact .inl rfl
  | @broken o name place n r _ _ ho hname hplace hdenied =>
    exact .inr ⟨o, name, place, n, r, ho, hname, (Files.locate_of_opened hplace).1, hdenied,
      onlyHolds_fill hplace _⟩

/-- A program that ends with a sample has written it, and no more. -/
theorem sampleOnly_of_sampled (h : (Setup.run fs args).result = .ok .sampled) (input : Input) :
    SampleOnly fs args input := by
  constructor
  · rw [files_run]
    have houtline := Setup.outline_run fs args
    generalize Setup.run fs args = made at houtline h
    cases houtline with
    | stopped | failed | refused | broken | ready => cases h
    | @sampled o name fs' ho hname hw =>
      obtain ⟨e, hw'⟩ | ⟨place, hplace, ⟨n, r, -, hw'⟩ | hw'⟩ :=
        Files.write_cases fs name Setup.sampleBytes
      · cases hw.symm.trans hw'
      · cases hw.symm.trans hw'
      · obtain rfl := Except.ok.inj (hw.symm.trans hw')
        exact ⟨o, name, place, ho, hname, (Files.locate_of_opened hplace).1,
          onlyHolds_fill hplace _⟩
  · intro fs' hshape
    obtain ⟨hresult, hevents⟩ := Setup.run_of_sameShape h hshape
    simp [run, h, hresult, hevents]

/-- **A program that is refused changes nothing, but for a sample that it could not write to the
end.** It ends with the status 1 exactly if setting up refuses: the configuration does not do, or
the sample could not be written. If it ends so, or if the command line ends it, then neither the
input nor a file of lines was read, nor any handler called; and the files are as they were, also
where the configuration should be saved, unless the status is 1 and writing the sample broke off:
then the file that was named for it holds a beginning of the sample, and nothing else is different.
If setting up comes to a sample, the program ends with the status 0, nothing was read either, and
nothing can have changed but the file that was named for the sample. -/
theorem refused_changes_nothing (fs : Files) (args : List String) (input : Input) :
    ((run fs args input).ending = .status 1 ↔
        ∃ st, (Setup.run fs args).result = .ok (.refused st)) ∧
      ((run fs args input).ending = .status 1 → Unbegun fs args ∧
        ((run fs args input).files = fs ∨ SampleBroken fs args (run fs args input).files)) ∧
      (∀ s, (run fs args input).ending = .stopped s →
        Unbegun fs args ∧ (run fs args input).files = fs) ∧
      ((Setup.run fs args).result = .ok .sampled →
        (run fs args input).ending = .status 0 ∧ Unbegun fs args ∧ SampleOnly fs args input) := by
  obtain ⟨hone, hstopped⟩ := ending_run_iff fs args input
  refine ⟨hone, fun h => ?_, fun s h => ?_, fun h => ⟨?_, ?_, sampleOnly_of_sampled h input⟩⟩
  · obtain ⟨st, hsetup⟩ := hone.1 h
    rw [files_run]
    refine ⟨unbegun_of_not_ready fun c st' h' => ?_, files_of_refused hsetup⟩
    cases hsetup.symm.trans h'
  · have hsetup := (hstopped s).1 h
    rw [files_run]
    refine ⟨unbegun_of_not_ready fun c st' h' => ?_, Setup.files_of_stopped hsetup⟩
    cases hsetup.symm.trans h'
  · simp [run, h]
  · exact unbegun_of_not_ready fun c st' h' => nomatch h.symm.trans h'

/-- Files with a text in one of them. -/
def holding (bytes : List UInt8) : Files := (∅ : Files).put ["s"] (.file bytes)

/-- The same files on a disk on which only so many bytes of the text can be replaced. -/
def holdingFull (bytes : List UInt8) (n : Nat) : Files :=
  { holding bytes with
    denials := { finish := Assoc.ofList [(["s"], (n, .system 28 "No space left on device"))] } }

/-- A configuration that does not do, with a script to run, a line to read and a file to save to; a
file to save to that is not named; a sample in the place of the script; a sample in a directory that
there is not; and one on a disk that is full. -/
theorem refused_changes_nothing_saving :
    let bytes := ConfigStore.bytesOf "echo text=hi\n"
    let fs := holding bytes
    let input := Input.ofText "echo text=hi\n".toList
    let refused := run fs ["-v", "-q", "-x", "s", "--save-config", "new.yaml"] input
    let stopped := run fs ["-x", "s", "--save-config"] input
    let sampled := run fs ["-x", "s", "--create-config", "s"] input
    let unwritten := run fs ["-x", "s", "--create-config", "d/s"] input
    let full := holdingFull bytes 3
    let broken := run full ["-x", "s", "--create-config", "s"] input
    (refused.ending = .status 1 ∧ refused.files = fs ∧
        refused.output = "Configuration errors:\n  ✗ Verbose and quiet cannot both be enabled\n") ∧
      ((∃ s, stopped.ending = .stopped s) ∧ stopped.files = fs ∧ stopped.output = "") ∧
      (sampled.ending = .status 0 ∧ sampled.files.readBytes "s" = .ok Setup.sampleBytes ∧
        SampleOnly fs ["-x", "s", "--create-config", "s"] input) ∧
      (unwritten.ending = .status 1 ∧ unwritten.files = fs ∧
        unwritten.output = "Could not create sample configuration: d/s\n") ∧
      broken.ending = .status 1 ∧
        SampleBroken full ["-x", "s", "--create-config", "s"] broken.files ∧
        broken.output = "Could not create sample configuration: s\n" := by
  intro bytes fs input refused stopped sampled unwritten full broken
  -- nothing breaks off in the first files
  have hwhole (args : List String) (fs' : Files) : ¬SampleBroken fs args fs' :=
    fun ⟨_, _, _, _, _, _, _, _, hdenied, _⟩ => nomatch hdenied
  obtain ⟨hone, hsame, -⟩ :=
    refused_changes_nothing fs ["-v", "-q", "-x", "s", "--save-config", "new.yaml"] input
  have hstatus : refused.ending = .status 1 :=
    hone.2 (Setup.Result.isRefused_iff.1 (by decide +kernel))
  obtain ⟨-, -, hstill, -⟩ := refused_changes_nothing fs ["-x", "s", "--save-config"] input
  have hstop : stopped.ending = .stopped _ := rfl
  obtain ⟨-, -, -, honly⟩ := refused_changes_nothing fs ["-x", "s", "--create-config", "s"] input
  obtain ⟨hzero, -, hsample⟩ := honly rfl
  obtain ⟨hone', hsame', -⟩ :=
    refused_changes_nothing fs ["-x", "s", "--create-config", "d/s"] input
  have hstatus' : unwritten.ending = .status 1 :=
    hone'.2 (Setup.Result.isRefused_iff.1 (by decide +kernel))
  obtain ⟨hone'', hbegun, -⟩ :=
    refused_changes_nothing full ["-x", "s", "--create-config", "s"] input
  have hstatus'' : broken.ending = .status 1 :=
    hone''.2 (Setup.Result.isRefused_iff.1 (by decide +kernel))
  refine ⟨⟨hstatus, ?_, by decide +kernel⟩, ⟨⟨_, hstop⟩, (hstill _ hstop).2, by decide +kernel⟩,
    ⟨hzero, rfl, hsample⟩, ⟨hstatus', ?_, by decide +kernel⟩, hstatus'', ?_, by decide +kernel⟩
  · exact (hsame hstatus).2.resolve_right (hwhole _ _)
  · exact (hsame' hstatus').2.resolve_right (hwhole _ _)
  · exact (hbegun hstatus'').2.resolve_left (by decide +kernel)

/-- On a full disk, a program that is refused leaves an empty file where a text was; and a sample
that was there already is written without a change. -/
theorem refused_changes_full :
    let bytes := ConfigStore.bytesOf "mine\n"
    let input := Input.ofText []
    let full := holdingFull bytes 0
    let broken := run full ["--create-config", "s"] input
    let written := holding Setup.sampleBytes
    let again := run written ["--create-config", "s"] input
    (broken.ending = .status 1 ∧ full.readBytes "s" = .ok bytes ∧
        broken.files.readBytes "s" = .ok []) ∧
      (Setup.run written ["--create-config", "s"]).result = .ok .sampled ∧
        again.files = written :=
  ⟨⟨rfl, rfl, rfl⟩, rfl, rfl⟩

end Launch

end LineShell
