import LineShell.Launch.Program

/-!
# The command line

The outer layer. What the program does is a function of the files, the command line and the input;
here the files are fetched from disk, lines are read from the terminal, and what the functions give
is written out.

Files are fetched on demand: a function is run on the files known so far, and run again when it
turns out that it wanted others. Between two lines all files are forgotten, so that a change on disk
is seen.
-/

namespace LineShell.Main

/-! ## Files -/

/-- What is on disk at a place. -/
def probe (place : List String) : IO (Option Node) := do
  try
    let bytes ← IO.FS.readBinFile (Files.absolute place).render
    return some (.file bytes.toList)
  catch e =>
    match e with
    | .inappropriateType _ 21 _ => return some .dir
    | _ => return none

/-- Adds what is on disk at the places that a path leads through. -/
def fetch (fs : Files) (path : String) : IO Files :=
  (fs.placesOf path).foldlM (fun fs place => do
    match ← probe place with
    | some n => return fs.put place n
    | none => return fs) fs

/-- Adds what is on disk at the places that several paths lead through. -/
def fetchAll (fs : Files) (paths : List String) : IO Files := paths.foldlM fetch fs

/-- The files when nothing but the present directory and the user's own are known. -/
def initialFiles : IO Files := do
  let cwd := (Path.ofString (← IO.currentDir).toString).steps
  let home := (Path.ofString ((← IO.getEnv "HOME").getD "/")).steps
  fetchAll { cwd, home } [(Files.absolute cwd).render, (Files.absolute home).render]

/-- Writes to disk what has changed. -/
def commit (before after : Files) : IO Unit :=
  after.nodes.entries.forM fun (place, n) => do
    let path := (Files.absolute place).render
    if before.nodes.get? place != some n then
      match n with
      | .dir => IO.FS.createDirAll path
      | .file bytes => IO.FS.writeBinFile path ⟨bytes.toArray⟩
      | .sink => return

/-- Runs a function on the files that it wants. -/
partial def onDemand {α : Type} (events : α → List Event) (run : Files → α) (fs : Files)
    (fetched : List String) : IO α := do
  let r := run fs
  let wanted := (events r).filterMap Event.opened?
  match wanted.filter fun p => !fetched.contains p with
  | [] => return r
  | more => onDemand events run (← fetchAll fs more) (fetched ++ more)

/-! ## Output -/

/-- Writes out what was seen; `line` is the line for a record, if it is shown. -/
def emit (line : Log.Record → Option String) (es : List Event) : IO Unit := do
  let out ← IO.getStdout
  let err ← IO.getStderr
  for e in es do
    match e with
    | .output text => out.putStr text
    | .logged r => if let some l := line r then err.putStr l
    | _ => pure ()
  out.flush
  err.flush

/-- The line for a record, before the console has been set up. -/
def earlyLine (r : Log.Record) : Option String :=
  if Log.Level.warning.rank ≤ r.level.rank then some (r.message ++ "\n") else none

/-- The line for a record, from a rank upwards. -/
def lineFrom (rank : Nat) (r : Log.Record) : Option String :=
  if rank ≤ r.level.rank then some r.line else none

/-- Reports what ended the program, and gives the status for it. -/
def fail (message : String) : IO UInt32 := do
  (← IO.getStderr).putStrLn message
  return 1

/-! ## Lines -/

/-- Reads a line, and adds it to the input. -/
def await (input : Input) : IO Input := do
  try
    let text ← (← IO.getStdin).getLine
    if text.isEmpty then return { input with tail := .ends }
    else return (Text.splitKeeping (Text.unifyNewlines text.toList)).foldl Input.feed input
  catch e => return { input with tail := .fails (.io e.toString) }

/-- Lets a loop run until it ends. -/
partial def serve (fs : Files) (line : Log.Record → Option String) (l : Loop) : IO Loop := do
  let l ← onDemand Loop.events (fun fs => l.run (Shell.exec fs)) fs []
  emit line l.events
  match l.phase with
  | .ended _ => return l
  | _ => serve fs line { l with input := ← await l.input }

/-- Runs the shell that a configuration describes. -/
def runShell (fs : Files) (line : Log.Record → Option String) (c : Config) : IO UInt32 := do
  let s := c.shellOf
  emit line (Config.buildEvents s)
  let o ← onDemand Outcome.events (fun fs => Launch.runScript fs c s) fs []
  emit line o.events
  match o.result with
  | .error f => fail f.message
  | .ok () =>
    let l := Loop.start { o.shell with running := true } .gate
    emit line l.events
    let l ← serve fs line l
    match l.phase with
    | .ended (some f) => if o.shell.runAsync then return 0 else fail f.message
    | _ => return 0

/-- Runs the program. -/
def run (args : List String) : IO UInt32 := do
  let base ← initialFiles
  let fs ← fetchAll base (Setup.paths base args)
  let fs ← fetchAll fs (Setup.paths fs args)
  let setup := Setup.run fs args
  emit earlyLine setup.events
  commit fs setup.files
  match setup.result with
  | .error (.stopped s) =>
    (← IO.getStderr).putStr s.errors
    return s.status.toUInt32
  | .error (.failed f) => fail f.message
  | .ok .sampled => return 0
  | .ok (.refused _) => return 1
  | .ok (.ready c st) =>
    match c.console.rank with
    | .error f => fail f.message
    | .ok rank =>
      emit (lineFrom rank) (Launch.sourceEvents st)
      runShell base (lineFrom rank) c

end LineShell.Main

/-- Runs the program. -/
def main (args : List String) : IO UInt32 := LineShell.Main.run args
