import LineShell.Assoc
import LineShell.Files.Path
import LineShell.Text.Quoted
import LineShell.Text.Utf8

/-!
# Files

The files that a run can see, as a value: what stands at each absolute place, the directory in
which relative paths start, the user's own directory, and what the system does not let the run do
(`Denials`). Reading and writing follow a path step by step; a path that cannot be followed fails
with a cause (`Refusal`) and a number that names it.

A file is opened before anything is written into it, and is empty from then on. So writing can fail
in two ways: the file cannot be opened, and all is as it was; or it can, and writing breaks off, and
only a beginning gets into it (`Files.Unfinished`).

What the system may deny is going through a directory and writing. A file that can be reached can
also be read.

* `Files.look` - what stands at a path
* `Files.readBytes`, `Files.write`, `Files.makeDirs` - reading, writing, making directories
-/

namespace LineShell

/-- What stands at a place. -/
inductive Node where
  | file (bytes : List UInt8)
  | dir
  /-- A device: empty when read, and whatever is written to it is lost. -/
  | sink
deriving DecidableEq, Repr

/-- Why a path could not be used. -/
inductive Refusal where
  | missing
  | occupied
  | notDir
  | isDir
  | nameTooLong
  /-- Any other cause, by its number and in words: no right to do it, no room, a broken disk. -/
  | system (number : Nat) (words : String)
deriving DecidableEq, Repr

namespace Refusal

/-- The number of a cause. -/
def number : Refusal → Nat
  | missing => 2
  | occupied => 17
  | notDir => 20
  | isDir => 21
  | nameTooLong => 36
  | system number _ => number

/-- The cause in words. -/
def words : Refusal → String
  | missing => "No such file or directory"
  | occupied => "File exists"
  | notDir => "Not a directory"
  | isDir => "Is a directory"
  | nameTooLong => "File name too long"
  | system _ words => words

/-- Whether the cause is that something is missing. -/
def isMissing (r : Refusal) : Bool := r.number == missing.number

/-- Whether the cause means, to those who ask what stands at a path, that nothing stands there. The
other two are a descriptor that is none, and too many links. -/
def isAbsence (r : Refusal) : Bool := r.number ∈ [2, 20, 9, 40]

end Refusal

/-- Why a file operation failed. -/
inductive FileError where
  | refused (cause : Refusal) (path : String)
  /-- The path holds a null character and is no path at all. -/
  | nullInPath
  /-- The bytes that were read are no text. -/
  | undecodable (fault : Text.Utf8.Fault)
  /-- A file was open, and writing into it broke off. -/
  | brokenOff (cause : Refusal)
deriving DecidableEq, Repr

namespace FileError

/-- The error in words. -/
def message : FileError → String
  | refused cause path => s!"[Errno {cause.number}] {cause.words}: {Text.quoted path}"
  | nullInPath => "embedded null byte"
  | undecodable fault => fault.message
  | brokenOff cause => s!"[Errno {cause.number}] {cause.words}"

/-- Whether the error is that something is missing. -/
def isMissing : FileError → Bool
  | refused cause _ => cause.isMissing
  | _ => false

/-- Whether the error means, to those who ask what stands at a path, that nothing stands there. -/
def isAbsence : FileError → Bool
  | refused cause _ => cause.isAbsence
  | nullInPath => true
  | undecodable _ => false
  | brokenOff _ => false

end FileError

/-- What the system denies, by the place that it concerns, whatever stands there. -/
structure Denials where
  /-- Going through a directory. -/
  search : Assoc (List String) Refusal := ∅
  /-- Opening a file to read it. -/
  read : Assoc (List String) Refusal := ∅
  /-- Opening a file to write into it, or making something in a directory. -/
  write : Assoc (List String) Refusal := ∅
  /-- Writing to the end into a file that is open: behind how many bytes it breaks off, if there are
  that many, and why. -/
  finish : Assoc (List String) (Nat × Refusal) := ∅
deriving DecidableEq

/-- The files that a run can see. Places are lists of steps from the root, which is itself a
directory. -/
structure Files where
  nodes : Assoc (List String) Node := ∅
  /-- The directory in which relative paths start. -/
  cwd : List String := []
  /-- The user's own directory. -/
  home : List String := []
  denials : Denials := {}
deriving DecidableEq

/-- No files. -/
instance : EmptyCollection Files := ⟨{}⟩

namespace Files

/-- A place as an absolute path. -/
def absolute (place : List String) : Path := ⟨"/", place⟩

/-- What stands at a place. -/
def node? (fs : Files) (place : List String) : Option Node :=
  if place.isEmpty then some .dir else fs.nodes.get? place

/-- The longest name that a step may have, in bytes. -/
def maxName : Nat := 255

/-- The longest path, in bytes. -/
def maxPath : Nat := 4095

/-- Where a step leads from a directory. An empty one does not look into the directory. -/
def stepFrom (fs : Files) (place : List String) (s : List Char) : Except Refusal (List String) :=
  if s = [] then .ok place
  else match fs.denials.search.get? place with
    | some r => .error r
    | none =>
      if s = ['.'] then .ok place
      else if s = ['.', '.'] then .ok place.dropLast
      else if (String.ofList s).utf8ByteSize > maxName then .error .nameTooLong
      else .ok (place ++ [String.ofList s])

/-- Follows steps from a place to the place they end at. All but the last must lead through
directories; at the last there need not be anything. -/
def follow (fs : Files) (place : List String) : List (List Char) → Except Refusal (List String)
  | [] => .ok place
  | s :: rest =>
    match fs.node? place with
    | none => .error .missing
    | some .dir =>
      match fs.stepFrom place s with
      | .error r => .error r
      | .ok next => follow fs next rest
    | some _ => .error .notDir

/-- The places that steps lead through, from a place on, whatever is there. -/
def passed (place : List String) : List (List Char) → List (List String)
  | [] => []
  | s :: rest =>
    let next := if !Path.leads s then place
      else if s = ['.', '.'] then place.dropLast
      else place ++ [String.ofList s]
    next :: passed next rest

/-- The place that a path starts from. -/
def startOf (fs : Files) (path : String) : List String :=
  if Path.rootOf path.toList = "" then fs.cwd else []

/-- The places that a path leads through. -/
def placesOf (fs : Files) (path : String) : List (List String) :=
  passed (fs.startOf path) (Path.cut path.toList)

/-- Why a text is no path, whatever the files are. -/
def flawOf? (path : String) : Option FileError :=
  if path.toList.contains '\x00' then some .nullInPath
  else if path.isEmpty then some (.refused .missing path)
  else if path.utf8ByteSize > maxPath then some (.refused .nameTooLong path)
  else none

/-- Where steps end that are those of a path, or some of them. -/
def locateSteps (fs : Files) (path : String) (steps : List (List Char)) :
    Except FileError (List String) :=
  match flawOf? path with
  | some e => .error e
  | none => (fs.follow (fs.startOf path) steps).mapError (.refused · path)

/-- Where a path ends. -/
def locate (fs : Files) (path : String) : Except FileError (List String) :=
  fs.locateSteps path (Path.cut path.toList)

/-- What stands at a path. -/
def look (fs : Files) (path : String) : Except FileError Node :=
  match fs.locate path with
  | .error e => .error e
  | .ok place =>
    match fs.node? place with
    | some n => .ok n
    | none => .error (.refused .missing path)

/-- The bytes of the file at a path. -/
def readBytes (fs : Files) (path : String) : Except FileError (List UInt8) :=
  match fs.locate path with
  | .error e => .error e
  | .ok place =>
    match fs.node? place, fs.denials.read.get? place with
    | none, _ => .error (.refused .missing path)
    | some _, some r => .error (.refused r path)
    | some .dir, none => .error (.refused .isDir path)
    | some .sink, none => .ok []
    | some (.file bytes), none => .ok bytes

/-- The text of the file at a path. -/
def readText (fs : Files) (path : String) : Except FileError (List Char) :=
  match fs.readBytes path with
  | .error e => .error e
  | .ok bytes => (Text.Utf8.decode bytes).mapError .undecodable

/-- Whether something stands at a path. Nothing does if looking there fails with an absence; if it
fails with anything else, the question cannot be answered. -/
def test (p : Node → Bool) (fs : Files) (path : String) : Except FileError Bool :=
  match fs.look path with
  | .ok n => .ok (p n)
  | .error e => if e.isAbsence then .ok false else .error e

/-- Whether anything stands at a path. -/
def present (fs : Files) (path : String) : Except FileError Bool := fs.test (fun _ => true) path

/-- Whether a file stands at a path. -/
def isFile (fs : Files) (path : String) : Except FileError Bool :=
  fs.test (fun n => match n with | .file _ => true | _ => false) path

/-- Whether a directory stands at a path. -/
def isDir (fs : Files) (path : String) : Bool :=
  match fs.look path with
  | .ok .dir => true
  | _ => false

/-! ## Writing -/

/-- A change that was not made, or not to its end: why, and the files that are left. -/
structure Unfinished where
  error : FileError
  files : Files

/-- The files that are left, whether a change was made or not. -/
def left : Except Unfinished Files → Files
  | .ok fs => fs
  | .error u => u.files

/-- Puts a node at a place. -/
def put (fs : Files) (place : List String) (n : Node) : Files :=
  { fs with nodes := fs.nodes.insert place n }

/-- The steps that have to lead to a directory, if a path ends in a slash and has steps: it means a
directory itself, but what stands at its last step does not matter. -/
def stepsToDir? (path : String) : Option (List (List Char)) :=
  match path.toList.reverse with
  | '/' :: rest =>
    match rest.dropWhile (· == '/') with
    | [] => none
    | bare => some ((Path.cut bare.reverse).dropLast ++ [[]])
  | _ => none

/-- Why nothing can be written or made at a place, if so. -/
def denied? (fs : Files) (place : List String) : Option Refusal := fs.denials.write.get? place

/-- The place of the file that a path opens to be written. A path that ends in a slash can only mean
a directory. A new file is made in the directory above it, which must exist. -/
def opened (fs : Files) (path : String) : Except FileError (List String) :=
  match stepsToDir? path with
  | some steps =>
    match fs.locateSteps path steps with
    | .error e => .error e
    | .ok _ => .error (.refused .isDir path)
  | none =>
    match fs.locate path with
    | .error e => .error e
    | .ok place =>
      match fs.node? place with
      | some .dir => .error (.refused .isDir path)
      | n =>
        match fs.denied? (if n.isNone then place.dropLast else place) with
        | some r => .error (.refused r path)
        | none => .ok place

/-- Lets the file at a place hold these bytes; on a device they are lost. -/
def fill (fs : Files) (place : List String) (bytes : List UInt8) : Files :=
  match fs.node? place with
  | some .sink => fs
  | _ => fs.put place (.file bytes)

/-- Writes a file. An existing one loses its content. -/
def write (fs : Files) (path : String) (bytes : List UInt8) : Except Unfinished Files :=
  match fs.opened path with
  | .error e => .error ⟨e, fs⟩
  | .ok place =>
    match fs.denials.finish.get? place with
    | some (n, r) => .error ⟨.brokenOff r, fs.fill place (bytes.take n)⟩
    | none => .ok (fs.fill place bytes)

/-- Makes a directory. -/
def makeDir (fs : Files) (path : String) : Except FileError Files :=
  match fs.locate path with
  | .error e => .error e
  | .ok place =>
    match fs.node? place with
    | some _ => .error (.refused .occupied path)
    | none =>
      match fs.denied? place.dropLast with
      | some r => .error (.refused r path)
      | none => .ok (fs.put place .dir)

/-- Makes a directory that may exist already, but not the ones above it. -/
def ensureDir (fs : Files) (path : String) : Except FileError Files :=
  match fs.makeDir path with
  | .error (.refused cause q) =>
    if cause.isMissing then .error (.refused cause q)
    else if fs.isDir path then .ok fs else .error (.refused cause q)
  | r => r

/-- Makes a directory and all that are missing above it; `lastFirst` are its steps, the last one
first. What has been made above stays if the directory itself cannot be made. -/
def ensureDirs (fs : Files) (root : String) : (lastFirst : List String) → Except Unfinished Files
  | [] => (fs.ensureDir (Path.render ⟨root, []⟩)).mapError (⟨·, fs⟩)
  | s :: above =>
    let path := Path.render ⟨root, (s :: above).reverse⟩
    match fs.ensureDir path with
    | .ok fs' => .ok fs'
    | .error e =>
      if e.isMissing then
        match ensureDirs fs root above with
        | .ok fs' => (fs'.ensureDir path).mapError (⟨·, fs'⟩)
        | .error u => .error u
      else .error ⟨e, fs⟩

/-- Makes a directory and all that are missing above it. -/
def makeDirs (fs : Files) (p : Path) : Except Unfinished Files :=
  fs.ensureDirs p.root p.steps.reverse

end Files

end LineShell
