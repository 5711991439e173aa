import LineShell.Options.Help
import LineShell.Text.Digits
import LineShell.Text.LetterCase
import LineShell.Text.Quoted

/-!
# Reading the command line

First each argument is looked at by itself (`classify`): it names an option, possibly cut short and
with a text attached, or it does not. Behind two dashes nothing names an option. Then the arguments
are consumed from left to right (`consume`): an option that takes a text takes the one attached or
the next argument, short options that take none may share a dash, and what no option wants is left
over.

A name that is cut short must fit one option only. Whatever names no option but begins with a dash
is left over as well, unless it is a negative number or holds a blank: then it can be taken by the
option before it.
-/

namespace LineShell.Options

/-! ## What can go wrong -/

/-- What can be wrong with a command line. -/
inductive Fault where
  /-- A name that was cut short fits several names. -/
  | ambiguous (argument : String) (names : List String)
  /-- An option takes a text, and there is none. -/
  | noOperand (o : Opt)
  /-- An option takes no text, and there is one. -/
  | ignored (o : Opt) (text : String)
  /-- There is no such level. -/
  | badLevel (name : String)
  /-- Nobody wants these arguments. -/
  | leftOver (arguments : List String)
deriving DecidableEq, Repr

/-- The fault in words. -/
def Fault.message : Fault → String
  | ambiguous argument names =>
    s!"ambiguous option: {argument} could match " ++ ", ".intercalate names
  | noOperand o => s!"argument {o.title}: expected one argument"
  | ignored o text => s!"argument {o.title}: ignored explicit argument " ++ Text.quoted text
  | badLevel name => s!"argument {Opt.logLevel.title}: invalid choice: " ++ Text.quoted name ++
      " (choose from " ++ ", ".intercalate (Opt.levelNames.map Text.quoted) ++ ")"
  | leftOver arguments => "unrecognized arguments: " ++ " ".intercalate arguments

/-- Why the program ends before it begins. -/
inductive Stop where
  | help
  | fault (f : Fault)
deriving DecidableEq, Repr

namespace Stop

/-- The status that the program ends with. -/
def status : Stop → Nat
  | help => 0
  | fault _ => 2

/-- What it writes. -/
def output : Stop → String
  | help => helpText
  | fault _ => ""

/-- What it reports. -/
def errors : Stop → String
  | help => ""
  | fault f => usage ++ s!"{programName}: error: {f.message}\n"

end Stop

/-! ## Single arguments -/

/-- An option as an argument names it. -/
structure Named where
  opt : Opt
  /-- Whether it is named by a word, not by a letter. -/
  long : Bool
  /-- The text attached to the name. -/
  attached : Option (List Char)
deriving DecidableEq, Repr

/-- What an argument is. -/
inductive Mark where
  | option (n : Named)
  /-- It looks like an option, but there is none. -/
  | unknown
  | plain
  /-- Two dashes. -/
  | separator
deriving DecidableEq, Repr

/-- Whether a name is a word behind two dashes. -/
def isLong (name : String) : Bool := "--".isPrefixOf name

/-- The text up to the first equals sign, and what follows it. -/
def cutAtEquals : List Char → List Char × Option (List Char)
  | [] => ([], none)
  | c :: cs =>
    if c = '=' then ([], some cs)
    else
      let (name, text) := cutAtEquals cs
      (c :: name, text)

/-- Whether a text is a negative number. -/
def isNegativeNumber : List Char → Bool
  | '-' :: cs =>
    let cs := if cs.getLast? = some '\n' then cs.dropLast else cs
    let isDigit (c : Char) : Bool := (Text.digitOf? c).isSome
    match cs.dropWhile isDigit with
    | [] => !cs.isEmpty
    | '.' :: ds => !ds.isEmpty && ds.all isDigit
    | _ => false
  | _ => false

/-- The names that an argument can be short for, with the text attached to it. -/
def candidates (cs : List Char) : List (String × Named) :=
  match cs with
  | '-' :: '-' :: _ =>
    let (name, text) := cutAtEquals cs
    (Opt.named.filter fun p => (String.ofList name).isPrefixOf p.1).map fun (n, o) =>
      (n, ⟨o, isLong n, text⟩)
  | '-' :: c :: text =>
    (Opt.named.filter fun p => p.1 == String.ofList ['-', c]).map fun (n, o) =>
      (n, ⟨o, false, some text⟩)
  | _ => []

/-- An argument that names an option in full. -/
def inFull? (arg : String) : Option Named :=
  let full := (Opt.ofName? arg).map fun o => Named.mk o (isLong arg) none
  full.or <|
    let (name, text) := cutAtEquals arg.toList
    text.bind fun t =>
      (Opt.ofName? (String.ofList name)).map fun o => ⟨o, isLong (String.ofList name), some t⟩

/-- What an argument is, by itself. -/
def classify (arg : String) : Except Fault Mark :=
  let cs := arg.toList
  if cs.head? ≠ some '-' then .ok .plain
  else match inFull? arg with
    | some n => .ok (.option n)
    | none =>
      if cs.length = 1 then .ok .plain
      else match candidates cs with
        | [(_, n)] => .ok (.option n)
        | [] => .ok (if isNegativeNumber cs || cs.contains ' ' then .plain else .unknown)
        | several => .error (.ambiguous arg (several.map Prod.fst))

/-- What all the arguments are. -/
def classifyAll : List String → Except Fault (List (String × Mark))
  | [] => .ok []
  | arg :: args =>
    if arg = "--" then .ok ((arg, .separator) :: args.map (·, .plain))
    else match classify arg with
      | .error f => .error f
      | .ok m => (classifyAll args).map ((arg, m) :: ·)

/-! ## All arguments -/

/-- The options that share a dash: those that take no text, and the last one with the text that is
attached to it. -/
structure Cluster where
  flags : List Opt
  last : Opt
  attached : Option (List Char)
deriving DecidableEq, Repr

/-- The options that an option and the text attached to it are. -/
def clusterOf (long : Bool) (o : Opt) : List Char → Except Fault Cluster
  | [] => if o.takesOperand then .ok ⟨[], o, some []⟩ else .error (.ignored o "")
  | c :: cs =>
    if o.takesOperand then .ok ⟨[], o, some (c :: cs)⟩
    else if long then .error (.ignored o (String.ofList (c :: cs)))
    else match Opt.ofName? (String.ofList ['-', c]) with
      | none => .error (.ignored o (String.ofList (c :: cs)))
      | some p =>
        if cs.isEmpty then .ok ⟨[o], p, none⟩
        else (clusterOf false p cs).map fun k => { k with flags := o :: k.flags }

/-- The options that an argument names. -/
def Named.cluster (n : Named) : Except Fault Cluster :=
  match n.attached with
  | none => .ok ⟨[], n.opt, none⟩
  | some text => clusterOf n.long n.opt text

/-- Takes note of an option that takes no text. -/
def setFlag (o : Opt) (opts : Options) : Except Stop Options :=
  match o with
  | .help => .error .help
  | .runAsync => .ok { opts with runAsync := true }
  | .printLines => .ok { opts with printLines := true }
  | .noBuiltins => .ok { opts with noBuiltins := true }
  | .verbose => .ok { opts with verbose := true }
  | .quiet => .ok { opts with quiet := true }
  | _ => .ok opts

/-- The level that a text chooses. -/
def levelOf : Operand → Except Fault Operand
  | .nothing => .ok .nothing
  | .text s =>
    let name := Text.upper s
    if Opt.levelNames.contains name then .ok (.text name) else .error (.badLevel name)

/-- Takes note of an option and its text. -/
def setOperand (o : Opt) (x : Operand) (opts : Options) : Except Stop Options :=
  match o with
  | .config => .ok { opts with config := some x }
  | .createConfig => .ok { opts with createConfig := some x }
  | .saveConfig => .ok { opts with saveConfig := some x }
  | .prompt => .ok { opts with prompt := some x }
  | .script => .ok { opts with script := some x }
  | .definition => .ok { opts with definitions := opts.definitions ++ [x] }
  | .logLevel =>
    match levelOf x with
    | .ok l => .ok { opts with logLevel := some l }
    | .error f => .error (.fault f)
  | _ => .ok opts

/-- Takes note of options that take no text, one after the other. -/
def setFlags : List Opt → Options → Except Stop Options
  | [], opts => .ok opts
  | o :: os, opts => (setFlag o opts).bind (setFlags os)

/-- Takes note of the options of a cluster; `text` is what the last one takes. -/
def Cluster.set (k : Cluster) (text : Option String) (opts : Options) : Except Stop Options :=
  (setFlags k.flags opts).bind fun opts =>
    match text with
    | none => setFlag k.last opts
    | some t => setOperand k.last (.ofString t) opts

/-- What was given, and what is left over. -/
structure Consumed where
  options : Options
  leftOver : List String
deriving DecidableEq, Repr

/-- Consumes arguments from left to right. -/
def consume (acc : Consumed) : List (String × Mark) → Except Stop Consumed
  | [] => .ok acc
  | (_, .option n) :: rest =>
    match n.cluster with
    | .error f => .error (.fault f)
    | .ok k =>
      let go (text : Option String) : Except Stop Consumed :=
        (k.set text acc.options).map fun opts => { acc with options := opts }
      match k.attached with
      | some t =>
        match go (some (String.ofList t)) with
        | .error s => .error s
        | .ok acc => consume acc rest
      | none =>
        if k.last.takesOperand then
          match rest with
          | (arg, .plain) :: rest' =>
            match go (some arg) with
            | .error s => .error s
            | .ok acc => consume acc rest'
          | _ => .error (.fault (.noOperand k.last))
        else
          match go none with
          | .error s => .error s
          | .ok acc => consume acc rest
  | (arg, _) :: rest => consume { acc with leftOver := acc.leftOver ++ [arg] } rest

/-- Reads a command line. -/
def parse (args : List String) : Except Stop Options :=
  match classifyAll args with
  | .error f => .error (.fault f)
  | .ok marks =>
    match consume ⟨{}, []⟩ marks with
    | .error s => .error s
    | .ok ⟨opts, []⟩ => .ok opts
    | .ok ⟨_, leftOver⟩ => .error (.fault (.leftOver leftOver))

end LineShell.Options
