/-!
# Tags

The tag of a node says what kind of value it makes. A plain scalar without a tag gets one from its
text (`Tag.ofPlain`): the words for truth and for nothing, numbers in several notations, days and
times, and two marks that have a meaning in mappings. Any other text is just a text.
-/

namespace LineShell.Yaml

/-- The kinds of values that nodes make. -/
inductive Tag where
  | null
  | bool
  | int
  | float
  | binary
  | timestamp
  | omap
  | pairs
  | set
  | str
  | seq
  | map
  | merge
  | value
  | other (name : List Char)
deriving DecidableEq, Repr

namespace Tag

/-- The kinds that have names of their own. -/
def known : List (String × Tag) := [("null", null), ("bool", bool), ("int", int), ("float", float),
  ("binary", binary), ("timestamp", timestamp), ("omap", omap), ("pairs", pairs), ("set", set),
  ("str", str), ("seq", seq), ("map", map), ("merge", merge), ("value", value)]

/-- What the names of all known kinds begin with. -/
def known.lead : List Char := "tag:yaml.org,2002:".toList

/-- The kind that a full name stands for. -/
def ofName (name : List Char) : Tag :=
  if known.lead.isPrefixOf name then
    match known.lookup (String.ofList (name.drop known.lead.length)) with
    | some t => t
    | none => other name
  else other name

/-! ## Numbers -/

/-- The text without a sign in front. -/
def dropSign : List Char → List Char
  | '+' :: cs => cs
  | '-' :: cs => cs
  | cs => cs

/-- Whether a character is a digit or an underscore. -/
def isDigitLike (c : Char) : Bool := c.isDigit || c == '_'

/-- Whether a text is not empty and has only such characters. -/
def allOf (p : Char → Bool) (cs : List Char) : Bool := !cs.isEmpty && cs.all p

/-- Cuts a text at a character. -/
def cutAt (x : Char) : List Char → List (List Char)
  | [] => [[]]
  | c :: cs =>
    if c = x then [] :: cutAt x cs
    else match cutAt x cs with
      | [] => [[c]]
      | s :: ss => (c :: s) :: ss

/-- Whether a text is a number below sixty with at most two digits. -/
def isSixtieth : List Char → Bool
  | [c] => c.isDigit
  | [c, d] => '0' ≤ c && c ≤ '5' && d.isDigit
  | _ => false

/-- Whether a text begins with a digit and goes on with digits and underscores. -/
def isDigits : List Char → Bool
  | c :: cs => c.isDigit && cs.all isDigitLike
  | [] => false

/-- Whether a text is a whole number without a sign: binary, octal, decimal, hexadecimal, or in
sixtieths. -/
def isWhole (cs : List Char) : Bool :=
  match cs with
  | '0' :: 'b' :: rest => allOf (fun c => c == '0' || c == '1' || c == '_') rest
  | '0' :: 'x' :: rest =>
    allOf (fun c => isDigitLike c || ('a' ≤ c && c ≤ 'f') || ('A' ≤ c && c ≤ 'F')) rest
  | '0' :: rest => rest.all fun c => ('0' ≤ c && c ≤ '7') || c == '_'
  | _ =>
    match cutAt ':' cs with
    | first :: more => isDigits first && more.all isSixtieth
    | [] => false

/-- Whether a text is empty or an exponent with a sign. -/
def isExponent : List Char → Bool
  | [] => true
  | e :: s :: ds => (e == 'e' || e == 'E') && (s == '+' || s == '-') && allOf Char.isDigit ds
  | _ => false

/-- Whether a text is a fraction: digits, and perhaps an exponent. -/
def isFraction (cs : List Char) : Bool := isExponent (cs.dropWhile isDigitLike)

/-- Whether a text is the word for infinity. -/
def isInfinite (cs : List Char) : Bool :=
  [".inf", ".Inf", ".INF"].contains (String.ofList cs)

/-- Whether a text is a float. -/
def isFloat (cs : List Char) : Bool :=
  [".nan", ".NaN", ".NAN"].contains (String.ofList cs) || isInfinite (dropSign cs) ||
    match cs with
    | '.' :: d :: rest => d.isDigit && isFraction rest
    | _ =>
      let body := dropSign cs
      let whole := body.takeWhile (· != '.')
      match body.drop whole.length with
      | '.' :: fraction =>
        match cutAt ':' whole with
        | [ds] => isDigits ds && isFraction fraction
        | first :: more => isDigits first && more.all isSixtieth && fraction.all isDigitLike
        | [] => false
      | _ => false

/-! ## Days and times -/

/-- The numbers of a day, and of a time with its fraction and its offset, as they are written. -/
structure TimeText where
  year : List Char
  month : List Char
  day : List Char
  clock : Option (List Char × List Char × List Char) := none
  fraction : List Char := []
  /-- Whether there is an offset, its sign, hours and minutes. -/
  zone : Option (Option Char × List Char × List Char) := none

/-- Reads between `least` and `most` digits. -/
def takeDigits (least most : Nat) (cs : List Char) : Option (List Char × List Char) :=
  let ds := (cs.take most).takeWhile Char.isDigit
  if ds.length < least then none else some (ds, cs.drop ds.length)

/-- Reads a character. -/
def takeChar (c : Char) : List Char → Option (List Char)
  | x :: cs => if x = c then some cs else none
  | [] => none

/-- Reads an offset up to the end of the text. -/
def readZone (t : TimeText) (cs : List Char) : Option TimeText :=
  match cs.dropWhile (fun c => c == ' ' || c == '\t') with
  | [] => if cs.isEmpty then some t else none
  | ['Z'] => some { t with zone := some (none, [], []) }
  | s :: rest =>
    if s == '+' || s == '-' then do
      let (h, rest) ← takeDigits 1 2 rest
      match rest with
      | [] => some { t with zone := some (some s, h, []) }
      | _ =>
        let rest ← takeChar ':' rest
        let (m, rest) ← takeDigits 2 2 rest
        if rest.isEmpty then some { t with zone := some (some s, h, m) } else none
    else none

/-- Reads a fraction of a second, if one is here, and what follows it. -/
def readFraction (t : TimeText) (cs : List Char) : Option TimeText :=
  match cs with
  | '.' :: rest =>
    readZone { t with fraction := rest.takeWhile Char.isDigit } (rest.dropWhile Char.isDigit)
  | _ => readZone t cs

/-- Reads a time of day, up to the end of the text. -/
def readClock (t : TimeText) (cs : List Char) : Option TimeText := do
  let (h, rest) ← takeDigits 1 2 cs
  let (m, rest) ← takeDigits 2 2 (← takeChar ':' rest)
  let (s, rest) ← takeDigits 2 2 (← takeChar ':' rest)
  readFraction { t with clock := some (h, m, s) } rest

/-- Reads a day, and a time of day if one follows. -/
def readTime (cs : List Char) : Option TimeText := do
  let (y, rest) ← takeDigits 4 4 cs
  let (m, rest) ← takeDigits 1 2 (← takeChar '-' rest)
  let (d, rest) ← takeDigits 1 2 (← takeChar '-' rest)
  let t : TimeText := { year := y, month := m, day := d }
  match rest with
  | [] => some t
  | c :: more =>
    if c == 'T' || c == 't' then readClock t more
    else if c == ' ' || c == '\t' then
      readClock t (more.dropWhile fun c => c == ' ' || c == '\t')
    else none

/-- Whether a plain text is a day or a time. A day alone has two digits for month and day. -/
def isTime (cs : List Char) : Bool :=
  match readTime cs with
  | some t => t.clock.isSome || (t.month.length == 2 && t.day.length == 2)
  | none => false

/-! ## Words -/

/-- The words for yes. -/
def yesWords : List String :=
  ["yes", "Yes", "YES", "true", "True", "TRUE", "on", "On", "ON"]

/-- The words for no. -/
def noWords : List String :=
  ["no", "No", "NO", "false", "False", "FALSE", "off", "Off", "OFF"]

/-- The words for nothing. -/
def nullWords : List String := ["", "~", "null", "Null", "NULL"]

/-- A text without a line feed at its end. -/
def dropFinalFeed (cs : List Char) : List Char :=
  if cs.getLast? == some '\n' then cs.dropLast else cs

/-- The marks that a plain scalar cannot begin with have a kind that nothing else has, and that
makes no value. -/
def marks : List String := ["!", "&", "*"]

/-- The name of the kind of those marks. -/
def markTag : Tag := .other (known.lead ++ "yaml".toList)

/-- The kind of a text that counts as plain. A line feed at its end does not matter, unless it is
all there is. -/
def ofPlain (text : List Char) : Tag :=
  let cs := if text = ['\n'] then text else dropFinalFeed text
  let s := String.ofList cs
  if yesWords.contains s || noWords.contains s then bool
  else if nullWords.contains s then null
  else if isFloat cs then float
  else if isWhole (dropSign cs) then int
  else if s = "<<" then merge
  else if isTime cs then timestamp
  else if s = "=" then value
  else if marks.contains s then markTag
  else str

end Tag

end LineShell.Yaml
