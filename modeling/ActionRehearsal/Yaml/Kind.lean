/-!
# Kinds of nodes

The tag of a node says what its value is. The kind of a plain scalar without a tag follows from
its text, by the grammars below: booleans, numbers in several notations, null, dates and times,
and two special marks. A text in none of these forms is a text.
-/

set_option autoImplicit false

namespace ActionRehearsal.Yaml

/-- What a node is read as. -/
inductive Kind where
  | null
  | bool
  | int
  | float
  | binary
  | timestamp
  | orderedMap
  | pairs
  | set
  | text
  | sequence
  | mapping
  | merge
  | defaultValue
  | unknown
  deriving DecidableEq

/-- The common start of the tags of known kinds. -/
def coreTag : String := "tag:yaml.org,2002:"

/-- The known kinds by the end of their tags. -/
def kindNames : List (String × Kind) := [
  ("null", .null), ("bool", .bool), ("int", .int), ("float", .float), ("binary", .binary),
  ("timestamp", .timestamp), ("omap", .orderedMap), ("pairs", .pairs), ("set", .set),
  ("str", .text), ("seq", .sequence), ("map", .mapping), ("merge", .merge),
  ("value", .defaultValue)]

/-- The kind of a full tag. -/
def Kind.ofTag (tag : String) : Kind :=
  match kindNames.find? fun entry => coreTag ++ entry.1 == tag with
  | some entry => entry.2
  | none => .unknown

/-! ## Grammars of plain scalars -/

/-- The texts of booleans. -/
def boolTexts : List String := [
  "yes", "Yes", "YES", "no", "No", "NO", "true", "True", "TRUE", "false", "False", "FALSE",
  "on", "On", "ON", "off", "Off", "OFF"]

/-- The texts of null, the empty text apart. -/
def nullTexts : List String := ["~", "null", "Null", "NULL"]

/-- What follows an optional sign. -/
def afterSign : List Char → List Char
  | c :: s => if c = '-' || c = '+' then s else c :: s
  | [] => []

/-- A digit or an underscore. -/
def isDigitOrScore (c : Char) : Bool := c.isDigit || c = '_'

/-- A hexadecimal digit. -/
def isHexDigit (c : Char) : Bool :=
  c.isDigit || ('a' ≤ c && c ≤ 'f') || ('A' ≤ c && c ≤ 'F')

/-- A non-empty text of characters of one class. -/
def isRunOf (isMember : Char → Bool) (s : List Char) : Bool := !s.isEmpty && s.all isMember

/-- One or two digits, of which the first of two is at most five. -/
def isSixtieth : List Char → Bool
  | [b] => b.isDigit
  | [a, b] => '0' ≤ a && a ≤ '5' && b.isDigit
  | _ => false

/-- A digit other than those excluded, then digits and underscores. -/
def isGrouped (allowZero : Bool) : List Char → Bool
  | c :: s => c.isDigit && (allowZero || c != '0') && s.all isDigitOrScore
  | [] => false

/-- A whole number: binary, octal, decimal, hexadecimal, or in groups of base sixty. -/
def isIntText (s : List Char) : Bool :=
  match afterSign s with
  | '0' :: 'b' :: digits => isRunOf (fun c => c = '0' || c = '1' || c = '_') digits
  | '0' :: 'x' :: digits => isRunOf (fun c => isHexDigit c || c = '_') digits
  | ['0'] => true
  | '0' :: digits => digits.all fun c => ('0' ≤ c && c ≤ '7') || c = '_'
  | body => match body.splitOn ':' with
    | [] => false
    | first :: groups => isGrouped false first && groups.all isSixtieth

/-- The exponent of a floating-point number, which has a sign. -/
def isExponent : List Char → Bool
  | [] => true
  | e :: sign :: digits =>
    (e = 'e' || e = 'E') && (sign = '-' || sign = '+') && isRunOf Char.isDigit digits
  | _ => false

/-- The digits and underscores after a point, and an optional exponent. -/
def isFraction (s : List Char) : Bool := isExponent (s.dropWhile isDigitOrScore)

/-- A floating-point number: with a point and perhaps an exponent, in groups of base sixty,
infinite, or no number. -/
def isFloatText (s : List Char) : Bool :=
  let body := afterSign s
  let whole := body.takeWhile fun c => c != '.'
  match s, body, body.dropWhile fun c => c != '.' with
  | _, ['.', 'i', 'n', 'f'], _ => true
  | _, ['.', 'I', 'n', 'f'], _ => true
  | _, ['.', 'I', 'N', 'F'], _ => true
  | ['.', 'n', 'a', 'n'], _, _ => true
  | ['.', 'N', 'a', 'N'], _, _ => true
  | ['.', 'N', 'A', 'N'], _, _ => true
  | '.' :: c :: _, _, _ :: fraction => c.isDigit && isFraction fraction
  | _, _, _ :: fraction =>
    match whole.splitOn ':' with
    | [only] => isGrouped true only && isFraction fraction
    | first :: groups =>
      isGrouped true first && groups.all isSixtieth && fraction.all isDigitOrScore
    | [] => false
  | _, _, [] => false

/-! ## Dates and times -/

/-- The digits at the start of a text, at least `least` and at most `most` of them, with what
follows. -/
def digitGroup? (least most : Nat) (s : List Char) : Option (List Char × List Char) :=
  let run := (s.take most).takeWhile Char.isDigit
  if least ≤ run.length then some (run, s.drop run.length) else none

/-- What follows the character `c` at the start of a text. -/
def after? (c : Char) : List Char → Option (List Char)
  | d :: s => if d = c then some s else none
  | [] => none

/-- The parts of a date, as digits. -/
structure DateParts where
  year : List Char
  month : List Char
  day : List Char

/-- The parts of a time, as digits: the fraction may be empty, and the zone is a sign with hours
and minutes, or the letter for universal time with none. -/
structure TimeParts where
  hour : List Char
  minute : List Char
  second : List Char
  fraction : List Char
  zone : Option (Option (Bool × List Char × List Char))

/-- Reads a date with one or two digits for month and day. -/
def datePart? (s : List Char) : Option (DateParts × List Char) := do
  let (year, s) ← digitGroup? 4 4 s
  let (month, s) ← digitGroup? 1 2 (← after? '-' s)
  let (day, s) ← digitGroup? 1 2 (← after? '-' s)
  return (⟨year, month, day⟩, s)

/-- A space or a tab. -/
def isInlineBlank (c : Char) : Bool := c = ' ' || c = '\t'

/-- Reads what separates a date from a time: the letter `t`, or blanks. -/
def timeSeparator? : List Char → Option (List Char)
  | c :: s =>
    if c = 'T' || c = 't' then some s
    else if isInlineBlank c then some (s.dropWhile isInlineBlank)
    else none
  | [] => none

/-- Reads a zone, which ends the text. -/
def zonePart? (s : List Char) : Option (Option (Option (Bool × List Char × List Char))) :=
  match s, s.dropWhile isInlineBlank with
  | [], _ => some none
  | _, ['Z'] => some (some none)
  | _, sign :: s =>
    if sign = '-' || sign = '+' then do
      let (hour, s) ← digitGroup? 1 2 s
      match s with
      | [] => some (some (some (sign = '-', hour, [])))
      | ':' :: s =>
        let (minute, s) ← digitGroup? 2 2 s
        if s.isEmpty then some (some (some (sign = '-', hour, minute))) else none
      | _ => none
    else none
  | _, [] => none

/-- Reads a time, which ends the text. -/
def timePart? (s : List Char) : Option TimeParts := do
  let (hour, s) ← digitGroup? 1 2 s
  let (minute, s) ← digitGroup? 2 2 (← after? ':' s)
  let (second, s) ← digitGroup? 2 2 (← after? ':' s)
  let (fraction, s) := match s with
    | '.' :: s => (s.takeWhile Char.isDigit, s.dropWhile Char.isDigit)
    | s => ([], s)
  return ⟨hour, minute, second, fraction, ← zonePart? s⟩

/-- The parts of a date or of a date with a time. -/
def timestampParts? (s : List Char) : Option (DateParts × Option TimeParts) := do
  let (date, s) ← datePart? s
  if s.isEmpty then return (date, none)
  return (date, some (← timePart? (← timeSeparator? s)))

/-- A plain scalar that is a date or a time. A date alone has two digits for month and day. -/
def isTimestampText (s : List Char) : Bool :=
  match timestampParts? s with
  | some (date, none) => date.month.length == 2 && date.day.length == 2
  | some (_, some _) => true
  | none => false

/-- The text without a newline at its end. -/
def withoutLastNewline (s : List Char) : List Char :=
  if s.getLast? = some '\n' then s.dropLast else s

/-- The kind of a scalar that has no tag and is written plainly. -/
def Kind.ofPlain (text : String) : Kind :=
  let s := withoutLastNewline text.toList
  let word := String.ofList s
  if text = "" || nullTexts.contains word then .null
  else if boolTexts.contains word then .bool
  else if isFloatText s then .float
  else if isIntText s then .int
  else if word = "<<" then .merge
  else if isTimestampText s then .timestamp
  else if word = "=" then .defaultValue
  else if ["!", "&", "*"].contains word then .unknown
  else .text

end ActionRehearsal.Yaml
