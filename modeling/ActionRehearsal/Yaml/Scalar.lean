import ActionRehearsal.Text.Base64
import ActionRehearsal.Text.Lowercase
import ActionRehearsal.Value.Basic
import ActionRehearsal.Yaml.Fault
import ActionRehearsal.Yaml.Kind
/-!
# Values of scalars

Each kind of scalar has a reader from its text. Underscores in numbers count for nothing. A text
that is tagged or written as a boolean, a number or a date need not stand for one, and then reading
breaks down.
-/

set_option autoImplicit false

namespace ActionRehearsal.Yaml

open ActionRehearsal.Number ActionRehearsal.Calendar

/-- A boolean by its text, in any case. -/
def boolValue (s : List Char) : Except Fault Value :=
  let word := String.ofList (Text.smallLetters s)
  if ["yes", "true", "on"].contains word then .ok (.bool true)
  else if ["no", "false", "off"].contains word then .ok (.bool false)
  else breakOff (.noBoolean word)

/-- A whole number in a base, or the fault. -/
def integer (base : Nat) (s : List Char) : Except Fault Int :=
  (readInteger base s).mapError fun fault => .breakdown (.numeral fault)

/-- A whole number in groups of base sixty. -/
def sexagesimal (s : List Char) : Except Fault Int := do
  let groups ← (s.splitOn ':').mapM (integer 10)
  return groups.foldl (fun value group => value * 60 + group) 0

/-- The magnitude of a whole number: after the mark of a base, after a zero in base eight, in
groups of base sixty, or in base ten. -/
def magnitude (s : List Char) : Except Fault Int :=
  match s with
  | [] => breakOff .noCharacter
  | ['0'] => .ok 0
  | '0' :: 'b' :: digits => integer 2 digits
  | '0' :: 'x' :: digits => integer 16 digits
  | '0' :: _ => integer 8 s
  | _ => if s.contains ':' then sexagesimal s else integer 10 s

/-- A whole number by its text. -/
def intValue (s : List Char) : Except Fault Value :=
  let s := s.filter (· != '_')
  match s with
  | [] => breakOff .noCharacter
  | '-' :: _ => (magnitude (afterSign s)).map fun n => .int (-n)
  | _ => (magnitude (afterSign s)).map .int

/-- A floating-point number by its text, or the fault. -/
def binary64 (s : List Char) : Except Fault Binary64 :=
  (readBinary64 s).mapError fun fault => .breakdown (.numeral fault)

/-- The sum of groups of base sixty, the last one first, the next standing for `base` units. -/
def sexagesimalSum (base : Nat) (value : Binary64) : List Binary64 → Except Fault Binary64
  | [] => .ok value
  | group :: groups => match Binary64.ofNat base with
    | .infinite _ => breakOff .hugeUnit
    | unit => sexagesimalSum (base * 60) (value.add (group.mul unit)) groups

/-- The undefined number that stands for all that are written `.nan`. -/
def commonNan : Binary64 := .nan 1

/-- The magnitude of a floating-point number. -/
def floatMagnitude (s : List Char) : Except Fault Binary64 := do
  if s = ['.', 'i', 'n', 'f'] then return .infinite false
  if s = ['.', 'n', 'a', 'n'] then return commonNan
  if s.contains ':' then
    let groups ← (s.splitOn ':').mapM binary64
    return ← sexagesimalSum 1 (.zeroOf false) groups.reverse
  binary64 s

/-- A floating-point number by its text. -/
def floatValue (s : List Char) : Except Fault Value :=
  let s := Text.smallLetters (s.filter (· != '_'))
  match s with
  | [] => breakOff .noCharacter
  | '-' :: _ => (floatMagnitude (afterSign s)).map fun x => .float x.negate
  | _ => (floatMagnitude (afterSign s)).map .float

/-- Bytes by their Base64 text. -/
def binaryValue (s : List Char) : Except Fault Value :=
  if s.all fun c => c.toNat < 0x80 then
    match Text.decodeBase64? s with
    | some bytes => .ok (.bytes bytes)
    | none => .error (.malformed .badBinary)
  else .error (.malformed .badBinary)

/-- The number that decimal digits stand for. -/
def digitsValue (s : List Char) : Nat :=
  s.foldl (fun value c => value * 10 + (c.toNat - '0'.toNat)) 0

/-- The microseconds of a fraction of a second: its first six digits. -/
def microseconds (fraction : List Char) : Nat :=
  let digits := fraction.take 6
  digitsValue (digits ++ List.replicate (6 - digits.length) '0')

/-- The offset of a zone in minutes. -/
def zoneOffset : Option (Bool × List Char × List Char) → Int
  | none => 0
  | some (negative, hour, minute) =>
    let minutes : Int := digitsValue hour * 60 + digitsValue minute
    if negative then -minutes else minutes

/-- What is made of a calendar, as a value, or the fault. -/
def calendarValue {α : Type} (scalar : α → Scalar) (made : Except CalendarFault α) :
    Except Fault Value :=
  match made with
  | .ok a => .ok (.scalar (scalar a))
  | .error fault => breakOff (.calendar fault)

/-- A date or a time by its text. -/
def timestampValue (s : List Char) : Except Fault Value :=
  match timestampParts? (withoutLastNewline s) with
  | none => breakOff .noTimestamp
  | some (date, none) => calendarValue .date
    (Date.make (digitsValue date.year) (digitsValue date.month) (digitsValue date.day))
  | some (date, some time) => calendarValue .moment
    (Moment.make (digitsValue date.year) (digitsValue date.month) (digitsValue date.day)
      (digitsValue time.hour) (digitsValue time.minute) (digitsValue time.second)
      (microseconds time.fraction) (time.zone.map zoneOffset))

/-- The value of a scalar of the kind. The kinds of collections and marks have no scalars. -/
def scalarValue (kind : Kind) (text : String) : Except Fault Value :=
  match kind with
  | .null => .ok .null
  | .bool => boolValue text.toList
  | .int => intValue text.toList
  | .float => floatValue text.toList
  | .binary => binaryValue text.toList
  | .timestamp => timestampValue text.toList
  | .text => .ok (.text text)
  | .sequence | .mapping | .set | .orderedMap | .pairs => .error (.malformed .wrongKind)
  | .merge | .defaultValue | .unknown => .error (.malformed .unknownTag)

end ActionRehearsal.Yaml
