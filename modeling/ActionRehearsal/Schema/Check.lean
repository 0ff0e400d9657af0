import ActionRehearsal.Definition.Basic
import ActionRehearsal.Number.Numeral
import ActionRehearsal.Text.Utf8
import ActionRehearsal.Value.Display
/-!
# Checking the shape of a value

A check reads a value as something more definite and collects everything that is wrong with it,
in order, each problem with its place. `both` and `all` put checks side by side and lose no
problem of either; `inside` says where in the whole a part lies.
-/

set_option autoImplicit false

namespace ActionRehearsal.Schema

/-- What is wrong at a place. -/
inductive Cause where
  | notText
  | notUtf8
  | notFlag
  | unreadableFlag
  | notTable
  | notList
  | notRecord (model : String)
  | keyNotText
  | unsupportedShell (shell : String)
  | oversizedInteger
  deriving DecidableEq

/-- The names of the shells as a list. -/
def shellList : String := bracketed "[" "]" (Shell.names.map Text.quoted)

/-- The wording of a cause. -/
def Cause.message : Cause → String
  | .notText => "Input should be a valid string"
  | .notUtf8 => "Input should be a valid string, unable to parse raw data as a unicode string"
  | .notFlag => "Input should be a valid boolean"
  | .unreadableFlag => "Input should be a valid boolean, unable to interpret input"
  | .notTable => "Input should be a valid dictionary"
  | .notList => "Input should be a valid list"
  | .notRecord model => "Input should be a valid dictionary or instance of " ++ model
  | .keyNotText => "Keys should be strings"
  | .unsupportedShell shell =>
    "Value error, unsupported shell " ++ Text.quoted shell ++ ", expected one of " ++ shellList
  | .oversizedInteger =>
    "Value error, Exceeds the limit (" ++ toString Number.digitLimit
      ++ " digits) for integer string conversion; use sys.set_int_max_str_digits() to increase the limit"

/-- A problem: the way to its place from the whole, and what is wrong there. -/
structure Problem where
  place : List String
  cause : Cause
  deriving DecidableEq

/-- One or more problems, in order. -/
structure Problems where
  first : Problem
  more : List Problem
  deriving DecidableEq

namespace Problems

/-- The problems as a list. -/
def toList (p : Problems) : List Problem := p.first :: p.more

/-- The problems of two parts. -/
def append (p q : Problems) : Problems := ⟨p.first, p.more ++ q.toList⟩

/-- The problems of the part at a place, as problems of the whole. -/
def inside (place : String) (p : Problems) : Problems :=
  let moved := fun (problem : Problem) => { problem with place := place :: problem.place }
  ⟨moved p.first, p.more.map moved⟩

end Problems

/-- What a check finds. -/
abbrev Checked (α : Type) : Type := Except Problems α

namespace Checked

/-- A single problem with the whole. -/
def refused {α : Type} (cause : Cause) : Checked α := .error ⟨⟨[], cause⟩, []⟩

/-- Two checks side by side. -/
def both {α β : Type} (a : Checked α) (b : Checked β) : Checked (α × β) :=
  match a, b with
  | .ok a, .ok b => .ok (a, b)
  | .ok _, .error q => .error q
  | .error p, .ok _ => .error p
  | .error p, .error q => .error (p.append q)

/-- All checks of a list side by side. -/
def all {α : Type} : List (Checked α) → Checked (List α)
  | [] => .ok []
  | a :: rest => (both a (all rest)).map fun found => found.1 :: found.2

/-- A check of the part at a place. -/
def inside {α : Type} (place : String) (check : Checked α) : Checked α :=
  check.mapError (Problems.inside place)

/-- Two checks of which the second needs the result of the first. -/
def andThen {α β : Type} (a : Checked α) (next : α → Checked β) : Checked β :=
  match a with
  | .ok a => next a
  | .error p => .error p

end Checked

open Checked

/-! ## Scalars -/

/-- Whether the decimal text of a whole number has too many digits to be written. -/
def isOversized (n : Int) : Bool := Nat.pow 10 Number.digitLimit ≤ n.natAbs

/-- The name of a key as a place. Booleans count as numbers there. -/
def keyPlace : Scalar → String
  | .text s => s
  | .bool b => if b then "1" else "0"
  | .int n => if isOversized n then "<unprintable int object>" else toString n
  | key => key.expression

/-- A text; bytes count as the text that they encode. -/
def text : Value → Checked String
  | .text s => .ok s
  | .bytes bs => match Text.decodeUtf8? bs with
    | some s => .ok s
    | none => refused .notUtf8
  | _ => refused .notText

/-- The texts of true, in lower case. -/
def trueTexts : List String := ["1", "on", "t", "true", "y", "yes"]

/-- The texts of false, in lower case. -/
def falseTexts : List String := ["0", "off", "f", "false", "n", "no"]

/-- A flag by its text, in any case. -/
def flagOfText (s : String) : Checked Bool :=
  let word := String.ofList (s.toList.map Char.toLower)
  if trueTexts.contains word then .ok true
  else if falseTexts.contains word then .ok false
  else refused .unreadableFlag

/-- A flag by a number: one or zero. -/
def flagOfNumber? (n : Int) : Option Bool :=
  if n = 1 then some true else if n = 0 then some false else none

/-- Whether a whole number fits in 64 bits with a sign. -/
def fitsWord (n : Int) : Bool := -(Nat.pow 2 63 : Int) ≤ n && n < (Nat.pow 2 63 : Int)

/-- Whether a number is whole and lies strictly between the ends of the range of 64 bits with a
sign. -/
def isWordFloat (x : Number.Binary64) : Bool :=
  x.toInt?.any fun n => -(Nat.pow 2 63 : Int) < n && n < (Nat.pow 2 63 : Int)

/-- A flag: a boolean, the numbers one and zero, or a text that says so. -/
def flag : Value → Checked Bool
  | .bool b => .ok b
  | .text s => flagOfText s
  | .bytes bs => match Text.decodeUtf8? bs with
    | some s => flagOfText s
    | none => refused .unreadableFlag
  | .int n => match flagOfNumber? n with
    | some b => .ok b
    -- a number that fits no word is not even looked at
    | none => refused (if fitsWord n then .unreadableFlag else .notFlag)
  | .float x => match x.toInt?.bind flagOfNumber? with
    | some b => .ok b
    | none => refused (if isWordFloat x then .unreadableFlag else .notFlag)
  | _ => refused .notFlag

/-- Numbers and booleans as text, as they were most likely meant; other values stay. -/
def stringified : Value → Checked Value
  | .bool b => .ok (.text (if b then "true" else "false"))
  | .int n => if isOversized n then refused .oversizedInteger else .ok (.text (toString n))
  | .float x => .ok (.text x.text)
  | v => .ok v

/-- A text, a number or a boolean, as text. -/
def looseText (v : Value) : Checked String := (stringified v).andThen text

/-- Whether a scalar is a whole number that cannot be written. -/
def isUnwritable : Scalar → Bool
  | .int n => isOversized n
  | _ => false

mutual

/-- Whether a value holds a whole number that cannot be written. -/
def holdsUnwritable : Value → Bool
  | .scalar s => isUnwritable s
  | .list items | .tuple items => anyHoldsUnwritable items
  | .set members => members.any isUnwritable
  | .map entries => entriesHoldUnwritable entries

/-- Whether some item of a list holds a whole number that cannot be written. -/
def anyHoldsUnwritable : List Value → Bool
  | [] => false
  | v :: rest => holdsUnwritable v || anyHoldsUnwritable rest

/-- Whether some key or value holds a whole number that cannot be written. -/
def entriesHoldUnwritable : List (Scalar × Value) → Bool
  | [] => false
  | (k, v) :: rest => isUnwritable k || holdsUnwritable v || entriesHoldUnwritable rest

end

/-- The text of a key or of a list item, whatever it is. -/
def displayed (v : Value) : Checked String :=
  if holdsUnwritable v then refused .oversizedInteger else .ok v.display

/-! ## Collections -/

/-- Null, or what the check reads. -/
def optional {α : Type} (check : Value → Checked α) : Value → Checked (Option α)
  | .null => .ok none
  | v => (check v).map some

/-- The checks of the items of a list, each inside its number. -/
def itemsFrom {α : Type} (check : Value → Checked α) (n : Nat) : List Value → List (Checked α)
  | [] => []
  | v :: rest => (check v).inside (toString n) :: itemsFrom check (n + 1) rest

/-- A list; tuples and sets count as lists. -/
def listOf {α : Type} (check : Value → Checked α) : Value → Checked (List α)
  | .list items => all (itemsFrom check 0 items)
  | .tuple items => all (itemsFrom check 0 items)
  | .set members => all (itemsFrom check 0 (members.map .scalar))
  | _ => refused .notList

/-- A table with texts as keys. -/
def tableOf {α : Type} (check : Value → Checked α) : Value → Checked (Table String α)
  | .map entries =>
    (all (entries.map fun entry =>
      both ((text (.scalar entry.1)).inside "[key]" |>.inside (keyPlace entry.1))
        ((check entry.2).inside (keyPlace entry.1)))).map Table.ofList
  | _ => refused .notTable

/-! ## Records -/

/-- The content of a record with its entries of other names. -/
structure Noted (α : Type) where
  content : α
  extra : Table String Value

/-- The first of the names under which a field is given, with its value. -/
def given? (entries : Mapping) : List String → Option (String × Value)
  | [] => none
  | name :: names => match Entries.get? entries (Scalar.text name) with
    | some v => some (name, v)
    | none => given? entries names

/-- A field: what the check reads at the first name under which the field is given, or the
default. -/
def field {α : Type} (entries : Mapping) (names : List String) (default : α)
    (check : Value → Checked α) : Checked α :=
  match given? entries names with
  | some (name, v) => (check v).inside name
  | none => .ok default

/-- The names under which fields are given, of a list of fields with their names. -/
def givenNames (entries : Mapping) (fields : List (List String)) : List String :=
  fields.filterMap fun names => (given? entries names).map (·.1)

/-- The entries whose names are not those of given fields. Every key is a text. -/
def extras (entries : Mapping) (fields : List (List String)) : Checked (Table String Value) :=
  let used := givenNames entries fields
  (all (entries.map fun entry => match entry.1 with
    | .text name => .ok (if used.contains name then none else some (name, entry.2))
    | key => (refused .keyNotText).inside (keyPlace key))).map fun found =>
    Table.ofList (found.filterMap id)

/-- A record: a mapping whose fields the check reads and whose other entries are noted. -/
def recordOf {α : Type} (model : String) (fields : List (List String))
    (check : Mapping → Checked α) : Value → Checked (Noted α)
  | .map entries =>
    (both (check entries) (extras entries fields)).map fun found => ⟨found.1, found.2⟩
  | _ => refused (.notRecord model)

end ActionRehearsal.Schema
