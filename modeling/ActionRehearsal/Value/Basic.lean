import ActionRehearsal.Calendar.Basic
import ActionRehearsal.Number.Binary64
import ActionRehearsal.Entries
/-!
# Values

A `Value` is what a document holds once it is loaded: scalars, lists, mappings, and the tuples
and sets that some tags build. The keys of a mapping and the members of a set are scalars, which
are compared by meaning: whole numbers, floating-point numbers and booleans that are equal as
numbers are the same key. Undefined numbers are the same key only if they carry the same mark.
-/

set_option autoImplicit false

namespace ActionRehearsal

open ActionRehearsal.Number ActionRehearsal.Calendar

/-- A value without parts. -/
inductive Scalar where
  | null
  | bool (b : Bool)
  | int (n : Int)
  | float (x : Binary64)
  | text (s : String)
  | bytes (bs : List UInt8)
  | date (d : Date)
  | moment (m : Moment)
  deriving DecidableEq

/-- A loaded value. -/
inductive Value where
  | scalar (s : Scalar)
  | list (items : List Value)
  | map (entries : List (Scalar × Value))
  | tuple (items : List Value)
  | set (members : List Scalar)

/-- A mapping as it is loaded, by its entries. -/
abbrev Mapping : Type := List (Scalar × Value)

namespace Scalar

/-- The scalar, which gets the mark if it is an undefined number without one. -/
def marked (mark : Nat) : Scalar → Scalar
  | .float x => .float (x.marked mark)
  | s => s

/-- The number that a scalar counts as when keys are compared. -/
def asBinary64? : Scalar → Option (Int ⊕ Binary64)
  | .bool b => some (.inl (if b then 1 else 0))
  | .int n => some (.inl n)
  | .float x => match x.toInt? with
    | some n => some (.inl n)
    | none => some (.inr x)
  | _ => none

/-- Whether two scalars are the same key. -/
def sameKey (a b : Scalar) : Bool :=
  match a, b with
  | .moment p, .moment q => p.same q
  | a, b => match a.asBinary64?, b.asBinary64? with
    | some (.inl m), some (.inl n) => m == n
    | some (.inr x), some (.inr y) => x == y
    | none, none => decide (a = b)
    | _, _ => false

instance : BEq Scalar := ⟨sameKey⟩

end Scalar

namespace Value

/-- The null value. -/
@[match_pattern] abbrev null : Value := .scalar .null

/-- A boolean. -/
@[match_pattern] abbrev bool (b : Bool) : Value := .scalar (.bool b)

/-- A whole number. -/
@[match_pattern] abbrev int (n : Int) : Value := .scalar (.int n)

/-- A floating-point number. -/
@[match_pattern] abbrev float (x : Binary64) : Value := .scalar (.float x)

/-- A text. -/
@[match_pattern] abbrev text (s : String) : Value := .scalar (.text s)

/-- A sequence of bytes. -/
@[match_pattern] abbrev bytes (bs : List UInt8) : Value := .scalar (.bytes bs)

/-- The mapping of a list of entries, of which later ones win. -/
def mapOfEntries (entries : Mapping) : Value := .map (Entries.ofList entries)

/-- The set of a list of members. -/
def setOfMembers (members : List Scalar) : Value :=
  .set ((Entries.ofList (members.map fun m => (m, ()))).map (·.1))

/-- Whether a value counts as given: null, `false`, zero and everything empty do not. -/
def isGiven : Value → Bool
  | .scalar .null => false
  | .scalar (.bool b) => b
  | .scalar (.int n) => n != 0
  | .scalar (.float x) => !x.isZero
  | .scalar (.text s) => s != ""
  | .scalar (.bytes bs) => !bs.isEmpty
  | .scalar (.date _) => true
  | .scalar (.moment _) => true
  | .list items => !items.isEmpty
  | .map entries => !entries.isEmpty
  | .tuple items => !items.isEmpty
  | .set members => !members.isEmpty

end Value

end ActionRehearsal
