import ActionRehearsal.Definition.Basic
/-!
# The size of a test matrix

A job may be run for all combinations of two axes of its matrix, the operating systems and the
runtime versions. The values of an axis are the items of its value; a value without items that is
given is a fault.
-/

set_option autoImplicit false

namespace ActionRehearsal.Analysis

/-- The values of the two axes of a matrix. -/
structure MatrixReport where
  operatingSystems : List Value
  runtimeVersions : List Value

/-- The number of combinations of the two axes. Equal values count each. -/
def MatrixReport.combinations (r : MatrixReport) : Nat :=
  r.operatingSystems.length * r.runtimeVersions.length

/-- A value that has no items and is none of the empty ones. -/
structure NoItems where
  typeName : String
  deriving DecidableEq

/-- The wording of the fault. -/
def NoItems.message (fault : NoItems) : String := "'" ++ fault.typeName ++ "' object is not iterable"

/-- The items of a value: of a text its characters, of bytes their numbers, of a mapping its
keys. -/
def itemsOf : Value → Except NoItems (List Value)
  | .list items => .ok items
  | .tuple items => .ok items
  | .set members => .ok (members.map .scalar)
  | .map entries => .ok (entries.map fun entry => .scalar entry.1)
  | .text s => .ok (s.toList.map fun c => .text (String.singleton c))
  | .bytes bs => .ok (bs.map fun b => .int b.toNat)
  | .scalar .null => .error ⟨"NoneType"⟩
  | .scalar (.bool _) => .error ⟨"bool"⟩
  | .scalar (.int _) => .error ⟨"int"⟩
  | .scalar (.float _) => .error ⟨"float"⟩
  | .scalar (.date _) => .error ⟨"datetime.date"⟩
  | .scalar (.moment _) => .error ⟨"datetime.datetime"⟩

/-- The values of an axis; an axis that is absent or not given has none. -/
def axisValues (matrix : Table String Value) (axis : String) : Except NoItems (List Value) :=
  match matrix.get? axis with
  | none => .ok []
  | some v => if v.isGiven then itemsOf v else .ok []

/-- The report on a job, by the names of its two axes. A job that is absent or has no matrix has
no combinations. -/
def matrixReport (jobs : Table String Job) (job osAxis versionAxis : String) :
    Except NoItems MatrixReport := do
  match (jobs.get? job).bind (·.matrix) with
  | none => return ⟨[], []⟩
  | some matrix =>
    return ⟨← axisValues matrix osAxis, ← axisValues matrix versionAxis⟩

end ActionRehearsal.Analysis
