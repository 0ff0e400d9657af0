import ActionRehearsal.Analysis.Matrix
import ActionRehearsal.Proofs.Definition.JobMatrix

/-!
# What the size of a test matrix counts

The axes of a matrix may have any value in a document. A value that is given and has no items is a fault
(`Value.isLone`), and of a text the characters are counted, of a mapping the keys, and of bytes the
numbers. `CountsWhole` says that only whole values are counted, and a scalar once at most; that is so
exactly of lists, tuples and sets, of what is not given, and of texts of one character
(`countsWhole_iff`).

The main statement, `matrixReport_of_text`, is about all workflows that are read of a text: when there is
a report, when it counts whole values, and that its number of combinations is that of both axes.
`lone_axis_has_no_report` is a workflow without a report.
-/

set_option autoImplicit false

namespace ActionRehearsal

/-! ## Kinds of values -/

/-- The whole values that a value lists: the items of a list, a tuple or a set. -/
def Value.listed? : Value → Option (List Value)
  | .list items => some items
  | .tuple items => some items
  | .set members => some (members.map .scalar)
  | .scalar _ | .map _ => none

/-- Whether a value is a scalar without items: null, a boolean, a number or a date. -/
def Value.isLone : Value → Bool
  | .scalar (.text _) | .scalar (.bytes _) => false
  | .scalar _ => true
  | _ => false

namespace Analysis

variable {given? : Option Value}

/-! ## One axis -/

/-- What is counted of an axis: nothing if it has no value or one that is not given, and else the items
of its value. -/
def entriesOf : Option Value → Except NoItems (List Value)
  | none => .ok []
  | some v => if v.isGiven then itemsOf v else .ok []

theorem axisValues_eq (matrix : Table String Value) (axis : String) :
    axisValues matrix axis = entriesOf (matrix.get? axis) := by
  rw [axisValues]
  cases matrix.get? axis with
  | none => rfl
  | some v => rfl

theorem exists_itemsOf_iff {v : Value} :
    (∃ entries, itemsOf v = .ok entries) ↔ v.isLone = false := by
  cases v with
  | scalar s =>
      cases s with
      | text s => exact ⟨fun _ => rfl, fun _ => ⟨_, rfl⟩⟩
      | bytes bs => exact ⟨fun _ => rfl, fun _ => ⟨_, rfl⟩⟩
      | null | bool | int | float | date | moment =>
          constructor
          · rintro ⟨entries, items⟩
            cases items
          · intro not_lone
            cases not_lone
  | list | map | tuple | set => exact ⟨fun _ => rfl, fun _ => ⟨_, rfl⟩⟩

/-- An axis can be counted unless its value is given and has no items. -/
theorem exists_entriesOf_iff :
    (∃ entries, entriesOf given? = .ok entries) ↔
      ∀ v ∈ given?, v.isGiven = true → v.isLone = false := by
  cases given? with
  | none => simp [entriesOf]
  | some v =>
      simp only [entriesOf, Option.mem_some_iff, forall_eq']
      cases v.isGiven with
      | false => simp
      | true => simp [exists_itemsOf_iff]

/-- Whether entries count the value of an axis as a whole: each of them is that value or listed by it,
and a scalar counts once at most. -/
structure CountsWhole (given? : Option Value) (entries : List Value) : Prop where
  whole : ∀ entry ∈ entries, ∃ v ∈ given?, entry = v ∨ ∃ listed ∈ v.listed?, entry ∈ listed
  once : ∀ s, given? = some (.scalar s) → entries.length ≤ 1

/-- Whether an axis has whole values to count: what is given is a list, a tuple, a set, or a text of one
character. -/
def HasWholeValues (given? : Option Value) : Prop :=
  ∀ v ∈ given?, v.isGiven = true → v.listed?.isSome = true ∨ ∃ c, v = .text (String.singleton c)

theorem countsWhole_nil (given? : Option Value) : CountsWhole given? [] := by
  refine ⟨?_, fun _ _ => Nat.zero_le 1⟩
  intro entry mem
  cases mem

theorem countsWhole_listed {v : Value} {entries : List Value} (listed : v.listed? = some entries) :
    CountsWhole (some v) entries := by
  refine ⟨fun entry mem => ⟨v, rfl, .inr ⟨entries, listed, mem⟩⟩, fun s scalar => ?_⟩
  cases scalar
  cases listed

/-- An entry that is neither the value nor listed by it is not counted whole. -/
theorem not_countsWhole_cons {v first : Value} {entries : List Value} (unlisted : v.listed? = none)
    (other : first ≠ v) : ¬CountsWhole (some v) (first :: entries) := by
  intro counted
  obtain ⟨v', same, here | ⟨listed, given, -⟩⟩ := counted.whole first List.mem_cons_self
  · cases same
    exact other here
  · cases same
    rw [unlisted] at given
    cases given

/-- Of a text only a single character is counted whole. -/
theorem countsWhole_text_iff {s : String} (ne : s ≠ "") :
    CountsWhole (some (.text s)) (s.toList.map fun c => .text (String.singleton c)) ↔
      ∃ c, s = String.singleton c := by
  constructor
  · intro counted
    have short := counted.once (.text s) rfl
    rw [List.length_map] at short
    cases chars : s.toList with
    | nil => exact absurd (String.toList_eq_nil_iff.1 chars) ne
    | cons c rest =>
        rw [chars, List.length_cons] at short
        have none_left : rest = [] := List.length_eq_zero_iff.1 (by omega)
        subst none_left
        refine ⟨c, String.toList_inj.1 ?_⟩
        rw [chars, String.toList_singleton]
  · rintro ⟨c, rfl⟩
    rw [String.toList_singleton]
    refine ⟨fun entry mem => ⟨_, rfl, .inl (List.mem_singleton.1 mem)⟩, fun s _ => ?_⟩
    exact Nat.le_refl 1

/-- What is counted of a given value are whole values exactly if it lists them or is one character. -/
theorem countsWhole_iff_of_given {v : Value} {entries : List Value} (given : v.isGiven = true)
    (items : itemsOf v = .ok entries) :
    CountsWhole (some v) entries ↔
      v.listed?.isSome = true ∨ ∃ c, v = .text (String.singleton c) := by
  have of_listed (listed : v.listed? = some entries) :
      CountsWhole (some v) entries ↔
        v.listed?.isSome = true ∨ ∃ c, v = .text (String.singleton c) :=
    ⟨fun _ => .inl (by rw [listed]; rfl), fun _ => countsWhole_listed listed⟩
  cases v with
  | list listed | tuple listed | set listed =>
      cases items
      exact of_listed rfl
  | map pairs =>
      cases items
      -- a mapping that is given has a key, and no key is listed by it
      cases pairs with
      | nil => cases given
      | cons pair pairs =>
          have not_whole : ¬CountsWhole (some (.map (pair :: pairs)))
              ((pair :: pairs).map fun entry => .scalar entry.1) := not_countsWhole_cons rfl nofun
          refine ⟨fun counted => absurd counted not_whole, ?_⟩
          rintro (listed | ⟨c, same⟩)
          · cases listed
          · cases same
  | scalar s =>
      cases s with
      | text s =>
          cases items
          have ne : s ≠ "" := by simpa [Value.isGiven] using given
          rw [countsWhole_text_iff ne]
          constructor
          · rintro ⟨c, rfl⟩
            exact .inr ⟨c, rfl⟩
          · rintro (listed | ⟨c, same⟩)
            · cases listed
            · cases same
              exact ⟨c, rfl⟩
      | bytes bs =>
          cases items
          cases bs with
          | nil => cases given
          | cons b bs =>
              have not_whole : ¬CountsWhole (some (.bytes (b :: bs)))
                  ((b :: bs).map fun b => .int b.toNat) := not_countsWhole_cons rfl nofun
              refine ⟨fun counted => absurd counted not_whole, ?_⟩
              rintro (listed | ⟨c, same⟩)
              · cases listed
              · cases same
      | null | bool | int | float | date | moment => cases items

/-- What is counted of an axis are whole values exactly if it has whole values to count. -/
theorem countsWhole_iff {entries : List Value} (counted : entriesOf given? = .ok entries) :
    CountsWhole given? entries ↔ HasWholeValues given? := by
  cases given? with
  | none =>
      cases counted
      constructor
      · intro _ v mem
        cases mem
      · intro _
        exact countsWhole_nil none
  | some v =>
      simp only [HasWholeValues, Option.mem_some_iff, forall_eq']
      rw [entriesOf] at counted
      cases given : v.isGiven with
      | false =>
          rw [given] at counted
          cases counted
          constructor
          · intro _ given
            cases given
          · intro _
            exact countsWhole_nil _
      | true =>
          rw [given, if_pos rfl] at counted
          rw [countsWhole_iff_of_given given counted]
          constructor
          · intro whole _
            exact whole
          · intro whole
            exact whole rfl

/-! ## Both axes -/

section Report

variable {jobs : Table String Job} {job osAxis versionAxis : String}

/-- A report counts both axes of the matrix of the job, of which a job without a matrix has none. -/
theorem matrixReport_eq_ok_iff {report : MatrixReport} :
    matrixReport jobs job osAxis versionAxis = .ok report ↔
      entriesOf (((jobs.get? job).bind (·.matrix)).bind (·.get? osAxis)) =
          .ok report.operatingSystems ∧
        entriesOf (((jobs.get? job).bind (·.matrix)).bind (·.get? versionAxis)) =
          .ok report.runtimeVersions := by
  obtain ⟨systems, versions⟩ := report
  rw [matrixReport]
  cases (jobs.get? job).bind (·.matrix) with
  | none =>
      constructor
      · intro empty
        cases empty
        exact ⟨rfl, rfl⟩
      · rintro ⟨no_systems, no_versions⟩
        cases no_systems
        cases no_versions
        rfl
  | some matrix =>
      simp only [axisValues_eq, Option.bind_some]
      cases entriesOf (matrix.get? osAxis) with
      | error fault =>
          constructor
          · intro given
            cases given
          · rintro ⟨no_systems, -⟩
            cases no_systems
      | ok systems' =>
          cases entriesOf (matrix.get? versionAxis) with
          | error fault =>
              constructor
              · intro given
                cases given
              · rintro ⟨-, no_versions⟩
                cases no_versions
          | ok versions' =>
              constructor
              · intro same
                cases same
                exact ⟨rfl, rfl⟩
              · rintro ⟨same, same'⟩
                cases same
                cases same'
                rfl

/-- There is a report exactly if both axes can be counted. -/
theorem exists_matrixReport_iff :
    (∃ report, matrixReport jobs job osAxis versionAxis = .ok report) ↔
      ∀ axis ∈ [osAxis, versionAxis], ∃ entries,
        entriesOf (((jobs.get? job).bind (·.matrix)).bind (·.get? axis)) = .ok entries := by
  simp only [matrixReport_eq_ok_iff, List.forall_mem_cons, List.not_mem_nil, false_imp_iff,
    implies_true, and_true]
  constructor
  · rintro ⟨report, systems, versions⟩
    exact ⟨⟨_, systems⟩, ⟨_, versions⟩⟩
  · rintro ⟨⟨systems, hsystems⟩, ⟨versions, hversions⟩⟩
    exact ⟨⟨systems, versions⟩, hsystems, hversions⟩

end Report

/-- **What a matrix report counts.** Of any workflow that is read of a text, strictly or not, and for any
job and any two axes, there is a report exactly if no axis has a value in the document that is given and
has no items. In a report the entries of an axis are whole values of the document exactly if what is given
for it is a list, a tuple, a set or a text of one character; and the number of combinations is the product
of the numbers of entries, which is zero for a job that is absent or has no matrix. -/
theorem matrixReport_of_text [Platform] {source : Option String} {strict : Bool} {text : String} {w : Workflow}
    (read : Workflow.ofText source strict text = .ok w) :
    ∃ document, mappingOfText source text = .ok document ∧ ∀ job osAxis versionAxis,
      ((∃ report, matrixReport w.jobs job osAxis versionAxis = .ok report) ↔
        ∀ axis ∈ [osAxis, versionAxis], ∀ v ∈ axisValue? document job axis,
          v.isGiven = true → v.isLone = false) ∧
      ∀ report, matrixReport w.jobs job osAxis versionAxis = .ok report →
        (CountsWhole (axisValue? document job osAxis) report.operatingSystems ↔
          HasWholeValues (axisValue? document job osAxis)) ∧
        (CountsWhole (axisValue? document job versionAxis) report.runtimeVersions ↔
          HasWholeValues (axisValue? document job versionAxis)) ∧
        report.combinations = report.operatingSystems.length * report.runtimeVersions.length ∧
        (matrixMapping? document job = none → report.combinations = 0) := by
  obtain ⟨document, loaded, same⟩ := Workflow.axes_of_text read
  refine ⟨document, loaded, ?_⟩
  intro job osAxis versionAxis
  obtain ⟨-, same_axes⟩ := same job
  constructor
  · simp only [exists_matrixReport_iff, same_axes, exists_entriesOf_iff]
  · intro report given
    obtain ⟨systems, versions⟩ := matrixReport_eq_ok_iff.1 given
    rw [same_axes] at systems versions
    refine ⟨countsWhole_iff systems, countsWhole_iff versions, rfl, ?_⟩
    intro missing
    -- without a matrix neither axis has a value
    rw [axisValue?, missing] at systems
    have none_counted : report.operatingSystems = [] := (Except.ok.inj systems).symm
    rw [MatrixReport.combinations, none_counted, List.length_nil, Nat.zero_mul]

/-- A workflow with two and three values on the axes of its matrix. -/
def gridWorkflow : String := "jobs: {test: {strategy: {matrix: {os: [a, b], v: [1, 2, 3]}}}}"

theorem matrixReport_of_text_grid :
    ∃ w document, Workflow.ofText none false gridWorkflow = .ok w ∧
      mappingOfText none gridWorkflow = .ok document ∧
      (matrixReport w.jobs "test" "os" "v").toOption.any (·.combinations == 6) = true ∧
      ∀ report, matrixReport w.jobs "test" "os" "v" = .ok report →
        (CountsWhole (axisValue? document "test" "os") report.operatingSystems ↔
          HasWholeValues (axisValue? document "test" "os")) ∧
        (CountsWhole (axisValue? document "test" "v") report.runtimeVersions ↔
          HasWholeValues (axisValue? document "test" "v")) := by
  have sized : (Workflow.ofText none false gridWorkflow).toOption.any (fun w =>
      (matrixReport w.jobs "test" "os" "v").toOption.any (·.combinations == 6)) = true := by
    decide +kernel
  cases read : Workflow.ofText none false gridWorkflow with
  | error fault =>
      rw [read] at sized
      cases sized
  | ok w =>
      rw [read] at sized
      obtain ⟨document, loaded, reports⟩ := matrixReport_of_text read
      refine ⟨w, document, rfl, loaded, sized, fun report given => ?_⟩
      obtain ⟨systems, versions, -⟩ := (reports "test" "os" "v").2 report given
      exact ⟨systems, versions⟩

/-- A workflow with a number where an axis has its values. -/
def loneAxisWorkflow : String := "name: w\non: push\njobs: {test: {strategy: {matrix: {os: 5}}}}"

/-- A workflow that is read does not always have a report that counts whole values: this one has none. -/
theorem lone_axis_has_no_report :
    ¬∀ (source : Option String) (strict : Bool) (text : String) (w : Workflow) (document : Mapping)
      (job osAxis versionAxis : String), Workflow.ofText source strict text = .ok w →
      mappingOfText source text = .ok document →
      ∃ report, matrixReport w.jobs job osAxis versionAxis = .ok report ∧
        CountsWhole (axisValue? document job osAxis) report.operatingSystems ∧
        CountsWhole (axisValue? document job versionAxis) report.runtimeVersions := by
  intro claim
  have fails : (Workflow.ofText none true loneAxisWorkflow).toOption.any (fun w =>
      !(matrixReport w.jobs "test" "os" "python-version").isOk) = true := by decide +kernel
  cases read : Workflow.ofText none true loneAxisWorkflow with
  | error fault =>
      rw [read] at fails
      cases fails
  | ok w =>
      rw [read] at fails
      obtain ⟨document, loaded, -⟩ := Workflow.axes_of_text read
      obtain ⟨report, given, -⟩ :=
        claim none true loneAxisWorkflow w document "test" "os" "python-version" read loaded
      have has_report : (!(matrixReport w.jobs "test" "os" "python-version").isOk) = true := fails
      rw [given] at has_report
      cases has_report

end Analysis

end ActionRehearsal
