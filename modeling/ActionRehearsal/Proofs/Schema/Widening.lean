import ActionRehearsal.Proofs.Schema.Alike
import ActionRehearsal.Schema.Workflow

/-!
# Records with entries of other names

A record may hold entries that no field of it has the name of. `Widened` says how such entries are put into
a mapping: anywhere, in any number and with any values, while what is there keeps its keys and its order.
The values of fields may themselves be widened, each in the way that `parts` says for its name, so records
inside of lists and tables are widened too (`WidenedItems`, `WidenedTable`).

From the inside out, one definition for each kind of record says what widening means for it
(`WidenedStep` up to `WidenedAction`, `WidenedJob` up to `WidenedWorkflow`).

A field is found in a widened record under the same name as before (`Widened.given?`), and the entries of
other names give no problem (`Widened.extras`). The main statement is `WidenedRecord.alike`: a check of a
record comes to the same for a widened one, if the checks of its fields do.
-/

set_option autoImplicit false

namespace ActionRehearsal

namespace Schema

open Checked

/-! ## Widened mappings -/

/-- How the value of an entry may change: that of a text as `parts` says, and any other not at all. -/
def PartOf (parts : String → Value → Value → Prop) : Scalar → Value → Value → Prop
  | .text name => parts name
  | _ => Eq

/-- Whether a mapping arises from another one by putting in entries whose names are those of no field,
while values change as `parts` says. -/
inductive Widened (fields : List (List String)) (parts : String → Value → Value → Prop) :
    Mapping → Mapping → Prop where
  | nil : Widened fields parts [] []
  | insert {name : String} (unknown : ∀ names ∈ fields, name ∉ names) (v : Value)
      {entries entries' : Mapping} (rest : Widened fields parts entries entries') :
      Widened fields parts entries ((.text name, v) :: entries')
  | keep {key : Scalar} {v v' : Value} (part : PartOf parts key v v')
      {entries entries' : Mapping} (rest : Widened fields parts entries entries') :
      Widened fields parts ((key, v) :: entries) ((key, v') :: entries')

theorem PartOf.refl (key : Scalar) (v : Value) : PartOf (fun _ => Eq) key v v := by
  cases key with
  | _ => rfl

theorem Widened.refl (fields : List (List String)) (entries : Mapping) :
    Widened fields (fun _ => Eq) entries entries := by
  induction entries with
  | nil => exact .nil
  | cons entry rest ih => exact .keep (.refl entry.1 entry.2) ih

/-- Where there are no fields, an entry of any name may be put in. -/
theorem widened_append_cons (before after : Mapping) (name : String) (v : Value) :
    Widened [] (fun _ => Eq) (before ++ after) (before ++ (.text name, v) :: after) := by
  induction before with
  | nil => exact .insert (by simp) v (.refl [] after)
  | cons entry before ih => exact .keep (.refl entry.1 entry.2) ih

/-- Whether a value is another one, widened if it is a record. -/
inductive WidenedRecord (fields : List (List String)) (parts : String → Value → Value → Prop) :
    Value → Value → Prop where
  | same (v : Value) : WidenedRecord fields parts v v
  | record {entries entries' : Mapping} (widened : Widened fields parts entries entries') :
      WidenedRecord fields parts (.map entries) (.map entries')

/-- Whether a value is another one, with changed items if it has items. -/
inductive WidenedItems (item : Value → Value → Prop) : Value → Value → Prop where
  | same (v : Value) : WidenedItems item v v
  | list {items items' : List Value} (widened : List.Forall₂ item items items') :
      WidenedItems item (.list items) (.list items')
  | tuple {items items' : List Value} (widened : List.Forall₂ item items items') :
      WidenedItems item (.tuple items) (.tuple items')

/-- Whether a value is another one, with changed values under the same keys if it is a mapping. -/
inductive WidenedTable (value : Value → Value → Prop) : Value → Value → Prop where
  | same (v : Value) : WidenedTable value v v
  | table {entries entries' : Mapping}
      (widened : List.Forall₂ (fun e e' => e.1 = e'.1 ∧ value e.2 e'.2) entries entries') :
      WidenedTable value (.map entries) (.map entries')

/-! ## Widened documents -/

/-- A widened input. -/
def WidenedInput : Value → Value → Prop := WidenedRecord inputFields fun _ => Eq

/-- A widened step. -/
def WidenedStep : Value → Value → Prop := WidenedRecord stepFields fun _ => Eq

/-- The widened parts of runs: their steps. -/
def runsParts : String → Value → Value → Prop
  | "steps" => WidenedItems WidenedStep
  | _ => Eq

/-- Widened runs. -/
def WidenedRuns : Value → Value → Prop := WidenedRecord runsFields runsParts

/-- The widened parts of an action: its inputs and its runs. -/
def actionParts : String → Value → Value → Prop
  | "inputs" => WidenedTable WidenedInput
  | "runs" => WidenedRuns
  | _ => Eq

/-- The mapping of a widened action. -/
def WidenedAction : Mapping → Mapping → Prop := Widened actionFields actionParts

/-- A widened strategy. -/
def WidenedStrategy : Value → Value → Prop := WidenedRecord strategyFields fun _ => Eq

/-- The widened parts of a job: its strategy and its steps. -/
def jobParts : String → Value → Value → Prop
  | "strategy" => WidenedStrategy
  | "steps" => WidenedItems WidenedStep
  | _ => Eq

/-- A widened job. -/
def WidenedJob : Value → Value → Prop := WidenedRecord jobFields jobParts

/-- The widened parts of a workflow: its jobs. -/
def workflowParts : String → Value → Value → Prop
  | "jobs" => WidenedTable WidenedJob
  | _ => Eq

/-- The mapping of a widened workflow. -/
def WidenedWorkflow : Mapping → Mapping → Prop := Widened workflowFields workflowParts

/-! ## Fields of widened mappings -/

namespace Widened

variable {fields : List (List String)} {parts : String → Value → Value → Prop}
  {entries entries' : Mapping}

/-- The name of a field is not that of an entry that is put in. -/
theorem text_ne_of_unknown {name inserted : String} (known : ∃ names ∈ fields, name ∈ names)
    (unknown : ∀ names ∈ fields, inserted ∉ names) : Scalar.text name ≠ .text inserted := by
  obtain ⟨names, field, mem⟩ := known
  intro same
  cases same
  exact unknown names field mem

/-- Under the name of a field stands what stood there, changed as `parts` says. -/
theorem get? (widened : Widened fields parts entries entries') {name : String}
    (known : ∃ names ∈ fields, name ∈ names) :
    Option.Rel (parts name) (Entries.get? entries (.text name)) (Entries.get? entries' (.text name)) := by
  induction widened with
  | nil => exact .none
  | @insert inserted unknown v entries entries' rest ih =>
      have other : (Scalar.text name == Scalar.text inserted) = false := by
        rw [Scalar.text_beq, decide_eq_false_iff_not]
        exact text_ne_of_unknown known unknown
      simpa only [Entries.get?, List.lookup_cons, other] using ih
  | @keep key v v' part entries entries' rest ih =>
      simp only [Entries.get?, List.lookup_cons]
      cases same : Scalar.text name == key with
      | true =>
          rw [Scalar.text_beq, decide_eq_true_eq] at same
          subst same
          exact .some part
      | false => exact ih

/-- A field is given under the same one of its names. -/
theorem given? (widened : Widened fields parts entries entries') {names : List String}
    (known : names ∈ fields) :
    Option.Rel (fun given given' => given.1 = given'.1 ∧ given.1 ∈ names ∧ parts given.1 given.2 given'.2)
      (Schema.given? entries names) (Schema.given? entries' names) := by
  -- the names are looked up in turn, so the induction is about the last ones of them
  have last (left : List String) (sub : ∀ name ∈ left, name ∈ names) :
      Option.Rel (fun given given' => given.1 = given'.1 ∧ given.1 ∈ names ∧
        parts given.1 given.2 given'.2) (Schema.given? entries left) (Schema.given? entries' left) := by
    induction left with
    | nil => exact .none
    | cons name left ih =>
        have mem : name ∈ names := sub name List.mem_cons_self
        have found := widened.get? ⟨names, known, mem⟩
        rw [Schema.given?, Schema.given?]
        generalize Entries.get? entries (.text name) = v? at found ⊢
        generalize Entries.get? entries' (.text name) = v?' at found ⊢
        cases found with
        | none => exact ih fun name later => sub name (List.mem_cons_of_mem _ later)
        | some part => exact .some ⟨rfl, mem, part⟩
  exact last names fun _ mem => mem

section Fields

variable {α γ : Type} {f : α → γ} {names : List String} {default : α} {check : Value → Checked α}

/-- A field is read alike if its values are, however they change. -/
theorem field (widened : Widened fields parts entries entries') (known : names ∈ fields)
    (step : ∀ name ∈ names, ∀ v v', parts name v v' → Alike f (check v) (check v')) :
    Alike f (Schema.field entries names default check) (Schema.field entries' names default check) := by
  have found := widened.given? known
  rw [Schema.field, Schema.field]
  generalize Schema.given? entries names = given at found ⊢
  generalize Schema.given? entries' names = given' at found ⊢
  cases found with
  | none => exact .refl f _
  | @some given given' related =>
      obtain ⟨name, v⟩ := given
      obtain ⟨name', v'⟩ := given'
      obtain ⟨same, mem, part⟩ := related
      obtain rfl : name = name' := same
      exact (step name mem v v' part).inside name

/-- So is a field with one name. -/
theorem field_of_name (widened : Widened fields parts entries entries') {name : String}
    (known : [name] ∈ fields) (step : ∀ v v', parts name v v' → Alike f (check v) (check v')) :
    Alike f (Schema.field entries [name] default check) (Schema.field entries' [name] default check) := by
  refine widened.field known fun name' mem => ?_
  obtain rfl := List.mem_singleton.1 mem
  exact step

/-- A field whose values do not change is read as before. -/
theorem field_eq (widened : Widened fields parts entries entries') (known : names ∈ fields)
    (fixed : ∀ name ∈ names, parts name = Eq) :
    Schema.field entries names default check = Schema.field entries' names default check := by
  refine (widened.field (f := id) known fun name mem v v' part => ?_).eq
  rw [fixed name mem] at part
  subst part
  exact .refl id _

/-- A field of a record without parts that change is read as before. -/
theorem field_eq_of_fixed (widened : Widened fields (fun _ => Eq) entries entries')
    (known : names ∈ fields) :
    Schema.field entries names default check = Schema.field entries' names default check :=
  widened.field_eq known fun _ _ => rfl

end Fields

/-! ### Keys that are no texts -/

section Keys

variable {key : Scalar} (not_text : ∀ s, Scalar.text s ≠ key)

include not_text

/-- A key that is no text is not that of an entry that was put in, so its value is what it was. -/
theorem get?_eq (widened : Widened fields parts entries entries') :
    Entries.get? entries key = Entries.get? entries' key := by
  have other (s : String) : (key == Scalar.text s) = false := by
    rw [Scalar.beq_text, decide_eq_false_iff_not]
    exact fun same => not_text s same.symm
  induction widened with
  | nil => rfl
  | insert unknown v rest ih => simpa only [Entries.get?, List.lookup_cons, other] using ih
  | @keep k v v' part entries entries' rest ih =>
      simp only [Entries.get?, List.lookup_cons]
      cases k with
      | text name =>
          rw [other]
          exact ih
      | _ =>
          obtain rfl : v = v' := part
          split
          · rfl
          · exact ih

/-- Taking such a key out takes out the same entry. -/
theorem erase (widened : Widened fields parts entries entries') :
    Widened fields parts (Entries.erase entries key) (Entries.erase entries' key) := by
  have other (s : String) : (Scalar.text s == key) = false := by
    rw [Scalar.text_beq, decide_eq_false_iff_not]
    exact not_text s
  induction widened with
  | nil => exact .nil
  | @insert name unknown v entries entries' rest ih =>
      have kept : Entries.erase ((.text name, v) :: entries') key =
          (.text name, v) :: Entries.erase entries' key := by
        simp only [Entries.erase, List.eraseP_cons, other, cond_false]
      rw [kept]
      exact .insert unknown v ih
  | @keep k v v' part entries entries' rest ih =>
      rw [Entries.erase, Entries.erase, List.eraseP_cons, List.eraseP_cons]
      cases k == key with
      | true => exact rest
      | false => exact .keep part ih

end Keys

/-- Setting a field sets it at the same place. -/
theorem set (widened : Widened fields parts entries entries') {name : String}
    (known : ∃ names ∈ fields, name ∈ names) {v : Value}
    (part : PartOf parts (.text name) v v) :
    Widened fields parts (Entries.set entries (.text name) v) (Entries.set entries' (.text name) v) := by
  induction widened with
  | nil => exact .keep part .nil
  | @insert inserted unknown w entries entries' rest ih =>
      have other : (Scalar.text inserted == Scalar.text name) = false := by
        rw [Scalar.text_beq, decide_eq_false_iff_not]
        exact (text_ne_of_unknown known unknown).symm
      rw [Entries.set, other]
      exact .insert unknown w ih
  | @keep k w w' part' entries entries' rest ih =>
      rw [Entries.set, Entries.set]
      cases same : k == Scalar.text name with
      | true =>
          rw [Scalar.beq_text, decide_eq_true_eq] at same
          subst same
          exact .keep part rest
      | false => exact .keep part' ih

/-- The entries that are no fields give the same problems, which are those of keys that are no texts. So it
does not matter which fields are meant. -/
theorem extras (widened : Widened fields parts entries entries') (meant : List (List String)) :
    Alike (fun _ => ()) (Schema.extras entries meant) (Schema.extras entries' meant) := by
  refine Alike.map (f := fun _ => ()) ?_ fun _ _ _ => rfl
  -- which entries are noted does not matter, so the induction is about any names that are left out
  generalize givenNames entries meant = used
  generalize givenNames entries' meant = used'
  induction widened with
  | nil => exact .ok rfl
  | insert unknown v rest ih => exact Alike.insert ih _
  | @keep key v v' part entries entries' rest ih =>
      rw [List.map_cons, List.map_cons, Checked.all, Checked.all]
      refine (Alike.both (f := fun _ => ()) ?_ ih).map fun _ _ _ => rfl
      cases key with
      | text name => exact .ok rfl
      | _ => exact .error _

end Widened

section Values

variable {α γ : Type} {f : α → γ} {v v' : Value} {fields : List (List String)}
  {parts : String → Value → Value → Prop} {change : Value → Value → Prop} {check : Value → Checked α}

/-- A check of a record comes to the same for a widened record, if what it reads of the fields does. -/
theorem WidenedRecord.alike (widened : WidenedRecord fields parts v v') {model : String}
    {check : Mapping → Checked α}
    (step : ∀ entries entries', Widened fields parts entries entries' →
      Alike f (check entries) (check entries')) :
    Alike (fun noted => f noted.content) (recordOf model fields check v)
      (recordOf model fields check v') := by
  cases widened with
  | same => exact .refl _ _
  | record widened =>
      refine ((step _ _ widened).both (widened.extras fields)).map ?_
      rintro ⟨content, extra⟩ ⟨content', extra'⟩ same
      exact (Prod.mk.inj same).1

/-- A record that may be null is null in both or in neither. -/
theorem WidenedRecord.alike_optional (widened : WidenedRecord fields parts v v')
    (read : Alike f (check v) (check v')) :
    Alike (Option.map f) (optional check v) (optional check v') := by
  cases widened with
  | same => exact .refl _ _
  | record => exact read.map fun a b same => congrArg some same

theorem WidenedItems.alike (widened : WidenedItems change v v')
    (step : ∀ v v', change v v' → Alike f (check v) (check v')) :
    Alike (List.map f) (listOf check v) (listOf check v') := by
  cases widened with
  | same => exact .refl _ _
  | list widened => exact .all (forall₂_itemsFrom step widened 0)
  | tuple widened => exact .all (forall₂_itemsFrom step widened 0)

theorem WidenedTable.alike (widened : WidenedTable change v v')
    (step : ∀ v v', change v v' → Alike f (check v) (check v')) :
    Alike (Table.mapValues f) (tableOf check v) (tableOf check v') := by
  cases widened with
  | same => exact .refl _ _
  | table widened => exact alike_tableOf step widened

end Values

end Schema

end ActionRehearsal
