import ActionRehearsal.Proofs.Definition.Triggers

/-!
# Keys that are not texts

A workflow is refused if the key of an entry is not a text (`hasTextKeys_of_workflow`), unless that key is
taken for the one of the triggers. This is meant for the boolean true, which an unquoted `on` is loaded as.
But numbers and booleans that are equal are the same key, so the number one is taken for it too
(`Scalar.beq_true_iff`). `StandsForOn` says when this happens.

The main statement, `ofText_of_key_not_text`, is about all texts that load and every such key:
the text is refused, or it is read as if the key were `on`. `one_stands_for_on` is a workflow with its
triggers under the number one.
-/

set_option autoImplicit false

namespace ActionRehearsal

open ActionRehearsal.Schema Schema.Checked

/-- Whether the keys of all entries are texts. -/
def HasTextKeys (entries : Mapping) : Prop := ∀ entry ∈ entries, ∃ name, entry.1 = .text name

/-- A key that is the same as true: true itself, or the number one. -/
inductive SameAsTrue : Scalar → Prop where
  | true : SameAsTrue (.bool true)
  | int : SameAsTrue (.int 1)
  | float {x : Number.Binary64} (one : x.toInt? = some 1) : SameAsTrue (.float x)

theorem Scalar.beq_true_iff {key : Scalar} : (key == Scalar.bool true) = true ↔ SameAsTrue key := by
  have same : (key == Scalar.bool true) = Scalar.sameKey key (.bool true) := rfl
  rw [same]
  constructor
  · intro equal
    cases key with
    | bool b =>
        cases b with
        | false => cases equal
        | true => exact .true
    | int n =>
        obtain rfl : n = 1 := by simpa [sameKey, asBinary64?] using equal
        exact .int
    | float x =>
        simp only [sameKey, asBinary64?] at equal
        cases whole : x.toInt? with
        | none =>
            rw [whole] at equal
            cases equal
        | some n =>
            rw [whole] at equal
            obtain rfl : n = 1 := by simpa using equal
            exact .float whole
    | null | text | bytes | date | moment => cases equal
  · rintro (_ | _ | one)
    · rfl
    · rfl
    · simp only [sameKey, asBinary64?, one]
      rfl

/-- Whether the key of an entry is taken for that of the triggers, by the entries before and after it: it is
the same as true, and the others have texts for keys, none of them `on`. -/
structure StandsForOn (before : Mapping) (key : Scalar) (after : Mapping) : Prop where
  same_as_true : SameAsTrue key
  texts : HasTextKeys (before ++ after)
  not_on : ∀ entry ∈ before ++ after, entry.1 ≠ .text "on"

section Entry

variable {before after : Mapping} {key : Scalar}

theorem StandsForOn.hasNoTriggers (stands : StandsForOn before key after) :
    HasNoTriggers (before ++ after) where
  not_on := stands.not_on
  not_true := by
    intro entry mem
    obtain ⟨name, is_text⟩ := stands.texts entry mem
    rw [is_text, Scalar.text_beq]
    rfl

/-- With such a key a workflow is read as with `on` in its place. -/
theorem StandsForOn.ofMapping_eq (stands : StandsForOn before key after) (v : Value)
    (source : Option String) (strict : Bool) :
    Workflow.ofMapping source strict (before ++ (key, v) :: after) =
      Workflow.ofMapping source strict (before ++ (.text "on", v) :: after) := by
  have free := stands.hasNoTriggers
  -- the entry moves to where one under true would go
  have moved : withTriggersKey (before ++ (key, v) :: after) =
      withTriggersKey (before ++ (.bool true, v) :: after) := by
    rw [free.withTriggersKey_append_cons (Scalar.beq_true_iff.2 stands.same_as_true),
      free.withTriggersKey_append_cons rfl]
  apply DocumentKind.workflows.ofMapping_eq_of_alike workflowRequirements_eq
  show Alike _ (workflow (.map (withTriggersKey (before ++ (key, v) :: after)))) _
  rw [moved]
  exact alike_workflow_respelled free (.underTrue before after) (.underName before after) (.same v)

/-- What is read as a workflow has texts for keys. -/
theorem hasTextKeys_of_workflow {entries : Mapping} {noted : Noted WorkflowDocument}
    (read : workflow (.map entries) = .ok noted) : HasTextKeys entries := by
  rintro ⟨key, v⟩ mem
  obtain ⟨_, e, -, others⟩ := recordOf_eq_ok_iff.1 read
  cases e
  obtain ⟨found, checked, -⟩ := map_eq_ok_iff.1 others
  obtain ⟨kept, passed⟩ := exists_eq_ok_of_all checked mem
  cases key with
  | text name => exact ⟨name, rfl⟩
  | null | bool | int | float | bytes | date | moment => cases passed

/-- A workflow with another key, even after its triggers have moved, is refused. -/
theorem exists_problem_of_not_hasTextKeys {entries : Mapping}
    (odd : ¬HasTextKeys (withTriggersKey entries)) (source : Option String) (strict : Bool) :
    ∃ problem, Workflow.ofMapping source strict entries = .error ⟨.invalid problem, source⟩ := by
  cases read : workflow (.map (withTriggersKey entries)) with
  | ok noted => exact absurd (hasTextKeys_of_workflow read) odd
  | error problems =>
      refine ⟨problems.first, ?_⟩
      rw [Workflow.ofMapping, read]
      rfl

/-- If all keys are texts after the triggers have moved, one that is no text was theirs. -/
theorem standsForOn_of_hasTextKeys (not_text : ∀ name, key ≠ .text name) (v : Value)
    (texts : HasTextKeys (withTriggersKey (before ++ (key, v) :: after))) : StandsForOn before key after := by
  have not_mem : ∀ entries : Mapping, HasTextKeys entries → (key, v) ∉ entries := by
    intro entries texts mem
    obtain ⟨name, is_text⟩ := texts _ mem
    exact not_text name is_text
  rcases withTriggersKey_cases (before ++ (key, v) :: after) with
    unmoved | ⟨before', own, w, after', split, same, not_on, moved⟩
  · rw [unmoved] at texts
    exact absurd (List.mem_append_right before List.mem_cons_self) (not_mem _ texts)
  · rw [moved] at texts
    have others : HasTextKeys (before' ++ after') := fun entry mem =>
      texts entry (List.mem_append_left _ mem)
    -- the key can only be the one that has moved, as only texts are left
    have only := not_mem _ others
    rw [List.mem_append, not_or] at only
    obtain ⟨rfl, e, rfl⟩ := (List.append_cons_inj_of_notMem only.1 only.2).1 split.symm
    cases e
    exact ⟨Scalar.beq_true_iff.1 same, others, not_on⟩

end Entry

/-- **Keys of a workflow that are not texts.** A text that loads as a mapping with such a key is refused with
a problem of its shape, strictly or not and whatever the other entries are, unless the key is taken for that of
the triggers: then it is read as if the key were `on`. -/
theorem ofText_of_key_not_text [Platform] {source : Option String} {text : String} {before after : Mapping}
    {key : Scalar} {v : Value} (loaded : mappingOfText source text = .ok (before ++ (key, v) :: after))
    (not_text : ∀ name, key ≠ .text name) (strict : Bool) :
    (¬StandsForOn before key after →
      ∃ problem, Workflow.ofText source strict text = .error (.refused ⟨.invalid problem, source⟩)) ∧
    (StandsForOn before key after →
      Workflow.ofText source strict text =
        (Workflow.ofMapping source strict (before ++ (.text "on", v) :: after)).mapError .refused) := by
  have read : Workflow.ofText source strict text =
      (Workflow.ofMapping source strict (before ++ (key, v) :: after)).mapError .refused := by
    rw [Workflow.ofText, loaded]
    rfl
  constructor
  · intro others
    have odd : ¬HasTextKeys (withTriggersKey (before ++ (key, v) :: after)) := fun texts =>
      others (standsForOn_of_hasTextKeys not_text v texts)
    obtain ⟨problem, refused⟩ := exists_problem_of_not_hasTextKeys odd source strict
    refine ⟨problem, ?_⟩
    rw [read, refused]
    rfl
  · intro stands
    rw [read, stands.ofMapping_eq]

/-- A text whose keys are known loads as some entries with these keys. -/
theorem exists_entries_of_keys [Platform] (text : String) (keys : List Scalar)
    (known : (mappingOfText none text).toOption.map (List.map (·.1)) = some keys) :
    ∃ entries, mappingOfText none text = .ok entries ∧ entries.map (·.1) = keys := by
  cases loaded : mappingOfText none text with
  | error fault =>
      rw [loaded] at known
      cases known
  | ok entries =>
      rw [loaded] at known
      exact ⟨entries, rfl, Option.some.inj known⟩

/-- A workflow with its triggers under the number two. -/
def secondWorkflow : String := "2: push\nname: w\njobs: {a: {runs-on: x}}"

/-- A workflow with its triggers under the number one. -/
def firstWorkflow : String := "1: push\nname: w\njobs: {a: {runs-on: x}}"

/-- Under the number two triggers are refused even if the reading is not strict; under the number one they are
read as under `on`. -/
theorem ofText_of_key_not_text_numbers :
    (∃ problem, Workflow.ofText none false secondWorkflow = .error (.refused ⟨.invalid problem, none⟩)) ∧
      ∃ v after, mappingOfText none firstWorkflow = .ok ((.int 1, v) :: after) ∧
        Workflow.ofText none true firstWorkflow =
          (Workflow.ofMapping none true ((.text "on", v) :: after)).mapError .refused := by
  constructor
  · obtain ⟨entries, loaded, keys⟩ := exists_entries_of_keys secondWorkflow
      [.int 2, .text "name", .text "jobs"] (by decide +kernel)
    obtain ⟨⟨_, v⟩, after, rfl, rfl, -⟩ := List.map_eq_cons_iff.1 keys
    have loaded : mappingOfText none secondWorkflow = .ok ([] ++ (.int 2, v) :: after) := loaded
    refine (ofText_of_key_not_text loaded nofun false).1 ?_
    intro stands
    cases stands.same_as_true
  · obtain ⟨entries, loaded, keys⟩ := exists_entries_of_keys firstWorkflow
      [.int 1, .text "name", .text "jobs"] (by decide +kernel)
    obtain ⟨⟨_, v⟩, after, rfl, rfl, others⟩ := List.map_eq_cons_iff.1 keys
    have name_or_jobs : ∀ entry ∈ after, entry.1 = .text "name" ∨ entry.1 = .text "jobs" := by
      intro entry mem
      have there : entry.1 ∈ after.map (·.1) := List.mem_map_of_mem mem
      rw [others] at there
      simpa using there
    refine ⟨v, after, loaded, ?_⟩
    have loaded : mappingOfText none firstWorkflow = .ok ([] ++ (.int 1, v) :: after) := loaded
    refine (ofText_of_key_not_text loaded nofun true).2 ⟨.int, ?texts, ?not_on⟩
    case texts =>
      intro entry mem
      rcases name_or_jobs entry mem with e | e
      · exact ⟨_, e⟩
      · exact ⟨_, e⟩
    case not_on =>
      intro entry mem
      rcases name_or_jobs entry mem with e | e
      · simp [e]
      · simp [e]

/-- Not every key but true is refused: the number one is taken for the key of the triggers. -/
theorem one_stands_for_on :
    ¬∀ (source : Option String) (strict : Bool) (text : String) (entries : Mapping),
      mappingOfText source text = .ok entries →
      (∃ entry ∈ entries, (∀ name, entry.1 ≠ .text name) ∧ entry.1 ≠ .bool true) →
      ∃ e, Workflow.ofText source strict text = .error (.refused e) := by
  intro claim
  obtain ⟨entries, loaded, keys⟩ := exists_entries_of_keys firstWorkflow
    [.int 1, .text "name", .text "jobs"] (by decide +kernel)
  obtain ⟨⟨_, v⟩, after, rfl, rfl, -⟩ := List.map_eq_cons_iff.1 keys
  obtain ⟨e, refused⟩ := claim none true firstWorkflow _ loaded ⟨_, List.mem_cons_self, nofun, nofun⟩
  have read : (Workflow.ofText none true firstWorkflow).isOk = true := by decide +kernel
  rw [refused] at read
  cases read

end ActionRehearsal
