import ActionRehearsal.Proofs.Schema.Check
import ActionRehearsal.Validation.Action

/-!
# Which inputs a calling workflow can supply

A mapping can be used as workflow input if it supplies the four required values and no port that is no text
(`Usable`). It gives the five values of a workflow input under their names (`Gives`), and so does the mapping
that is written for that input (`gives_toMapping`): hence writing an input and reading it again changes
nothing, and of the first mapping only entries of other names are lost.

What is refused is said by a relation of its own, with the wording (`Refused`): the first required value that
is not supplied comes before any complaint about the port.

The main statement is `check_usable`. It puts together the check, the two ways between mappings and
inputs, and the question which inputs of an action are missing.
-/

set_option autoImplicit false

namespace ActionRehearsal

/-! ## Required inputs of an action -/

/-- No input is complained about if all required ones are given. -/
theorem Action.inputProblems_eq_nil_iff {a : Action} {supplied : Mapping} :
    a.inputProblems supplied = [] ↔
      ∀ input ∈ a.inputs.entries, input.2.required = true → hasGiven supplied input.1 = true := by
  rw [inputProblems, List.map_eq_nil_iff, missingInputs, Table.keys, List.map_eq_nil_iff, Table.filter,
    List.filter_eq_nil_iff]
  refine forall₂_congr fun input _ => ?_
  rw [hasGiven]
  simp

namespace WorkflowInput

/-! ## Usable mappings -/

/-- Whether a mapping supplies a value: a text that is not empty. -/
def Supplies (entries : Mapping) (name : String) : Prop :=
  ∃ s, s ≠ "" ∧ Entries.get? entries (.text name) = some (.text s)

/-- Whether the values of a mapping can be used as workflow input. -/
structure Usable (entries : Mapping) : Prop where
  githubToken : Supplies entries "github-token"
  publicRepoToken : Supplies entries "public-repo-token"
  privateRepo : Supplies entries "private-repo"
  publicRepo : Supplies entries "public-repo"
  wranglerPort : ∀ v, Entries.get? entries (.text "wrangler-port") = some v → ∃ s, v = .text s

/-- Whether a value is refused as workflow input, with the wording. Of the required values the first one that
is not supplied is named, and the port only if all of them are supplied. -/
inductive Refused : Value → String → Prop where
  | notAMapping {v : Value} (no_map : ∀ entries, v ≠ .map entries) : Refused v "Invalid workflow input"
  | missing {entries : Mapping} {name : String} {before after : List String}
      (order : ["github-token", "public-repo-token", "private-repo", "public-repo"] =
        before ++ name :: after)
      (supplied : ∀ earlier ∈ before, Supplies entries earlier) (not_supplied : ¬Supplies entries name) :
      Refused (.map entries) ("Missing required field: " ++ name)
  | notText {entries : Mapping} {port : Value}
      (supplied : ∀ name ∈ ["github-token", "public-repo-token", "private-repo", "public-repo"],
        Supplies entries name)
      (given : Entries.get? entries (.text "wrangler-port") = some port) (no_text : ∀ s, port ≠ .text s) :
      Refused (.map entries) "wrangler-port must be a string"

/-! ## Faults -/

section Faults

variable {entries : Mapping}

theorem isUsable_iff {name : String} :
    isUsable (Entries.get? entries (.text name)) = true ↔ Supplies entries name := by
  rw [Supplies]
  cases Entries.get? entries (.text name) with
  | none => simp [isUsable]
  | some v =>
      cases v with
      | scalar scalar =>
          cases scalar with
          | text s => simp [isUsable]
          | _ => simp [isUsable]
      | _ => simp [isUsable]

theorem isTextIfGiven_iff {value : Option Value} :
    isTextIfGiven value = true ↔ ∀ v, value = some v → ∃ s, v = .text s := by
  cases value with
  | none => simp [isTextIfGiven]
  | some v =>
      cases v with
      | scalar scalar =>
          cases scalar with
          | text s => simp [isTextIfGiven]
          | _ => simp [isTextIfGiven]
      | _ => simp [isTextIfGiven]

/-- All required values are supplied if the search for one that is not finds none. -/
theorem find?_required_eq_none_iff :
    (requiredFields.find? fun name => !isUsable (Entries.get? entries (.text name))) = none ↔
      ∀ name ∈ requiredFields, Supplies entries name := by
  rw [List.find?_eq_none]
  refine forall₂_congr fun name _ => ?_
  rw [← isUsable_iff, Bool.not_eq_true, Bool.not_eq_false']

theorem find?_required_eq_some_iff {name : String} :
    (requiredFields.find? fun name => !isUsable (Entries.get? entries (.text name))) = some name ↔
      ¬Supplies entries name ∧ ∃ before after, requiredFields = before ++ name :: after ∧
        ∀ earlier ∈ before, Supplies entries earlier := by
  simp only [List.find?_eq_some_iff_append, Bool.not_not, isUsable_iff, Bool.not_eq_true',
    ← Bool.not_eq_true]

theorem usable_iff :
    Usable entries ↔ (∀ name ∈ requiredFields, Supplies entries name) ∧
      isTextIfGiven (Entries.get? entries (.text "wrangler-port")) = true := by
  rw [isTextIfGiven_iff]
  constructor
  · intro usable
    refine ⟨?_, usable.wranglerPort⟩
    simp only [requiredFields, List.forall_mem_cons, List.not_mem_nil, false_imp_iff, implies_true, and_true]
    exact ⟨usable.githubToken, usable.publicRepoToken, usable.privateRepo, usable.publicRepo⟩
  · rintro ⟨supplied, port⟩
    exact ⟨supplied _ (by decide), supplied _ (by decide), supplied _ (by decide), supplied _ (by decide), port⟩

theorem firstFault?_eq_none_iff : firstFault? entries = none ↔ Usable entries := by
  rw [usable_iff, ← find?_required_eq_none_iff, firstFault?]
  cases requiredFields.find? fun name => !isUsable (Entries.get? entries (.text name)) with
  | none => simp [optionalFields, List.find?_singleton]
  | some name => simp

/-- The first fault is worded as it should be. -/
theorem exists_firstFault?_iff {message : String} :
    (∃ fault, firstFault? entries = some fault ∧ fault.message = message) ↔
      Refused (.map entries) message := by
  constructor
  · rintro ⟨fault, first, rfl⟩
    rw [firstFault?] at first
    cases search : requiredFields.find? fun name => !isUsable (Entries.get? entries (.text name)) with
    | some name =>
        rw [search] at first
        obtain rfl := Option.some.inj first
        obtain ⟨not_supplied, before, after, order, supplied⟩ := find?_required_eq_some_iff.1 search
        exact .missing order supplied not_supplied
    | none =>
        -- only now the port is looked at
        have supplied := find?_required_eq_none_iff.1 search
        rw [search] at first
        obtain ⟨name, found, rfl⟩ := Option.map_eq_some_iff.1 first
        obtain rfl : name = "wrangler-port" := List.mem_singleton.1 (List.mem_of_find?_eq_some found)
        have no_text := List.find?_some found
        rw [Bool.not_eq_true', ← Bool.not_eq_true, isTextIfGiven_iff] at no_text
        push Not at no_text
        obtain ⟨port, given, no_text⟩ := no_text
        exact .notText supplied given no_text
  · intro refused
    cases refused with
    | notAMapping no_map => exact absurd rfl (no_map entries)
    | missing order supplied not_supplied =>
        have search := find?_required_eq_some_iff.2 ⟨not_supplied, _, _, order, supplied⟩
        refine ⟨.missing _, ?_, rfl⟩
        rw [firstFault?, search]
    | notText supplied given no_text =>
        have search := find?_required_eq_none_iff.2 supplied
        refine ⟨.notText "wrangler-port", ?_, rfl⟩
        have fails : isTextIfGiven (Entries.get? entries (.text "wrangler-port")) = false := by
          rw [← Bool.not_eq_true, isTextIfGiven_iff]
          intro text
          obtain ⟨s, same⟩ := text _ given
          exact no_text s same
        rw [firstFault?, search]
        simp [optionalFields, fails]

end Faults

/-! ## Mappings of an input -/

/-- Whether a mapping gives the values of a workflow input, each under its name, and no port if the input has
none. -/
structure Gives (entries : Mapping) (w : WorkflowInput) : Prop where
  githubToken : Entries.get? entries (.text "github-token") = some w.githubToken
  publicRepoToken : Entries.get? entries (.text "public-repo-token") = some w.publicRepoToken
  privateRepo : Entries.get? entries (.text "private-repo") = some w.privateRepo
  publicRepo : Entries.get? entries (.text "public-repo") = some w.publicRepo
  wranglerPort : Entries.get? entries (.text "wrangler-port") = w.wranglerPort

section Mappings

variable {entries : Mapping} {w : WorkflowInput}

/-- The mapping that is written for an input gives the values of that input. -/
theorem gives_toMapping (w : WorkflowInput) : Gives w.toMapping w := by
  obtain ⟨githubToken, publicRepoToken, privateRepo, publicRepo, wranglerPort⟩ := w
  cases wranglerPort with
  | none => exact ⟨rfl, rfl, rfl, rfl, rfl⟩
  | some port => exact ⟨rfl, rfl, rfl, rfl, rfl⟩

/-- What gives the values of an input is read as that input, if the port is not null. -/
theorem Gives.ofMapping_eq (gives : Gives entries w) (not_null : w.wranglerPort ≠ some .null) :
    ofMapping entries = .ok w := by
  -- a port that is null would be read as none
  have port_kept : unlessNull w.wranglerPort = w.wranglerPort := by
    rw [unlessNull]
    exact not_null
  simp only [ofMapping, valueOf, gives.githubToken, gives.publicRepoToken, gives.privateRepo,
    gives.publicRepo, gives.wranglerPort, port_kept]
  rfl

/-- The keys of the mapping that is written for an input are known names. -/
theorem exists_name_of_mem_toMapping {entry : Scalar × Value} (mem : entry ∈ w.toMapping) :
    ∃ name ∈ requiredFields ++ optionalFields, entry.1 = .text name := by
  obtain ⟨githubToken, publicRepoToken, privateRepo, publicRepo, wranglerPort⟩ := w
  have known : entry.1 ∈ [Scalar.text "github-token", .text "public-repo-token", .text "private-repo",
      .text "public-repo", .text "wrangler-port"] := by
    cases wranglerPort with
    | none => exact List.mem_append_left [Scalar.text "wrangler-port"] (List.mem_map_of_mem mem)
    | some port => exact List.mem_map_of_mem mem
  obtain ⟨name, known, same⟩ :=
    List.mem_map.1 (show _ ∈ (requiredFields ++ optionalFields).map Scalar.text from known)
  exact ⟨name, known, same.symm⟩

/-- Of a mapping that gives the values of an input, the one that is written for the input keeps the entries
of the known names. -/
theorem Gives.get?_toMapping (gives : Gives entries w) (key : Scalar) :
    Entries.get? w.toMapping key =
      if ∃ name ∈ requiredFields ++ optionalFields, key = .text name then Entries.get? entries key
      else none := by
  -- under a known name both mappings have the value of the input
  have written := gives_toMapping w
  split
  · rename_i known
    obtain ⟨name, known, rfl⟩ := known
    simp only [requiredFields, optionalFields, List.cons_append, List.nil_append, List.mem_cons,
      List.not_mem_nil, or_false] at known
    rcases known with rfl | rfl | rfl | rfl | rfl
    · rw [written.githubToken, gives.githubToken]
    · rw [written.publicRepoToken, gives.publicRepoToken]
    · rw [written.privateRepo, gives.privateRepo]
    · rw [written.publicRepo, gives.publicRepo]
    · rw [written.wranglerPort, gives.wranglerPort]
  · rename_i unknown
    apply Entries.get?_of_absent
    intro entry mem
    obtain ⟨name, known, text⟩ := exists_name_of_mem_toMapping mem
    rw [text, Scalar.beq_text, decide_eq_false_iff_not]
    exact fun same => unknown ⟨name, known, same⟩

end Mappings

/-! ## Accepted inputs -/

section Accepted

variable {entries : Mapping} {w : WorkflowInput}

/-- A usable mapping gives the values of some input. -/
theorem exists_gives (usable : Usable entries) : ∃ w, Gives entries w := by
  obtain ⟨githubToken, -, given_githubToken⟩ := usable.githubToken
  obtain ⟨publicRepoToken, -, given_publicRepoToken⟩ := usable.publicRepoToken
  obtain ⟨privateRepo, -, given_privateRepo⟩ := usable.privateRepo
  obtain ⟨publicRepo, -, given_publicRepo⟩ := usable.publicRepo
  exact ⟨⟨_, _, _, _, _⟩, given_githubToken, given_publicRepoToken, given_privateRepo, given_publicRepo, rfl⟩

theorem port_ne_null (usable : Usable entries) (gives : Gives entries w) : w.wranglerPort ≠ some .null := by
  intro null
  obtain ⟨s, text⟩ := usable.wranglerPort .null (gives.wranglerPort.trans null)
  cases text

/-- The check gives the input whose values the mapping gives, if the mapping is usable. -/
theorem check_eq_ok_iff {v : Value} :
    check v = .ok w ↔ ∃ entries, v = .map entries ∧ Usable entries ∧ Gives entries w := by
  constructor
  · intro accepted
    cases v with
    | map entries =>
        rw [check] at accepted
        cases first : firstFault? entries with
        | some fault =>
            rw [first] at accepted
            cases accepted
        | none =>
            have usable := firstFault?_eq_none_iff.1 first
            obtain ⟨w', gives⟩ := exists_gives usable
            rw [first, gives.ofMapping_eq (port_ne_null usable gives)] at accepted
            obtain rfl : w' = w := Except.ok.inj accepted
            exact ⟨entries, rfl, usable, gives⟩
    | scalar | list | tuple | set => cases accepted
  · rintro ⟨entries, rfl, usable, gives⟩
    rw [check, firstFault?_eq_none_iff.2 usable, gives.ofMapping_eq (port_ne_null usable gives)]
    rfl

/-- The check refuses what it should, with the wording that it should have. -/
theorem exists_check_eq_error_iff {v : Value} {message : String} :
    (∃ fault, check v = .error fault ∧ fault.message = message) ↔ Refused v message := by
  cases v with
  | map entries =>
      rw [← exists_firstFault?_iff]
      refine exists_congr fun fault => and_congr_left' ?_
      rw [check]
      cases first : firstFault? entries with
      | some found => simp
      | none =>
          -- then an input is read, so there is no fault of the reading either
          have usable := firstFault?_eq_none_iff.1 first
          obtain ⟨w, gives⟩ := exists_gives usable
          rw [gives.ofMapping_eq (port_ne_null usable gives)]
          simp [Except.mapError]
  | scalar | list | tuple | set =>
      constructor
      · rintro ⟨fault, refused, rfl⟩
        cases refused
        exact .notAMapping nofun
      · intro refused
        cases refused
        exact ⟨.notAMapping, rfl, rfl⟩

end Accepted

theorem hasGiven_of_supplies {entries : Mapping} {name : String} (supplies : Supplies entries name) :
    hasGiven entries name = true := by
  obtain ⟨s, not_empty, given⟩ := supplies
  rw [hasGiven, given]
  exact bne_iff_ne.2 not_empty

/-- **The check accepts the usable inputs and loses nothing of them.** A value is accepted exactly if it is
a mapping that supplies the four required values, each a text that is not empty, and no port that is no
text; otherwise it is refused, with the wording for the first thing that is wrong. The input that is accepted
is read of the mapping; what is written for it is the mapping restricted to the five known names, and is read
as the same input again. An action whose required inputs are among the four values misses none of them. -/
theorem check_usable (v : Value) :
    ((∃ w, check v = .ok w) ↔ ∃ entries, v = .map entries ∧ Usable entries) ∧
    (∀ message, (∃ fault, check v = .error fault ∧ fault.message = message) ↔
      Refused v message) ∧
    ∀ w, check v = .ok w → ∃ entries, v = .map entries ∧
      ofMapping entries = .ok w ∧
      (∀ key, Entries.get? w.toMapping key =
        if ∃ name ∈ requiredFields ++ optionalFields, key = .text name then
          Entries.get? entries key
        else none) ∧
      ofMapping w.toMapping = .ok w ∧
      ∀ a : Action, (∀ input ∈ a.inputs.entries, input.2.required = true →
        input.1 ∈ requiredFields) → a.inputProblems w.toMapping = [] := by
  refine ⟨?_, fun message => exists_check_eq_error_iff, ?_⟩
  · constructor
    · rintro ⟨w, accepted⟩
      obtain ⟨entries, is_map, usable, -⟩ := check_eq_ok_iff.1 accepted
      exact ⟨entries, is_map, usable⟩
    · rintro ⟨entries, is_map, usable⟩
      obtain ⟨w, gives⟩ := exists_gives usable
      exact ⟨w, check_eq_ok_iff.2 ⟨entries, is_map, usable, gives⟩⟩
  · intro w accepted
    obtain ⟨entries, is_map, usable, gives⟩ := check_eq_ok_iff.1 accepted
    have not_null := port_ne_null usable gives
    refine ⟨entries, is_map, gives.ofMapping_eq not_null, gives.get?_toMapping,
      (gives_toMapping w).ofMapping_eq not_null, ?_⟩
    intro a among
    rw [Action.inputProblems_eq_nil_iff]
    intro input mem required
    have known := among input mem required
    have kept : Entries.get? w.toMapping (.text input.1) = Entries.get? entries (.text input.1) := by
      rw [gives.get?_toMapping, if_pos]
      exact ⟨_, List.mem_append_left _ known, rfl⟩
    rw [hasGiven, kept]
    exact hasGiven_of_supplies ((usable_iff.1 usable).1 _ known)

/-- The required values with an empty port, and with entries that are nobody's. -/
def suppliedValues : Mapping :=
  [(.text "private-repo", .text "o/private"), (.int 7, .null), (.text "github-token", .text "t"),
    (.text "wrangler-port", .text ""), (.text "public-repo", .text "o/public"),
    (.text "environment", .list []), (.text "public-repo-token", .text "u")]

/-- An action that requires two of the values, and has an input that it does not require. -/
def deployAction : Action where
  name := "deploy"
  description := ""
  author := ""
  inputs := .ofList [("public-repo", { required := true }), ("environment", {}),
    ("github-token", { required := true })]
  runner := "composite"
  steps := []

/-- The values are accepted, and of the entries that are written again the port is one and the others of
unknown names are none. With null in the place of a required value they are refused, although the port is no
text either. -/
theorem check_usable_supplied :
    (∃ w, check (.map suppliedValues) = .ok w ∧
      Entries.get? w.toMapping (.text "wrangler-port") = some (.text "") ∧
      Entries.get? w.toMapping (.int 7) = none ∧
      ofMapping w.toMapping = .ok w ∧ deployAction.inputProblems w.toMapping = []) ∧
    Refused (.map ((.text "public-repo", .null) :: (.text "wrangler-port", .int 80) :: suppliedValues))
      "Missing required field: public-repo" := by
  constructor
  · obtain ⟨w, accepted⟩ : ∃ w, check (.map suppliedValues) = .ok w := ⟨_, rfl⟩
    obtain ⟨-, -, loses_nothing⟩ := check_usable (.map suppliedValues)
    obtain ⟨entries, same, -, restricted, again, enough⟩ := loses_nothing w accepted
    cases same
    refine ⟨w, accepted, ?_, ?_, again, enough deployAction (by decide)⟩
    · rw [restricted]
      rfl
    · rw [restricted]
      rfl
  · obtain ⟨-, wording, -⟩ := check_usable (.map ((.text "public-repo", .null) ::
      (.text "wrangler-port", .int 80) :: suppliedValues))
    exact (wording _).1 ⟨.missing "public-repo", rfl, rfl⟩

end WorkflowInput

end ActionRehearsal
