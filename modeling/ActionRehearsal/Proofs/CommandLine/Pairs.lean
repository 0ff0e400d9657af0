import ActionRehearsal.CommandLine.Simulate
import ActionRehearsal.Proofs.Table
import ActionRehearsal.Proofs.Text.Lines
import ActionRehearsal.Proofs.Text.Search

/-!
# Inputs as they are given

An input is given as a pair: a name, an equals sign, and a value, which may hold more of them (`Pair`). The
first argument that is no pair is the fault (`inputPairs_eq_error_iff`); else all of them are read, one
after the other (`inputPairs_eq_ok_iff`). The key of a pair is its trimmed name, and of the pairs of one key
the last one counts (`LastGiven`).

The main statement, `inputPairs_read`, says both. A name has to be more than nothing before it is trimmed,
not after it: `blank_name_is_read` gives a pair with an empty key.
-/

set_option autoImplicit false

namespace ActionRehearsal.CommandLine

open ActionRehearsal.Text

/-! ## Names and values -/

/-- Whether an argument is a name and a value with the first of its equals signs between them. -/
structure Splits (argument name value : String) : Prop where
  split : argument = name ++ "=" ++ value
  first : '=' ∉ name.toList

/-- Whether an argument is a pair: there is an equals sign in it, and something before the first one. -/
def IsPair (argument : String) : Prop := ∃ name value, Splits argument name value ∧ name ≠ ""

/-- Whether an argument is a pair of this value and of a name that is this key once it is trimmed. -/
def Gives (argument key value : String) : Prop :=
  ∃ name, Splits argument name value ∧ name ≠ "" ∧ trimmed name = key

/-- Whether the last pair of a key among arguments has this value. -/
def LastGiven (arguments : List String) (key value : String) : Prop :=
  ∃ before argument after, arguments = before ++ argument :: after ∧ Gives argument key value ∧
    ∀ later ∈ after, ∀ other, ¬Gives later key other

theorem Splits.toList {argument name value : String} (splits : Splits argument name value) :
    argument.toList = name.toList ++ '=' :: value.toList := by
  rw [splits.split, String.toList_append, String.toList_append, List.append_assoc]
  rfl

/-- An argument is split in one way at most. -/
theorem Splits.unique {argument name value name' value' : String} (splits : Splits argument name value)
    (splits' : Splits argument name' value') : name = name' ∧ value = value' := by
  have same := splits.toList.symm.trans splits'.toList
  obtain ⟨same_name, same_value⟩ := append_cons_inj_of_first splits.first splits'.first same
  exact ⟨String.toList_inj.1 same_name, String.toList_inj.1 same_value⟩

/-- An argument without an equals sign is a name alone. -/
theorem nameAndValue_of_not_mem {argument : String} (absent : '=' ∉ argument.toList) :
    nameAndValue argument = (argument, none) := by
  have plain : ∀ c ∈ argument.toList, (c != '=') = true := by
    intro c mem
    rw [bne_iff_ne]
    rintro rfl
    exact absent mem
  rw [nameAndValue, List.takeWhile_eq_self_iff.2 plain, List.dropWhile_eq_nil_iff.2 plain,
    String.ofList_toList]

/-- Any other one is cut at the first of them. -/
theorem nameAndValue_of_splits {argument name value : String} (splits : Splits argument name value) :
    nameAndValue argument = (name, some value) := by
  have plain : ∀ c ∈ name.toList, (c != '=') = true := by
    intro c mem
    rw [bne_iff_ne]
    rintro rfl
    exact splits.first mem
  rw [nameAndValue, splits.toList, List.takeWhile_append_of_pos plain, List.dropWhile_append_of_pos plain]
  simp

/-- Every argument with an equals sign is split. -/
theorem exists_splits {argument : String} (mem : '=' ∈ argument.toList) :
    ∃ name value, Splits argument name value := by
  obtain ⟨name, value, e, absent⟩ := List.eq_append_cons_of_mem mem
  refine ⟨String.ofList name, String.ofList value, ?_, ?_⟩
  · rw [← String.toList_inj, e]
    simp
  · rwa [String.toList_ofList]

/-! ## Pairs -/

/-- What is read of an argument is what it gives. -/
theorem pair?_eq_some_iff {argument key value : String} :
    pair? argument = some (key, value) ↔ Gives argument key value := by
  by_cases mem : '=' ∈ argument.toList
  · obtain ⟨name, text, splits⟩ := exists_splits mem
    rw [pair?, nameAndValue_of_splits splits]
    constructor
    · intro read
      by_cases empty : name = ""
      · simp [empty] at read
      · simp only [if_neg empty, Option.some.injEq, Prod.mk.injEq] at read
        obtain ⟨rfl, rfl⟩ := read
        exact ⟨name, splits, empty, rfl⟩
    · rintro ⟨name', splits', ne, rfl⟩
      obtain ⟨rfl, rfl⟩ := splits.unique splits'
      simp only [if_neg ne]
  · rw [pair?, nameAndValue_of_not_mem mem]
    constructor
    · intro read
      cases read
    · rintro ⟨name, splits, -, -⟩
      rw [splits.toList] at mem
      exact absurd (List.mem_append_right _ List.mem_cons_self) mem

theorem isPair_iff {argument : String} : IsPair argument ↔ ∃ key value, Gives argument key value := by
  constructor
  · rintro ⟨name, value, splits, ne⟩
    exact ⟨trimmed name, value, name, splits, ne, rfl⟩
  · rintro ⟨key, value, name, splits, ne, -⟩
    exact ⟨name, value, splits, ne⟩

/-- Nothing is read of an argument exactly if it is no pair. -/
theorem pair?_eq_none_iff {argument : String} : pair? argument = none ↔ ¬IsPair argument := by
  rw [isPair_iff, Option.eq_none_iff_forall_ne_some]
  constructor
  · rintro nothing ⟨key, value, gives⟩
    exact nothing (key, value) (pair?_eq_some_iff.2 gives)
  · rintro nothing ⟨key, value⟩ read
    exact nothing ⟨key, value, pair?_eq_some_iff.1 read⟩

instance (argument : String) : Decidable (IsPair argument) :=
  decidable_of_iff (¬pair? argument = none) (by rw [pair?_eq_none_iff, not_not])

/-! ## Arguments in a row -/

/-- All arguments are read if each of them is a pair. -/
theorem inputPairs_eq_ok_iff {arguments : List String} {pairs : List (String × String)} :
    inputPairs arguments = .ok pairs ↔ arguments.map pair? = pairs.map some := by
  induction arguments generalizing pairs with
  | nil =>
      cases pairs with
      | nil => simp [inputPairs]
      | cons pair pairs => simp [inputPairs]
  | cons argument rest ih =>
      rw [inputPairs, List.map_cons]
      cases read : pair? argument with
      | none =>
          cases pairs with
          | nil => simp
          | cons pair pairs => simp
      | some pair =>
          cases later : inputPairs rest with
          | error fault =>
              simp only [later, reduceCtorEq, false_iff] at ih
              cases pairs with
              | nil => simp [Except.map]
              | cons first pairs => simp [Except.map, ih]
          | ok found =>
              have same : rest.map pair? = found.map some := ih.1 later
              cases pairs with
              | nil => simp [Except.map]
              | cons first pairs =>
                  have inj : found = pairs ↔ found.map some = pairs.map some :=
                    (List.map_inj_right fun _ _ => Option.some.inj).symm
                  simp [Except.map, same, inj]

/-- Otherwise the first one that is no pair is the fault. -/
theorem inputPairs_eq_error_iff {arguments : List String} {fault : UsageFault} :
    inputPairs arguments = .error fault ↔
      ∃ before argument after, arguments = before ++ argument :: after ∧
        (∀ earlier ∈ before, IsPair earlier) ∧ ¬IsPair argument ∧ fault = .notAPair argument := by
  induction arguments with
  | nil => simp [inputPairs]
  | cons argument rest ih =>
      rw [inputPairs]
      cases read : pair? argument with
      | none =>
          have no_pair : ¬IsPair argument := pair?_eq_none_iff.1 read
          constructor
          · intro failed
            cases failed
            exact ⟨[], argument, rest, rfl, nofun, no_pair, rfl⟩
          · rintro ⟨before, first, after, e, pairs, -, rfl⟩
            cases before with
            | nil =>
                obtain ⟨rfl, -⟩ := List.cons_eq_cons.1 e
                rfl
            | cons earlier before =>
                obtain ⟨rfl, -⟩ := List.cons_eq_cons.1 e
                exact absurd (pairs argument List.mem_cons_self) no_pair
      | some pair =>
          have is_pair : IsPair argument := by
            by_contra no_pair
            rw [pair?_eq_none_iff.2 no_pair] at read
            cases read
          have later : (inputPairs rest).map (pair :: ·) = .error fault ↔
              inputPairs rest = .error fault := by
            cases inputPairs rest with
            | error fault' => simp [Except.map]
            | ok found => simp [Except.map]
          rw [later, ih]
          constructor
          · rintro ⟨before, first, after, rfl, pairs, no_pair, rfl⟩
            exact ⟨argument :: before, first, after, rfl, List.forall_mem_cons.2 ⟨is_pair, pairs⟩,
              no_pair, rfl⟩
          · rintro ⟨before, first, after, e, pairs, no_pair, rfl⟩
            cases before with
            | nil =>
                obtain ⟨rfl, -⟩ := List.cons_eq_cons.1 e
                exact absurd is_pair no_pair
            | cons earlier before =>
                obtain ⟨rfl, rfl⟩ := List.cons_eq_cons.1 e
                exact ⟨before, first, after, rfl, (List.forall_mem_cons.1 pairs).2, no_pair, rfl⟩

/-- Arguments that are all pairs are read. -/
theorem exists_inputPairs {arguments : List String} (pairs : ∀ argument ∈ arguments, IsPair argument) :
    ∃ found, inputPairs arguments = .ok found := by
  cases read : inputPairs arguments with
  | ok found => exact ⟨found, rfl⟩
  | error fault =>
      obtain ⟨before, argument, after, rfl, -, no_pair, -⟩ := inputPairs_eq_error_iff.1 read
      exact absurd (pairs argument (List.mem_append_right _ List.mem_cons_self)) no_pair

section Read

variable {arguments : List String} {pairs : List (String × String)}

/-- The pairs that are read are those that the arguments give. -/
theorem exists_gives_iff (read : inputPairs arguments = .ok pairs) {key value : String} :
    (∃ argument ∈ arguments, Gives argument key value) ↔ (key, value) ∈ pairs := by
  have same := inputPairs_eq_ok_iff.1 read
  calc (∃ argument ∈ arguments, Gives argument key value)
      ↔ some (key, value) ∈ arguments.map pair? := by simp only [List.mem_map, pair?_eq_some_iff]
    _ ↔ (key, value) ∈ pairs := by rw [same]; simp

/-- In the table of the pairs a key has the value that the last argument of that key gives it. -/
theorem get?_ofList_iff_lastGiven (read : inputPairs arguments = .ok pairs) {key value : String} :
    (Table.ofList pairs).get? key = some value ↔ LastGiven arguments key value := by
  have same := inputPairs_eq_ok_iff.1 read
  rw [Table.get?_ofList_eq_some_iff]
  constructor
  · rintro ⟨before, after, rfl, other⟩
    rw [List.map_append, List.map_cons] at same
    obtain ⟨before', rest, rfl, -, same_rest⟩ := List.map_eq_append_iff.1 same
    obtain ⟨argument, after', rfl, here, same_after⟩ := List.map_eq_cons_iff.1 same_rest
    refine ⟨before', argument, after', rfl, pair?_eq_some_iff.1 here, ?_⟩
    intro later mem other_value gives
    -- what a later argument gives is one of the later pairs
    have given := List.mem_map_of_mem (f := pair?) mem
    rw [same_after, pair?_eq_some_iff.2 gives, List.mem_map] at given
    obtain ⟨entry, mem_after, e⟩ := given
    cases e
    exact other _ mem_after rfl
  · rintro ⟨before', argument, after', rfl, gives, last⟩
    rw [List.map_append, List.map_cons, pair?_eq_some_iff.2 gives] at same
    obtain ⟨before, rest, rfl, -, same_rest⟩ := List.map_eq_append_iff.1 same.symm
    obtain ⟨pair, after, rfl, here, same_after⟩ := List.map_eq_cons_iff.1 same_rest
    cases here
    refine ⟨before, after, rfl, ?_⟩
    rintro ⟨key', other_value⟩ mem rfl
    -- a later pair would be what a later argument gives
    have given := List.mem_map_of_mem (f := some) mem
    rw [same_after, List.mem_map] at given
    obtain ⟨later, mem_after, read_later⟩ := given
    exact last later mem_after other_value (pair?_eq_some_iff.1 read_later)

/-- The keys of that table are those that some argument gives a value. -/
theorem mem_keys_ofList_iff (read : inputPairs arguments = .ok pairs) {key : String} :
    key ∈ (Table.ofList pairs).keys ↔ ∃ argument ∈ arguments, ∃ value, Gives argument key value := by
  rw [Table.keys_ofList, List.mem_eraseDups, List.mem_map]
  constructor
  · rintro ⟨⟨key', value⟩, mem, rfl⟩
    obtain ⟨argument, mem_arguments, gives⟩ := (exists_gives_iff read).2 mem
    exact ⟨argument, mem_arguments, value, gives⟩
  · rintro ⟨argument, mem, value, gives⟩
    exact ⟨(key, value), (exists_gives_iff read).1 ⟨argument, mem, gives⟩, rfl⟩

end Read

/-- **How inputs are read.** Arguments are refused exactly if one of them is no pair, and what is said
quotes the first such one. Otherwise each key has the value after the first equals sign of the last argument
whose trimmed name is that key, no key has a blank character at either end, and a key is empty exactly if
the name of some argument is blank. -/
theorem inputPairs_read (arguments : List String) :
    ((∃ fault, inputPairs arguments = .error fault) ↔ ∃ argument ∈ arguments, ¬IsPair argument) ∧
    (∀ fault, inputPairs arguments = .error fault →
      ∃ before argument after, arguments = before ++ argument :: after ∧
        (∀ earlier ∈ before, IsPair earlier) ∧ ¬IsPair argument ∧ fault = .notAPair argument ∧
        fault.message = "Invalid value for --input: expected KEY=VALUE, got " ++ quoted argument) ∧
    ∀ pairs, inputPairs arguments = .ok pairs →
      let inputs := Table.ofList pairs
      (∀ key value, inputs.get? key = some value ↔ LastGiven arguments key value) ∧
      (∀ key ∈ inputs.keys, (∀ c ∈ key.toList.head?, isBlank c = false) ∧
        ∀ c ∈ key.toList.getLast?, isBlank c = false) ∧
      ("" ∈ inputs.keys ↔ ∃ argument ∈ arguments, ∃ name value,
        Splits argument name value ∧ name ≠ "" ∧ ∀ c ∈ name.toList, isBlank c = true) := by
  refine ⟨?refused, ?first, ?read⟩
  case refused =>
    constructor
    · rintro ⟨fault, failed⟩
      obtain ⟨before, argument, after, rfl, -, no_pair, -⟩ := inputPairs_eq_error_iff.1 failed
      exact ⟨argument, List.mem_append_right _ List.mem_cons_self, no_pair⟩
    · rintro ⟨argument, mem, no_pair⟩
      cases read : inputPairs arguments with
      | error fault => exact ⟨fault, rfl⟩
      | ok pairs =>
          have given := List.mem_map_of_mem (f := pair?) mem
          rw [pair?_eq_none_iff.2 no_pair, inputPairs_eq_ok_iff.1 read] at given
          simp at given
  case first =>
    intro fault failed
    obtain ⟨before, argument, after, split, pairs, no_pair, rfl⟩ := inputPairs_eq_error_iff.1 failed
    exact ⟨before, argument, after, split, pairs, no_pair, rfl, rfl⟩
  case read =>
    intro pairs read inputs
    refine ⟨fun key value => get?_ofList_iff_lastGiven read, ?_, ?_⟩
    · intro key mem
      obtain ⟨argument, -, value, name, -, -, rfl⟩ := (mem_keys_ofList_iff read).1 mem
      rw [trimmed, String.toList_ofList]
      exact ⟨isBlank_of_mem_head?_trim, isBlank_of_mem_getLast?_trim⟩
    · rw [mem_keys_ofList_iff read]
      constructor
      · rintro ⟨argument, mem, value, name, splits, ne, empty⟩
        exact ⟨argument, mem, name, value, splits, ne, trimmed_eq_empty_iff.1 empty⟩
      · rintro ⟨argument, mem, name, value, splits, ne, blank⟩
        exact ⟨argument, mem, value, name, splits, ne, trimmed_eq_empty_iff.2 blank⟩

/-- Arguments of one key in two spellings, with a value that holds equals signs, and one of a blank name. -/
def spacedArguments : List String := ["port=1", " port\t=a=b=", " =x"]

theorem inputPairs_read_spaced :
    inputPairs spacedArguments = .ok [("port", "1"), ("port", "a=b="), ("", "x")] ∧
      LastGiven spacedArguments "port" "a=b=" ∧
      (∃ argument ∈ spacedArguments, ∃ name value,
        Splits argument name value ∧ name ≠ "" ∧ ∀ c ∈ name.toList, isBlank c = true) ∧
      ∃ before argument after, "port=1" :: "=x" :: spacedArguments = before ++ argument :: after ∧
        (∀ earlier ∈ before, IsPair earlier) ∧ ¬IsPair argument := by
  have read : inputPairs spacedArguments = .ok [("port", "1"), ("port", "a=b="), ("", "x")] := by
    decide +kernel
  have failed : inputPairs ("port=1" :: "=x" :: spacedArguments) = .error (.notAPair "=x") := by
    decide +kernel
  obtain ⟨last, -, blank⟩ := (inputPairs_read spacedArguments).2.2 _ read
  obtain ⟨before, argument, after, split, pairs, no_pair, -⟩ := (inputPairs_read _).2.1 _ failed
  refine ⟨read, (last _ _).1 ?_, blank.1 ?_, before, argument, after, split, pairs, no_pair⟩
  · decide +kernel
  · decide +kernel

/-- An argument with nothing but blank characters before its first equals sign is read, as a pair with an
empty key. -/
theorem blank_name_is_read :
    inputPairs [" =x"] = .ok [("", "x")] ∧
      ¬∀ arguments, (∃ fault, inputPairs arguments = .error fault) ↔
        ∃ argument ∈ arguments, '=' ∉ argument.toList ∨
          ∃ name value, Splits argument name value ∧ ∀ c ∈ name.toList, isBlank c = true := by
  have read : inputPairs [" =x"] = .ok [("", "x")] := by decide +kernel
  refine ⟨read, ?_⟩
  intro claim
  have splits : Splits " =x" " " "x" := ⟨rfl, by decide +kernel⟩
  have blank : ∀ c ∈ " ".toList, isBlank c = true := by
    intro c mem
    obtain rfl : c = ' ' := List.mem_singleton.1 mem
    decide
  obtain ⟨fault, failed⟩ := (claim [" =x"]).2 ⟨_, List.mem_singleton_self _, .inr ⟨_, _, splits, blank⟩⟩
  rw [read] at failed
  cases failed

end ActionRehearsal.CommandLine
