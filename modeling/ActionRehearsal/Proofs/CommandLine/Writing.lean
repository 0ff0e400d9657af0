import ActionRehearsal.CommandLine.Run
import Mathlib.Data.List.TakeWhile

/-!
# What is written of a run

A run prints texts, and they are written in an encoding that need not take all characters. If it takes
all that is printed among the results (`Encoding.writes`), everything is written and the run ends as it
would (`Outcome.writtenIn_of_writes`). Otherwise it is cut short by the first result that cannot be
written, and its exit status is 1 (`Outcome.status_writtenIn`).
-/

set_option autoImplicit false

namespace ActionRehearsal

/-! ## Writing texts -/

namespace Text.Encoding

variable {e : Encoding}

theorem faultOf?_eq_none_iff [Platform] {text : String} :
    e.faultOf? text = none ↔ e.takesAll text = true := by
  rw [takesAll, List.all_eq_true, ← List.dropWhile_eq_nil_iff, faultOf?]
  cases text.toList.dropWhile e.takes with
  | nil => exact iff_of_true rfl rfl
  | cons c rest => exact iff_of_false nofun nofun

/-- What is written of what is printed, if all results can be. -/
def rewritten [Platform] (e : Encoding) (print : Print) : Print :=
  match print.channel with
  | .results => print
  | .errors => ⟨.errors, e.replaced print.text⟩

theorem written_of_writes [Platform] {printed : Printed} (h : e.writes printed = true) :
    e.written printed = (printed.map e.rewritten, none) := by
  induction printed with
  | nil => rfl
  | cons print rest ih =>
      obtain ⟨here, later⟩ := Bool.and_eq_true_iff.1 (h : (_ && e.writes rest) = true)
      obtain ⟨channel, text⟩ := print
      cases channel with
      | errors =>
          rw [written, ih later]
          rfl
      | results =>
          have taken : e.faultOf? text = none := faultOf?_eq_none_iff.2 here
          simp only [written, taken, ih later]
          rfl

/-- Writing ends with a fault exactly if some result cannot be written. -/
theorem written_fault_iff [Platform] {printed : Printed} :
    (∃ fault, (e.written printed).2 = some fault) ↔ e.writes printed = false := by
  induction printed with
  | nil => exact iff_of_false nofun nofun
  | cons print rest ih =>
      obtain ⟨channel, text⟩ := print
      cases channel with
      | errors => exact ih
      | results =>
          have split : e.writes (⟨.results, text⟩ :: rest) = (e.takesAll text && e.writes rest) := rfl
          rw [split]
          cases taken : e.faultOf? text with
          | none =>
              have takes : e.takesAll text = true := faultOf?_eq_none_iff.1 taken
              simp only [written, taken, takes, Bool.true_and]
              exact ih
          | some fault =>
              have refused : e.takesAll text = false := by
                rw [← Bool.not_eq_true, ← faultOf?_eq_none_iff, taken]
                nofun
              simp only [written, taken, refused, Bool.false_and]
              exact iff_of_true ⟨fault, rfl⟩ trivial

/-- Results are written as they are. -/
theorem out_map_rewritten [Platform] (printed : Printed) :
    Printed.out (printed.map e.rewritten) = printed.out := by
  have same : (printed.map e.rewritten).filter (·.channel = .results) =
      printed.filter (·.channel = .results) := by
    induction printed with
    | nil => rfl
    | cons print rest ih =>
        obtain ⟨channel, text⟩ := print
        cases channel with
        | errors => exact ih
        | results => exact congrArg (_ :: ·) ih
  rw [Printed.out, Printed.on, same]
  rfl

/-- What is written among the results is what is printed there, up to some point. -/
theorem exists_out_eq_written_append [Platform] (printed : Printed) :
    ∃ rest, printed.out = (e.written printed).1.out ++ rest := by
  induction printed with
  | nil => exact ⟨"", rfl⟩
  | cons print later ih =>
      obtain ⟨channel, text⟩ := print
      cases channel with
      | errors => exact ih
      | results =>
          cases taken : e.faultOf? text with
          | none =>
              obtain ⟨rest, eq⟩ := ih
              have here (p : Printed) : Printed.out (⟨.results, text⟩ :: p) = text ++ "\n" ++ p.out :=
                String.join_cons
              refine ⟨rest, ?_⟩
              simp only [written, taken]
              rw [here, here, eq]
              simp only [String.append_assoc]
          | some fault =>
              simp only [written, taken]
              exact ⟨_, String.empty_append.symm⟩

/-- Whether an encoding takes all ASCII characters. -/
def TakesAscii (e : Encoding) : Prop := ∀ c : Char, c.toNat < 0x80 → e.takes c = true

theorem takesAll_append (s t : String) : e.takesAll (s ++ t) = (e.takesAll s && e.takesAll t) := by
  rw [takesAll, String.toList_append, List.all_append]
  rfl

theorem TakesAscii.takesAll (h : e.TakesAscii) {text : String}
    (ascii : (text.toList.all fun c => c.toNat < 0x80) = true) : e.takesAll text = true := by
  rw [List.all_eq_true] at ascii
  exact List.all_eq_true.2 fun c mem => h c (of_decide_eq_true (ascii c mem))

theorem writes_append (p q : Printed) : e.writes (p ++ q) = (e.writes p && e.writes q) :=
  List.all_append

theorem writes_concat_iff {parts : List Printed} :
    e.writes (.concat parts) = true ↔ ∀ part ∈ parts, e.writes part = true := by
  rw [writes, Printed.concat, List.all_flatten, List.all_eq_true]
  rfl

theorem writes_lines_iff {texts : List String} :
    e.writes (.lines texts) = true ↔ ∀ text ∈ texts, e.takesAll text = true := by
  rw [writes, Printed.lines, List.all_map, List.all_eq_true]
  rfl

end Text.Encoding

namespace CommandLine

open ActionRehearsal.Text

/-! ## Writing outcomes -/

section Outcomes

variable [Platform] {e : Encoding} {o : Outcome}

/-- A run of which all results can be written ends as it would. -/
theorem Outcome.writtenIn_of_writes (h : e.writes o.printed = true) :
    o.writtenIn e = { o with printed := o.printed.map e.rewritten } := by
  rw [writtenIn, Encoding.written_of_writes h]

/-- Any other run is cut short by a result that cannot be written. -/
theorem Outcome.exists_writtenIn_of_not_writes (h : e.writes o.printed = false) :
    ∃ fault, o.writtenIn e = .cut (e.written o.printed).1 (.unwritable fault) := by
  obtain ⟨fault, found⟩ := Encoding.written_fault_iff.2 h
  refine ⟨fault, ?_⟩
  have both : e.written o.printed = ((e.written o.printed).1, some fault) := Prod.ext rfl found
  rw [writtenIn, both]

/-- So its exit status is 1, and that of a run of which all is written is its own. -/
theorem Outcome.status_writtenIn :
    (o.writtenIn e).status = if e.writes o.printed then o.status else 1 := by
  cases h : e.writes o.printed with
  | true =>
      rw [writtenIn_of_writes h]
      rfl
  | false =>
      obtain ⟨fault, cut⟩ := exists_writtenIn_of_not_writes h
      rw [cut]
      rfl

end Outcomes

end CommandLine

end ActionRehearsal
