import ActionRehearsal.Text.Capital
import ActionRehearsal.Text.Encoding
import ActionRehearsal.Text.Lines
import ActionRehearsal.Value.Display
/-!
# Console

What is said to the user. `Printed` is what is printed, text by text, on one of two channels, one for
results and one for errors; every function of a `Console` gives what it prints. A console in debug
mode shows errors in full and prints debug lines.

What comes of it depends on the encoding of the channels: `Encoding.written` is what is written, up to
a result that cannot be.
-/

set_option autoImplicit false

namespace ActionRehearsal

open ActionRehearsal.Text

/-- The channels for results and for errors. -/
inductive Channel where
  | results
  | errors
  deriving DecidableEq

/-- A text that is printed at once. A newline comes after it. -/
structure Print where
  channel : Channel
  text : String
  deriving DecidableEq

/-- What is printed, in order. -/
abbrev Printed : Type := List Print

namespace Printed

/-- Nothing printed. -/
def nothing : Printed := []

/-- A line among the results. -/
def line (text : String) : Printed := [⟨.results, text⟩]

/-- A line among the errors. -/
def errorLine (text : String) : Printed := [⟨.errors, text⟩]

/-- Texts printed in turn. -/
def concat (parts : List Printed) : Printed := parts.flatten

/-- Lines among the results. -/
def lines (texts : List String) : Printed := texts.map (⟨.results, ·⟩)

/-- Lines among the errors. -/
def errorLines (texts : List String) : Printed := texts.map (⟨.errors, ·⟩)

/-- Texts, each with a newline after it. -/
def textOfLines (texts : List String) : String := String.join (texts.map (· ++ "\n"))

/-- All that is printed on a channel. -/
def on (channel : Channel) (printed : Printed) : String :=
  textOfLines ((printed.filter (·.channel = channel)).map (·.text))

/-- All that is printed among the results. -/
def out (printed : Printed) : String := printed.on .results

/-- All that is printed among the errors. -/
def err (printed : Printed) : String := printed.on .errors

theorem on_append (channel : Channel) (p q : Printed) :
    on channel (p ++ q) = p.on channel ++ q.on channel := by
  rw [on, textOfLines, List.filter_append, List.map_append, List.map_append, String.join_append]
  rfl

theorem out_lines (texts : List String) : (lines texts).out = textOfLines texts := by
  have all : (lines texts).filter (·.channel = .results) = lines texts :=
    List.filter_eq_self.2 fun print mem => by
      obtain ⟨text, -, rfl⟩ := List.mem_map.1 mem
      rfl
  rw [out, on, all, lines, List.map_map]
  exact congrArg textOfLines (List.map_id texts)

theorem err_errorLine (text : String) : (errorLine text).err = text ++ "\n" :=
  String.join_cons.trans (String.append_empty)

end Printed

/-! ## Writing -/

namespace Text.Encoding

/-- Whether all results can be written. -/
def writes (e : Encoding) (printed : Printed) : Bool :=
  printed.all fun print => print.channel = .errors || e.takesAll print.text

/-- What is written of what is printed, and the fault that ends the writing, if there is one: that of
the first result that cannot be written. In errors such characters are replaced. -/
def written [Platform] (e : Encoding) : Printed → Printed × Option EncodingFault
  | [] => ([], none)
  | ⟨.errors, text⟩ :: rest =>
    let (more, fault) := written e rest
    (⟨.errors, e.replaced text⟩ :: more, fault)
  | ⟨.results, text⟩ :: rest => match e.faultOf? text with
    | some fault => ([], some fault)
    | none =>
      let (more, fault) := written e rest
      (⟨.results, text⟩ :: more, fault)

end Text.Encoding

/-- Where reports are printed. -/
structure Console where
  debug : Bool := false
  deriving DecidableEq

namespace Console

/-- The console in use: the one that was chosen, or else one without debug mode. -/
def inUse (chosen : Option Console) : Console := chosen.getD {}

/-! ## Reports -/

/-- The width of the rules around results. -/
def ruleWidth : Nat := 40

/-- A line of one character. -/
def rule (c : Char) (width : Nat) : String := String.ofList (List.replicate width c)

/-- A heading, underlined. -/
def header (title : String) : Printed :=
  Printed.lines ["\n" ++ title, rule '-' title.toList.length]

/-- An indented label, with its value if one is given. -/
def item (label : String) (value : Value) : Printed :=
  match value with
  | .null => Printed.line ("  " ++ label)
  | value => Printed.line ("  " ++ label ++ ": " ++ value.display)

/-- The answer to a question. -/
def check (label : String) (holds : Bool) : Printed :=
  Printed.line ("  " ++ label ++ ": " ++ if holds then "yes" else "no")

/-! ## Rehearsals -/

/-- The start of a step. -/
def step (name : String) : Printed := Printed.line ("STEP: " ++ name)

/-- A step whose guard does not hold. -/
def skipped (name : String) : Printed :=
  step name ++ Printed.line "STATUS: skipped (condition not met)"

/-- The success of a step, with its outputs. -/
def success (outputs : List (String × String)) : Printed :=
  Printed.lines ("STATUS: success" :: outputs.map fun entry => "  " ++ entry.1 ++ " = " ++ entry.2)

/-- The first line of a reason. -/
def firstLine (reason : String) : String :=
  match splitAtNewlines reason.toList with
  | [] => ""
  | line :: _ => String.ofList line

/-- The failure of a step: in debug mode the whole reason, or else its first line. -/
def failure (console : Console) (name reason : String) : Printed :=
  Printed.lines ["STEP FAILED: " ++ name,
    if console.debug then "Error details: " ++ reason
    else "Error: " ++ if reason = "" then "Unknown error" else firstLine reason]

/-- The table of results. -/
def results (rows : List (String × String)) : Printed :=
  Printed.lines (["\n" ++ rule '=' ruleWidth, "RESULTS", rule '=' ruleWidth]
    ++ rows.map fun row => "  " ++ row.1 ++ ": " ++ capitals row.2)

/-- The table has a heading between two rules and one line for each row, with the status in capital
letters. -/
theorem out_results (rows : List (String × String)) :
    (results rows).out = "\n" ++ rule '=' ruleWidth ++ "\nRESULTS\n" ++ rule '=' ruleWidth ++ "\n"
      ++ Printed.textOfLines (rows.map fun row => "  " ++ row.1 ++ ": " ++ capitals row.2) := by
  rw [results, Printed.out_lines, Printed.textOfLines, List.map_append, String.join_append]
  rfl

/-! ## Errors -/

/-- An error with its explanation, details and a suggestion, which may be empty. -/
def error (title message : String) (details : List String) (suggestion : String) : Printed :=
  Printed.errorLine ("\n".intercalate (["\nERROR: " ++ title, message]
    ++ details.map (fun detail => "  " ++ detail)
    ++ (if suggestion = "" then [] else ["\n" ++ suggestion])))

/-- Lines with a newline between any two, and one at the end. -/
theorem intercalate_newline_append {lines : List String} (ne : lines ≠ []) :
    "\n".intercalate lines ++ "\n" = Printed.textOfLines lines := by
  induction lines with
  | nil => exact absurd rfl ne
  | cons line rest ih =>
      cases rest with
      | nil => exact (String.join_cons.trans String.append_empty).symm
      | cons second rest =>
          rw [String.intercalate_cons_cons, String.append_assoc, ih (List.cons_ne_nil _ _)]
          exact String.join_cons.symm

/-- An error with a suggestion: an empty line, the title, the explanation, one line for each detail, and
the suggestion after another empty line. -/
theorem err_error {title message suggestion : String} {details : List String}
    (given : suggestion ≠ "") :
    (error title message details suggestion).err =
      "\nERROR: " ++ title ++ "\n" ++ message ++ "\n"
        ++ Printed.textOfLines (details.map ("  " ++ ·)) ++ "\n" ++ suggestion ++ "\n" := by
  rw [error, Printed.err_errorLine, intercalate_newline_append (by simp), if_neg given]
  simp only [Printed.textOfLines, List.map_append, List.map_cons, List.map_nil, String.join_append,
    String.join_cons, String.join_nil, String.append_assoc, String.append_empty]

/-- How the full account of an exception begins. -/
def accountHeading : String := "Details of the error:"

/-- An exception: in debug mode its kind and text under a heading, or else its text. -/
def exception (console : Console) (kind text : String) : Printed :=
  if console.debug then
    Printed.errorLine accountHeading ++ Printed.errorLine (kind ++ ": " ++ text)
  else Printed.errorLine ("Error: " ++ text)

/-- A debug line. -/
def note (console : Console) (text : String) : Printed :=
  if console.debug then Printed.errorLine ("[DEBUG] " ++ text) else Printed.nothing

end Console

end ActionRehearsal
