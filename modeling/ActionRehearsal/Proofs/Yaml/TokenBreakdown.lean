import ActionRehearsal.Proofs.Number.Numeral
import ActionRehearsal.Yaml.Layout
import Mathlib

/-!
# Where reading tokens breaks down

Reading the tokens of a text breaks down in two ways only (`Breakdown.IsLexical`): at a number of a version
directive that has too many digits, and at an escape with the code point of no character. Everything else that
is wrong with a text makes it malformed.

`Ends` is what is shown of an action: what it keeps, and how it may break down. There is one statement
`Lexical` for each action that reads tokens, which follows from those of the actions that it is made of; where
it repeats itself, by induction on its room. The main statement is `isLexical_of_scanned`.
-/

set_option autoImplicit false
set_option mvcgen.warning false

namespace ActionRehearsal.Yaml

open Std.Do

/-! ## How actions end -/

/-- Whether a fault is that of a malformed text, or a breakdown in one of the given ways. -/
def Fault.Within (ways : Breakdown → Prop) : Fault → Prop
  | .malformed _ => True
  | .breakdown fault => ways fault

/-- To keep what holds of the state, or to end with a fault within the given ways. -/
abbrev Ends {σ α : Type} (keeps : σ → Prop) (ways : Breakdown → Prop) :
    PostCond α (.arg σ (.except Fault .pure)) :=
  post⟨fun _ s => ⌜keeps s⌝, fun fault => ⌜fault.Within ways⌝⟩

section Actions

variable {σ α : Type} {keeps : σ → Prop} {ways : Breakdown → Prop} {action : StateT σ (Except Fault) α}

@[spec] theorem fail_spec (cause : Malformed) {Q : PostCond α (.arg σ (.except Fault .pure))} :
    ⦃fun _ => Q.2.1 (.malformed cause)⦄ (fail cause : StateT σ (Except Fault) α) ⦃Q⦄ :=
  fun _ h => h

@[spec] theorem breakOff_spec (fault : Breakdown) {Q : PostCond α (.arg σ (.except Fault .pure))} :
    ⦃fun _ => Q.2.1 (.breakdown fault)⦄ (breakOff fault : StateT σ (Except Fault) α) ⦃Q⦄ :=
  fun _ h => h

/-- What is asked of the end of an action is asked of what it gives. -/
theorem wp_apply (Q : PostCond α (.arg σ (.except Fault .pure))) (s : σ) :
    wp⟦action⟧ Q s = match action s with
      | .ok found => Q.1 found.1 found.2
      | .error fault => Q.2.1 fault := by
  show wp⟦action s⟧ (fun found => Q.1 found.1 found.2, Q.2) = _
  cases action s with
  | ok found => rfl
  | error fault => rfl

/-- The fault of an action that is known to end so. -/
theorem within_of_ends {P : Assertion (.arg σ (.except Fault .pure))}
    (h : ⦃P⦄ action ⦃Ends keeps ways⦄) {s : σ} (start : (P s).down) {fault : Fault}
    (failed : action s = .error fault) : fault.Within ways := by
  have ends : (wp⟦action⟧ (Ends keeps ways) s).down := h s start
  rw [wp_apply, failed] at ends
  exact ends

end Actions

/-- Whether reading tokens may break down so: at a numeral with too many digits, or at a code point beyond the
last character. -/
def Breakdown.IsLexical : Breakdown → Prop
  | .numeral (.tooManyDigits count) => Number.digitLimit < count
  | .codePoint n => 0x110000 ≤ n
  | _ => False

/-- Whether an action breaks down only as reading tokens may. -/
abbrev Lexical {σ α : Type} (action : StateT σ (Except Fault) α) : Prop :=
  ⦃⌜True⌝⦄ action ⦃Ends (fun _ => True) Breakdown.IsLexical⦄

theorem lexical_of_forall {σ α : Type} {action : StateT σ (Except Fault) α}
    (h : ∀ s fault, action s = .error (.breakdown fault) → fault.IsLexical) : Lexical action := by
  intro s _
  rw [wp_apply]
  cases run : action s with
  | ok found => exact trivial
  | error fault =>
      cases fault with
      | malformed cause => exact trivial
      | breakdown fault => exact h s fault run

/-! ## Positions -/

namespace Scan

@[spec] theorem lexical_peek : Lexical peek := by
  mvcgen [peek]

@[spec] theorem lexical_skip (n : Nat) : Lexical (Scan.skip n) := by
  mvcgen [Scan.skip]

/-- What is read as a run of a class is of the class. -/
@[spec] theorem lexical_takeWhile (isMember : Char → Bool) :
    ⦃⌜True⌝⦄ Scan.takeWhile isMember
    ⦃post⟨fun run _ => ⌜∀ c ∈ run, isMember c = true⌝, fun fault => ⌜fault.Within Breakdown.IsLexical⌝⟩⦄ := by
  mvcgen [Scan.takeWhile]
  exact fun c mem => List.mem_takeWhile_imp mem

@[spec] theorem lexical_skipSpaces : Lexical skipSpaces := by
  mvcgen [skipSpaces]

@[spec] theorem lexical_expect (isMember : Char → Bool) (cause : Malformed) :
    Lexical (Scan.expect isMember cause) := by
  mvcgen [Scan.expect]

@[spec] theorem lexical_demandEndOr (isMember : Char → Bool) (cause : Malformed) :
    Lexical (demandEndOr isMember cause) := by
  mvcgen [demandEndOr]

@[spec] theorem lexical_lineBreak : Lexical lineBreak := by
  mvcgen [lineBreak]

@[spec] theorem lexical_skipComment : Lexical skipComment := by
  mvcgen [skipComment]

@[spec] theorem lexical_ignoredLine (cause : Malformed) : Lexical (ignoredLine cause) := by
  mvcgen [ignoredLine]

@[spec] theorem lexical_room : Lexical room := by
  mvcgen [room]

end Scan

/-! ## Names and tags -/

@[spec] theorem lexical_word (cause : Malformed) : Lexical (word cause) := by
  mvcgen [word]

@[spec] theorem lexical_anchorName : Lexical anchorName := by
  mvcgen [anchorName]

@[spec] theorem lexical_hexNumber (n : Nat) (cause : Malformed) : Lexical (hexNumber n cause) := by
  mvcgen [hexNumber]

section Tags

variable {byte : Scan Nat} (lexical_byte : Lexical byte)
include lexical_byte

@[spec] theorem lexical_tagEscapes (room : Nat) (found : List UInt8) :
    Lexical (tagEscapes byte room found) := by
  induction room generalizing found with
  | zero => mvcgen [tagEscapes]
  | succ room ih =>
      rw [tagEscapes]
      mvcgen [lexical_byte, ih]

@[spec] theorem lexical_tagText (decode? : List UInt8 → Option String) (room : Nat) (found : String) :
    Lexical (tagText byte decode? room found) := by
  induction room generalizing found with
  | zero => mvcgen [tagText]
  | succ room ih =>
      rw [tagText]
      mvcgen [ih]

end Tags

@[spec] theorem lexical_tagHandle (cause : Malformed) : Lexical (tagHandle cause) := by
  mvcgen [tagHandle]

/-! ## Quoted scalars -/

@[spec] theorem lexical_quotedBreaks (room : Nat) (found : List Char) :
    Lexical (quotedBreaks room found) := by
  induction room generalizing found with
  | zero => mvcgen [quotedBreaks]
  | succ room ih =>
      rw [quotedBreaks]
      mvcgen [ih]

@[spec] theorem lexical_quotedGap : Lexical quotedGap := by
  mvcgen [quotedGap]

/-- A number that is neither the code point of a half nor that of a character is beyond the last one. -/
theorem le_of_not_isValidChar {n : Nat} (no_half : Half.ofCodePoint? n = none)
    (invalid : ¬n.isValidChar) : 0x110000 ≤ n := by
  rw [Half.ofCodePoint?, Half.numberedFrom?] at no_half
  have apart : ¬(Half.firstCodePoint ≤ n ∧ n - Half.firstCodePoint < halfCount) := by
    intro range
    rw [dif_pos range] at no_half
    cases no_half
  simp only [Half.firstCodePoint, halfCount] at apart
  simp only [Nat.isValidChar] at invalid
  omega

section Quoted

variable [Platform]

@[spec] theorem lexical_charWithCode (n : Nat) : Lexical (charWithCode n) := by
  mvcgen [charWithCode]
  rename_i no_half invalid _
  exact le_of_not_isValidChar no_half invalid

@[spec] theorem lexical_escaped : Lexical escaped := by
  mvcgen [escaped]

@[spec] theorem lexical_quotedRun (double : Bool) (room : Nat) (found : List Char) :
    Lexical (quotedRun double room found) := by
  induction room generalizing found with
  | zero => mvcgen [quotedRun]
  | succ room ih =>
      rw [quotedRun]
      mvcgen [ih]

@[spec] theorem lexical_quotedParts (double : Bool) (room : Nat) (found : List Char) :
    Lexical (quotedParts double room found) := by
  induction room generalizing found with
  | zero => mvcgen [quotedParts]
  | succ room ih =>
      rw [quotedParts]
      mvcgen [ih]

@[spec] theorem lexical_quotedScalar (double : Bool) : Lexical (quotedScalar double) := by
  mvcgen [quotedScalar]

end Quoted

/-! ## Plain scalars -/

@[spec] theorem lexical_plainBreaks (room : Nat) (found : List Char) :
    Lexical (plainBreaks room found) := by
  induction room generalizing found with
  | zero => mvcgen [plainBreaks]
  | succ room ih =>
      rw [plainBreaks]
      mvcgen [ih]

@[spec] theorem lexical_plainGap : Lexical plainGap := by
  mvcgen [plainGap]

@[spec] theorem lexical_plainRuns (inFlow : Bool) (indent : Int) (room : Nat)
    (found gap : List Char) (crossed : Bool) :
    Lexical (plainRuns inFlow indent room found gap crossed) := by
  induction room generalizing found gap crossed with
  | zero => mvcgen [plainRuns]
  | succ room ih =>
      rw [plainRuns]
      mvcgen [ih]

@[spec] theorem lexical_plainScalar (inFlow : Bool) (indent : Int) :
    Lexical (plainScalar inFlow indent) := by
  mvcgen [plainScalar]

/-! ## Block scalars -/

@[spec] theorem lexical_indentMark : Lexical indentMark := by
  mvcgen [indentMark]

@[spec] theorem lexical_chompingMark : Lexical chompingMark := by
  mvcgen [chompingMark]

@[spec] theorem lexical_blockHeader : Lexical blockHeader := by
  mvcgen [blockHeader]

@[spec] theorem lexical_leadingBreaks (room : Nat) (found : List Char) (deepest : Nat) :
    Lexical (leadingBreaks room found deepest) := by
  induction room generalizing found deepest with
  | zero => mvcgen [leadingBreaks]
  | succ room ih =>
      rw [leadingBreaks]
      mvcgen [ih]

@[spec] theorem lexical_skipToColumn (indent : Nat) : Lexical (skipToColumn indent) := by
  mvcgen [skipToColumn]

@[spec] theorem lexical_blockBreaks (indent room : Nat) (found : List Char) :
    Lexical (blockBreaks indent room found) := by
  induction room generalizing found with
  | zero => mvcgen [blockBreaks]
  | succ room ih =>
      rw [blockBreaks]
      mvcgen [ih]

@[spec] theorem lexical_blockLines (folded : Bool) (indent room : Nat) (found last breaks : List Char) :
    Lexical (blockLines folded indent room found last breaks) := by
  induction room generalizing found last breaks with
  | zero => mvcgen [blockLines]
  | succ room ih =>
      rw [blockLines]
      mvcgen [ih]

@[spec] theorem lexical_blockScalar (folded : Bool) (indent : Int) :
    Lexical (blockScalar folded indent) := by
  mvcgen [blockScalar]

/-! ## Layout -/

namespace Layout

theorem scan_apply {α : Type} (action : Scan α) (s : Layout) :
    scan action s =
      (action s.cursor).map fun found => (found.1, { s with cursor := found.2 }) := by
  have steps : scan action s =
      ((action s.cursor).bind fun found => .ok (found, s)).bind fun read =>
        .ok (read.1.1, { s with cursor := read.1.2 }) := rfl
  rw [steps]
  cases action s.cursor with
  | ok found => rfl
  | error fault => rfl

/-- A scan at the position of the state breaks down as it does alone. -/
@[spec] theorem lexical_scan {α : Type} {action : Scan α} (h : Lexical action) :
    Lexical (scan action) := by
  apply lexical_of_forall
  intro s fault failed
  rw [scan_apply] at failed
  cases run : action s.cursor with
  | ok found =>
      rw [run] at failed
      cases failed
  | error fault' =>
      rw [run] at failed
      cases failed
      exact within_of_ends h trivial run

@[spec] theorem lexical_emit (token : Token) : Lexical (emit token) := by
  mvcgen [emit]

@[spec] theorem lexical_emitMark (n : Nat) (token : Token) : Lexical (emitMark n token) := by
  mvcgen [emitMark]

@[spec] theorem lexical_allowKey (allowed : Bool) : Lexical (allowKey allowed) := by
  mvcgen [allowKey]

@[spec] theorem lexical_inFlow : Lexical inFlow := by
  mvcgen [inFlow]

@[spec] theorem lexical_dropStale : Lexical dropStale := by
  mvcgen [dropStale]

@[spec] theorem lexical_dropPending : Lexical dropPending := by
  mvcgen [dropPending]

@[spec] theorem lexical_savePending : Lexical savePending := by
  mvcgen [savePending]

@[spec] theorem lexical_unwind (column : Int) : Lexical (unwind column) := by
  mvcgen [unwind]

@[spec] theorem lexical_open? (column : Int) : Lexical (open? column) := by
  mvcgen [open?]

@[spec] theorem lexical_column : Lexical column := by
  mvcgen [column]

@[spec] theorem lexical_skipToToken (room : Nat) : Lexical (skipToToken room) := by
  induction room with
  | zero => mvcgen [skipToToken]
  | succ room ih =>
      rw [skipToToken]
      mvcgen [ih]

/-! ## Tokens one by one -/

@[spec] theorem lexical_byteDigits : Lexical byteDigits := by
  mvcgen [byteDigits]

@[spec] theorem lexical_fullTagText : Lexical fullTagText := by
  mvcgen [fullTagText]

@[spec] theorem lexical_tagToken : Lexical tagToken := by
  mvcgen [tagToken]

@[spec] theorem lexical_decimalDigits : Lexical decimalDigits := by
  mvcgen [decimalDigits]
  -- a run of digits that is not empty
  rename_i run _ some_digit fault failed _ digits
  have ne : run ≠ [] := fun empty => some_digit (List.isEmpty_iff.2 empty)
  obtain ⟨rfl, many⟩ := Number.readInteger_of_digits digits ne failed
  exact many

@[spec] theorem lexical_directiveToken : Lexical directiveToken := by
  mvcgen [directiveToken]

@[spec] theorem lexical_documentToken {token : Reader Unit} (h : Lexical token) :
    Lexical (documentToken token) := by
  mvcgen [documentToken, h]

@[spec] theorem lexical_flowStart (token : Token) : Lexical (flowStart token) := by
  mvcgen [flowStart]

@[spec] theorem lexical_flowEnd (token : Token) : Lexical (flowEnd token) := by
  mvcgen [flowEnd]

@[spec] theorem lexical_flowEntry : Lexical flowEntry := by
  mvcgen [flowEntry]

@[spec] theorem lexical_blockEntry : Lexical blockEntry := by
  mvcgen [blockEntry]

@[spec] theorem lexical_keyMark : Lexical keyMark := by
  mvcgen [keyMark]

@[spec] theorem lexical_valueMark : Lexical valueMark := by
  mvcgen [valueMark]

@[spec] theorem lexical_keyStart {token : Scan Token} (h : Lexical token) : Lexical (keyStart token) := by
  mvcgen [keyStart]

@[spec] theorem lexical_plainToken : Lexical plainToken := by
  mvcgen [plainToken]

@[spec] theorem lexical_blockToken (folded : Bool) : Lexical (blockToken folded) := by
  mvcgen [blockToken]

section Tokens

variable [Platform]

@[spec] theorem lexical_tokenAt (c : Char) : Lexical (tokenAt c) := by
  mvcgen [tokenAt]

theorem lexical_readNext : Lexical readNext := by
  mvcgen [readNext]

/-! ## All tokens -/

theorem isLexical_of_readAll {room : Nat} {s : Layout} {fault : Breakdown}
    (h : (readAll room s).fault = some (.breakdown fault)) : fault.IsLexical := by
  induction room generalizing s with
  | zero => cases h
  | succ room ih =>
      rw [readAll] at h
      split at h
      · exact ih h
      · cases h
      · rename_i failed
        cases h
        exact within_of_ends lexical_readNext trivial failed

/-- **Reading tokens breaks down at a numeral that is too long or at a code point that no character has.** -/
theorem isLexical_of_scanned {text : List Char} {fault : Breakdown}
    (h : (scanned text).fault = some (.breakdown fault)) : fault.IsLexical := by
  rw [scanned] at h
  split at h
  · exact isLexical_of_readAll h
  · cases h

end Tokens

end Layout

end ActionRehearsal.Yaml
