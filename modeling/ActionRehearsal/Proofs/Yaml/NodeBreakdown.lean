import ActionRehearsal.Proofs.Yaml.TokenBreakdown
import ActionRehearsal.Yaml.Node

/-!
# Where reading nodes breaks down

Reading the nodes of a document breaks down where too many collections are open, or where the tokens end with a
breakdown (`Node.MayEnd`). No action that reads nodes changes the fault after the tokens, so this is shown of
each of them with it held fixed (`Node.Confined`). The functions of the grammar call each other with less room,
so they are confined together, by induction on the room (`Node.confinedIn`).

The main statement is `Node.breakdown_of_scanned`: before there is a document, a text breaks down at open
collections, or at a fault of its tokens.
-/

set_option autoImplicit false
set_option mvcgen.warning false

namespace ActionRehearsal.Yaml.Node

open Std.Do

/-- Whether reading nodes may break down so, before the end of tokens that have this fault after them. -/
def MayEnd (after? : Option Fault) (fault : Breakdown) : Prop :=
  fault = .tooDeep ∨ after? = some (.breakdown fault)

/-- Whether the fault after the tokens is the given one. -/
def Source.EndsWith (after? : Option Fault) (s : Source) : Prop := s.fault = after?

/-- Whether an action keeps the fault after the tokens, and breaks down only as reading nodes may. -/
abbrev Confined {α : Type} (after? : Option Fault) (action : Reader α) : Prop :=
  ⦃fun s => ⌜s.EndsWith after?⌝⦄ action ⦃Ends (Source.EndsWith after?) (MayEnd after?)⦄

variable {after? : Option Fault}

/-! ## Tokens -/

@[spec] theorem confined_peek : Confined after? peek := by
  intro ⟨tokens, fault, nesting, handles, named⟩ ends
  have same : fault = after? := ends
  subst same
  cases tokens with
  | cons token tokens => exact ends
  | nil =>
      cases fault with
      | none => exact ends
      | some fault =>
          cases fault with
          | malformed cause => exact trivial
          | breakdown fault => exact Or.inr rfl

@[spec] theorem confined_skip : Confined after? skip := fun _ ends => ends

@[spec] theorem confined_atToken (token : Token) : Confined after? (atToken token) := by
  mvcgen [atToken]

@[spec] theorem confined_atAny (tokens : List Token) : Confined after? (atAny tokens) := by
  mvcgen [atAny]

@[spec] theorem confined_expect (token : Token) : Confined after? (expect token) := by
  mvcgen [expect]

@[spec] theorem confined_place : Confined after? place := by
  mvcgen [place]

/-! ## Properties and names -/

@[spec] theorem confined_nameProperty : Confined after? nameProperty := by
  mvcgen [nameProperty]

@[spec] theorem confined_tagProperty : Confined after? tagProperty := by
  mvcgen [tagProperty]

@[spec] theorem confined_fullTag (handle : Option String) (suffix : String) :
    Confined after? (fullTag handle suffix) := by
  mvcgen [fullTag]

@[spec] theorem confined_properties : Confined after? properties := by
  mvcgen [properties]

@[spec] theorem confined_begin? (name : Option String) : Confined after? (begin? name) := by
  mvcgen [begin?]

@[spec] theorem confined_finish (name : Option String) (node : Node) :
    Confined after? (finish name node) := by
  mvcgen [finish]

@[spec] theorem confined_named (name : String) : Confined after? (named name) := by
  mvcgen [named]

@[spec] theorem confined_left (p : Properties) : Confined after? (left p) := by
  rw [left]
  mvcgen

/-! ## The grammar -/

/-- Opening one collection too many is how reading nodes breaks down by itself. -/
@[spec] theorem confined_opened {α : Type} {inside : Reader α} (h : Confined after? inside) :
    Confined after? (opened inside) := by
  mvcgen [opened, h]
  exact .inl rfl

/-- Whether the functions of the grammar are confined, with this room. -/
structure ConfinedIn (after? : Option Fault) (room : Nat) : Prop where
  read : ∀ block indentless, Confined after? (read room block indentless)
  readUnless : ∀ block indentless ends, Confined after? (readUnless room block indentless ends)
  blockItems : Confined after? (blockItems room)
  indentlessItems : Confined after? (indentlessItems room)
  blockEntries : Confined after? (blockEntries room)
  flowValue : ∀ closing, Confined after? (flowValue room closing)
  flowEntryOfSequence : Confined after? (flowEntryOfSequence room)
  flowItems : ∀ first, Confined after? (flowItems room first)
  flowEntries : ∀ first, Confined after? (flowEntries room first)

theorem confinedIn_zero : ConfinedIn after? 0 := by
  constructor
  · intro block indentless
    rw [read]
    mvcgen
  · intro block indentless ends
    rw [readUnless]
    mvcgen
  · rw [blockItems]
    mvcgen
  · rw [indentlessItems]
    mvcgen
  · rw [blockEntries]
    mvcgen
  · intro closing
    rw [flowValue]
    mvcgen
  · rw [flowEntryOfSequence]
    mvcgen
  · intro first
    rw [flowItems]
    mvcgen
  · intro first
    rw [flowEntries]
    mvcgen

section Grammar

variable {room : Nat} (ih : ConfinedIn after? room)
include ih

theorem confined_read (block indentless : Bool) :
    Confined after? (read (room + 1) block indentless) := by
  obtain ⟨-, -, items, indentless_items, entries, -, -, flow_items, flow_entries⟩ := ih
  rw [read]
  mvcgen
  · exact flow_items true
  · exact flow_entries true

theorem confined_readUnless (block indentless : Bool) (ends : List Token) :
    Confined after? (readUnless (room + 1) block indentless ends) := by
  obtain ⟨node, -⟩ := ih
  rw [readUnless]
  mvcgen [node]

theorem confined_blockItems : Confined after? (blockItems (room + 1)) := by
  obtain ⟨-, node, more, -⟩ := ih
  rw [blockItems]
  mvcgen [node, more]

theorem confined_indentlessItems : Confined after? (indentlessItems (room + 1)) := by
  obtain ⟨-, node, -, more, -⟩ := ih
  rw [indentlessItems]
  mvcgen [node, more]

theorem confined_blockEntries : Confined after? (blockEntries (room + 1)) := by
  obtain ⟨-, node, -, -, more, -⟩ := ih
  rw [blockEntries]
  mvcgen [node, more]

theorem confined_flowValue (closing : Token) : Confined after? (flowValue (room + 1) closing) := by
  obtain ⟨-, node, -⟩ := ih
  rw [flowValue]
  mvcgen [node]

theorem confined_flowEntryOfSequence : Confined after? (flowEntryOfSequence (room + 1)) := by
  obtain ⟨-, key, -, -, -, value, -⟩ := ih
  rw [flowEntryOfSequence]
  mvcgen [key, value]

theorem confined_flowItems (first : Bool) : Confined after? (flowItems (room + 1) first) := by
  obtain ⟨item, -, -, -, -, -, entry, more, -⟩ := ih
  rw [flowItems]
  mvcgen [item, more]

theorem confined_flowEntries (first : Bool) : Confined after? (flowEntries (room + 1) first) := by
  obtain ⟨node, key, -, -, -, value, -, -, more⟩ := ih
  rw [flowEntries]
  mvcgen [node, key, value, more]

end Grammar

theorem confinedIn (room : Nat) : ConfinedIn after? room := by
  induction room with
  | zero => exact confinedIn_zero
  | succ room ih =>
      exact ⟨confined_read ih, confined_readUnless ih, confined_blockItems ih,
        confined_indentlessItems ih, confined_blockEntries ih, confined_flowValue ih,
        confined_flowEntryOfSequence ih, confined_flowItems ih, confined_flowEntries ih⟩

/-! ## Documents -/

@[spec] theorem confined_directives (room : Nat) (versioned : Bool) (handles : Table String String) :
    Confined after? (directives room versioned handles) := by
  induction room generalizing versioned handles with
  | zero => mvcgen [directives]
  | succ room ih =>
      rw [directives]
      mvcgen [ih]

@[spec] theorem confined_skipEnds (room : Nat) : Confined after? (skipEnds room) := by
  induction room with
  | zero => mvcgen [skipEnds]
  | succ room ih =>
      rw [skipEnds]
      mvcgen [ih]

@[spec] theorem confined_atDirective : Confined after? atDirective := by
  mvcgen [atDirective]

@[spec] theorem confined_content (room : Nat) : Confined after? (content room) := by
  have node (block indentless : Bool) : Confined after? (read room block indentless) :=
    (confinedIn room).read block indentless
  mvcgen [content, node]

theorem confined_document (room : Nat) : Confined after? (document room) := by
  have node (block indentless : Bool) : Confined after? (read room block indentless) :=
    (confinedIn room).read block indentless
  mvcgen [document, node]

/-- **Before there is a document, a text breaks down where too many collections are open, or as its tokens
do.** -/
theorem breakdown_of_scanned [Platform] {text : List Char} {fault : Breakdown}
    (h : ofTokens (Layout.scanned text) = .error (.breakdown fault)) :
    fault = .tooDeep ∨
      (Layout.scanned text).fault = some (.breakdown fault) ∧ fault.IsLexical := by
  generalize tokens : Layout.scanned text = scanned at h ⊢
  let start : Source := ⟨scanned.tokens, scanned.fault, Platform.nesting, defaultHandles, {}⟩
  have broken : document (4 * scanned.tokens.length + 8) start = .error (.breakdown fault) := by
    rw [ofTokens] at h
    cases read : document (4 * scanned.tokens.length + 8) start with
    | ok found =>
        rw [read] at h
        cases h
    | error fault' =>
        rw [read] at h
        cases h
        rfl
  have begins : start.EndsWith scanned.fault := rfl
  have allowed : MayEnd scanned.fault fault :=
    within_of_ends (confined_document _) (s := start) begins broken
  rcases allowed with deep | after_tokens
  · exact .inl deep
  · refine .inr ⟨after_tokens, ?_⟩
    rw [← tokens] at after_tokens
    exact Layout.isLexical_of_scanned after_tokens

end ActionRehearsal.Yaml.Node
