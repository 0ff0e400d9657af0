import ActionRehearsal.Text.Lines
import ActionRehearsal.Text.Search
/-!
# Rules

A rule is a named list of patterns, and a text breaks or follows it as soon as one of them occurs
in the text. A pattern is a fixed text, after which a number of characters of one class may be
demanded.
-/

set_option autoImplicit false

namespace ActionRehearsal.Analysis

open ActionRehearsal.Text

/-- A pattern: a fixed text, followed by at least `least` characters of a class. -/
structure Pattern where
  start : String
  least : Nat := 0
  isTail : Char → Bool := fun _ => false

/-- Whether the pattern matches at the start of a text. -/
def Pattern.matchesAt (p : Pattern) (s : List Char) : Bool :=
  match literal p.start.toList s with
  | some rest => p.least ≤ (rest.takeWhile p.isTail).length
  | none => false

/-- Whether the pattern matches anywhere in a text. -/
def Pattern.occursIn (p : Pattern) : List Char → Bool
  | [] => p.matchesAt []
  | c :: s => p.matchesAt (c :: s) || p.occursIn s

/-- A named list of patterns. -/
structure Rule where
  name : String
  patterns : List Pattern

/-- Whether a text has one of the rule's patterns. -/
def Rule.hits (rule : Rule) (text : List Char) : Bool :=
  rule.patterns.any fun p => p.occursIn text

/-- Whether a text has a pattern of one of the rules. -/
def anyHits (rules : List Rule) (text : List Char) : Bool := rules.any fun rule => rule.hits text

/-! ## Families of rules -/

/-- ASCII letters and digits. -/
def isTokenChar (c : Char) : Bool := c.isAlphanum

/-- Literal tokens. -/
def literalTokens : List Rule := [
  ⟨"github-classic-token", [⟨"ghp_", 36, isTokenChar⟩]⟩,
  ⟨"github-fine-grained-pat", [⟨"github_pat_", 1, fun c => isTokenChar c || c = '_'⟩]⟩]

/-- Tokens that are put in from outside. -/
def tokenPassing : List Rule := [
  ⟨"x-access-token-interpolation", [{ start := "x-access-token:$\x7b\x7b" }]⟩]

/-- Removal of what a script has made. -/
def cleanup : List Rule := [
  ⟨"recursive-delete", [{ start := "rm -rf" }, { start := "Remove-Item -Recurse -Force" }]⟩]

/-- Tests for the configuration file. -/
def configFileTests : List Rule := [
  ⟨"wrangler-toml-exists",
    [{ start := "if [ -f wrangler.toml ]" }, { start := "Test-Path wrangler.toml" }]⟩]

/-- Messages about a missing configuration file. -/
def skipMessages : List Rule := [
  ⟨"wrangler-skip-message", [{ start := "No wrangler.toml found, skipping" }]⟩]

/-- Creation of the directory for documents. -/
def documentFolders : List Rule := [
  ⟨"docs-directory",
    [{ start := "mkdir -p docs" }, { start := "New-Item -ItemType Directory -Path docs" }]⟩]

/-! ## Scanning a document -/

/-- What a line holds that refers to a stored secret. -/
def secretReference : List Char := "$\x7b\x7b secrets.".toList

/-- The rules about literal tokens that a line breaks, if it refers to no stored secret. -/
def lineHits (line : List Char) : List Rule :=
  if occursIn secretReference line then [] else literalTokens.filter fun rule => rule.hits line

/-- Adds the names that are not yet there. -/
def addNew (names : List String) : List Rule → List String
  | [] => names
  | rule :: rest =>
    if names.contains rule.name then addNew names rest else addNew (names ++ [rule.name]) rest

/-- The names of the rules about literal tokens that some line of a text breaks, in order of first
occurrence. -/
def scanText (text : String) : List String :=
  (boundaryLines text.toList).foldl (fun names line => addNew names (lineHits line)) []

end ActionRehearsal.Analysis
