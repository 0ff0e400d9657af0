import ActionRehearsal.Calendar.Basic
import ActionRehearsal.Number.Numeral
/-!
# Why a YAML text has no value

Most faults make the text malformed. A `Breakdown` is told apart from those: reading ends where
something comes up that is not provided for, such as a scalar that has the form of a number or a
date and is none.
-/

set_option autoImplicit false

namespace ActionRehearsal.Yaml

/-- What is wrong with a malformed text. -/
inductive Malformed where
  | unprintable
  | strayCharacter
  | missingColon
  | misplacedEntry
  | misplacedKey
  | misplacedValue
  | badDirective
  | badAnchor
  | badTag
  | badBlockHeader
  | badEscape
  | unclosedQuote
  | unexpectedToken
  | undefinedAlias
  | repeatedAnchor
  | undefinedHandle
  | secondDocument
  | unknownTag
  | wrongKind
  | unhashableKey
  | badMerge
  | badBinary
  deriving DecidableEq

/-- The wording of what is wrong. -/
def Malformed.message : Malformed → String
  | .unprintable => "special characters are not allowed"
  | .strayCharacter => "found a character that cannot start any token"
  | .missingColon => "could not find expected ':' after a simple key"
  | .misplacedEntry => "sequence entries are not allowed here"
  | .misplacedKey => "mapping keys are not allowed here"
  | .misplacedValue => "mapping values are not allowed here"
  | .badDirective => "found an ill-formed directive"
  | .badAnchor => "found an ill-formed anchor or alias"
  | .badTag => "found an ill-formed tag"
  | .badBlockHeader => "found an ill-formed header of a block scalar"
  | .badEscape => "found an unknown escape character"
  | .unclosedQuote => "found no end of a quoted scalar"
  | .unexpectedToken => "found an unexpected token"
  | .undefinedAlias => "found undefined alias"
  | .repeatedAnchor => "found duplicate anchor"
  | .undefinedHandle => "found undefined tag handle"
  | .secondDocument => "expected a single document in the stream"
  | .unknownTag => "could not determine a constructor for the tag"
  | .wrongKind => "found a node of an unexpected kind"
  | .unhashableKey => "found unhashable key"
  | .badMerge => "expected a mapping or list of mappings for merging"
  | .badBinary => "failed to decode base64 data"

/-- What comes up in a text and is not provided for: a scalar that is not of the kind that it is
tagged or written as, a numeral that is too long, a code point that no character has, or too many
open collections. -/
inductive Breakdown where
  | numeral (fault : Number.NumeralFault)
  | calendar (fault : Calendar.CalendarFault)
  | noBoolean (word : String)
  | noCharacter
  | noTimestamp
  | noText
  | hugeUnit
  | codePoint (n : Nat)
  | tooDeep
  deriving DecidableEq

/-- The code points from here on are too large for a machine integer. -/
def machineIntegers : Nat := 0x80000000

/-- The wording of a breakdown. -/
def Breakdown.message : Breakdown → String
  | .numeral fault => fault.message
  | .calendar fault => fault.message
  | .noBoolean word => Text.quoted word
  | .noCharacter => "string index out of range"
  | .noTimestamp => "'NoneType' object has no attribute 'groupdict'"
  | .noText => "expected string or bytes-like object, got 'list'"
  | .hugeUnit => "int too large to convert to float"
  | .codePoint n =>
    if n < machineIntegers then "chr() arg not in range(0x110000)"
    else "Python int too large to convert to C int"
  | .tooDeep => "maximum recursion depth exceeded"

/-- Why a text has no value. -/
inductive Fault where
  | malformed (cause : Malformed)
  | breakdown (fault : Breakdown)
  deriving DecidableEq

/-- Ends a reading at what is malformed. -/
def fail {m : Type → Type} [MonadExcept Fault m] {α : Type} (cause : Malformed) : m α :=
  throw (.malformed cause)

/-- Ends a reading at what is not provided for. -/
def breakOff {m : Type → Type} [MonadExcept Fault m] {α : Type} (fault : Breakdown) : m α :=
  throw (.breakdown fault)

end ActionRehearsal.Yaml
