import ActionRehearsal.Yaml.Cursor
/-!
# Plain scalars

A plain scalar is text without quotation marks. It ends before a comment, before a colon that
stands alone, in flow collections before their marks, and where a line is not indented far
enough. Inside it a line end is folded: one becomes a space, of several the first is dropped.
-/

set_option autoImplicit false

namespace ActionRehearsal.Yaml

/-- The marks of flow collections. -/
def isFlowMark (c : Char) : Bool := [',', '[', ']', '{', '}'].contains c

/-- Whether a colon before `next` ends a plain scalar. -/
def colonEnds (inFlow : Bool) (next : Option Char) : Bool :=
  endOr (fun c => isGap c || (inFlow && isFlowMark c)) next

/-- The longest run of characters of a plain scalar within a line, up to the first gap. -/
def plainRun (inFlow : Bool) : List Char → List Char
  | [] => []
  | c :: rest =>
    if isGap c || (c = ':' && colonEnds inFlow rest.head?)
        || (inFlow && (isFlowMark c || c = '?')) then []
    else c :: plainRun inFlow rest

/-- Reads the spaces and line ends after the first line end inside a plain scalar. Gives the line
ends, or nothing when a document mark follows one. -/
def plainBreaks (room : Nat) (found : List Char) : Scan (Option (List Char)) := do
  match room with
  | 0 => return some found
  | room + 1 =>
    match ← Scan.peek with
    | some ' ' => Scan.skip 1; plainBreaks room found
    | some c =>
      if isBreak c then
        let found := found ++ (← Scan.lineBreak)
        if (← get).atDocumentMark then return none
        plainBreaks room found
      else return some found
    | none => return some found

/-- Reads the gap between two runs of a plain scalar. Gives the text that stands for it, empty if
the scalar ends here, and whether a line ended. -/
def plainGap : Scan (List Char × Bool) := do
  let spaces ← Scan.takeWhile (· = ' ')
  if !nextIs isBreak (← Scan.peek) then return (spaces, false)
  let first ← Scan.lineBreak
  if (← get).atDocumentMark then return ([], true)
  match ← plainBreaks (← Scan.room) [] with
  | none => return ([], true)
  | some more =>
    let lead := if first ≠ ['\n'] then first else if more.isEmpty then [' '] else []
    return (lead ++ more, true)

/-- Reads the runs of a plain scalar: `found` is its text so far and `gap` what stands before the
next run. Lines after the first start at column `indent` or later, outside flow collections.
Gives the text and whether a line ended after it. -/
def plainRuns (inFlow : Bool) (indent : Int) (room : Nat) (found gap : List Char)
    (crossed : Bool) : Scan (List Char × Bool) := do
  match room with
  | 0 => return (found, crossed)
  | room + 1 =>
    if (← Scan.peek) = some '#' then return (found, crossed)
    let run := plainRun inFlow (← get).rest
    if run.isEmpty then return (found, crossed)
    Scan.skip run.length
    let found := found ++ gap ++ run
    let (gap, crossed) ← plainGap
    if gap.isEmpty || (← Scan.peek) = some '#'
        || (!inFlow && ((← get).column : Int) < indent) then return (found, crossed)
    plainRuns inFlow indent room found gap crossed

/-- Reads a plain scalar. Gives its text and whether a line ended after it. -/
def plainScalar (inFlow : Bool) (indent : Int) : Scan (List Char × Bool) := do
  plainRuns inFlow indent (← Scan.room) [] [] false

end ActionRehearsal.Yaml
