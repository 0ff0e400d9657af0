/-!
# Likeness of texts

How alike two texts are is the share of their characters that lie in common runs: the longest
common run, and then the common runs on either side of it. `alikes` picks from a list the few
texts that are most like a given one.
-/

set_option autoImplicit false

namespace ActionRehearsal.Text

/-- The number of characters in which two texts agree from the start. -/
def agreement : List Char → List Char → Nat
  | a :: s, b :: t => if a = b then agreement s t + 1 else 0
  | _, _ => 0

/-- A common run of two texts: where it starts in each, and its length. -/
structure CommonRun where
  left : Nat
  right : Nat
  length : Nat
  deriving DecidableEq

/-- The longer of two runs, and the first of two that are equally long. -/
def CommonRun.longer (r q : CommonRun) : CommonRun := if r.length < q.length then q else r

/-- The longest common run; of several, the one furthest left in the first text and then in the
second. -/
def longestRun (s t : List Char) : CommonRun :=
  (List.range s.length).foldl (fun best i =>
    (List.range t.length).foldl (fun best j =>
      best.longer ⟨i, j, agreement (s.drop i) (t.drop j)⟩) best) ⟨0, 0, 0⟩

/-- The number of characters in common runs; `depth` bounds how often the texts are divided. -/
def sharedCount : Nat → List Char → List Char → Nat
  | 0, _, _ => 0
  | depth + 1, s, t =>
    let run := longestRun s t
    if run.length = 0 then 0
    else sharedCount depth (s.take run.left) (t.take run.right) + run.length
      + sharedCount depth (s.drop (run.left + run.length)) (t.drop (run.right + run.length))

/-- A text with how much of it and of the one it is compared with is shared. -/
structure Likeness where
  text : String
  shared : Nat
  total : Nat

namespace Likeness

/-- How alike a text is to the word. -/
def of (word text : String) : Likeness where
  text := text
  shared := sharedCount text.length text.toList word.toList
  total := text.length + word.length

/-- Whether three fifths of all characters are shared. -/
def isClose (l : Likeness) : Bool := 3 * l.total ≤ 10 * l.shared

/-- Whether one likeness comes before another: the closer one, and of two that are equally close
the later text. -/
def precedes (l k : Likeness) : Bool :=
  let a := l.shared * k.total
  let b := k.shared * l.total
  b < a || (a == b && !(l.text < k.text))

end Likeness

/-- The texts most like the word, three at most, in alphabetical order. -/
def alikes (word : String) (texts : List String) : List String :=
  let close := (texts.map (Likeness.of word)).filter Likeness.isClose
  (((close.mergeSort Likeness.precedes).take 3).map (·.text)).mergeSort fun a b => !(b < a)

end ActionRehearsal.Text
