import ActionRehearsal.Number.Shortest
import ActionRehearsal.Text.Quoted
import ActionRehearsal.Value.Basic
/-!
# The text of a value

`Value.display` is the text that stands for a value where text is made of it: a text stands for
itself and every other value for its expression, except that dates are written plainly.
`Value.expression` is the form inside containers, where texts are quoted.
-/

set_option autoImplicit false

namespace ActionRehearsal

open ActionRehearsal.Text

/-- A scalar as it is written inside a container. -/
def Scalar.expression : Scalar → String
  | .null => "None"
  | .bool b => if b then "True" else "False"
  | .int n => toString n
  | .float x => x.text
  | .text s => quoted s
  | .bytes bs => quotedBytes bs
  | .date d => d.expression
  | .moment m => m.expression

/-- A scalar as text. -/
def Scalar.display : Scalar → String
  | .text s => s
  | .date d => d.text
  | .moment m => m.text " "
  | s => s.expression

/-- Parts between brackets, with commas between them. -/
def bracketed (left right : String) (parts : List String) : String :=
  left ++ ", ".intercalate parts ++ right

namespace Value

mutual

/-- A value as it is written inside a container. -/
def expression : Value → String
  | .scalar s => s.expression
  | .list items => bracketed "[" "]" (expressions items)
  | .tuple [item] => "(" ++ expression item ++ ",)"
  | .tuple items => bracketed "(" ")" (expressions items)
  | .set [] => "set()"
  | .set members => bracketed "\x7b" "\x7d" (members.map Scalar.expression)
  | .map entries => bracketed "\x7b" "\x7d" (entryExpressions entries)

/-- The items of a list as they are written inside it. -/
def expressions : List Value → List String
  | [] => []
  | v :: rest => expression v :: expressions rest

/-- The entries of a mapping as they are written inside it. -/
def entryExpressions : List (Scalar × Value) → List String
  | [] => []
  | (k, v) :: rest => (k.expression ++ ": " ++ expression v) :: entryExpressions rest

end

/-- A value as text. -/
def display : Value → String
  | .scalar s => s.display
  | v => v.expression

end Value

end ActionRehearsal
