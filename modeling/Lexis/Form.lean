import Lexis.Text.Quoted

/-!
# Form — debug forms in two layouts

A value is shown for debugging as names, brackets and quoted texts.  The same form is written in
two layouts:

* `Layout.inline` puts it all on one line, members separated by a comma and a space;
* `Layout.block depth` gives every member a line of its own, indented by four spaces for each level
  and followed by a comma, and puts the closing bracket on its own line.

A `Form` is what a layout turns into text; `record`, `wrap` and `list` build forms from forms.
-/

namespace Lexis

/-- How a debug form is laid out; `depth` is the number of levels that enclose it. -/
inductive Layout where
  | inline
  | block (depth : Nat)
  deriving DecidableEq, Repr

/-- A debug form gives a text in every layout. -/
abbrev Form := Layout → Text

namespace Layout

/-- The start of a line at the given depth. -/
def newLine (depth : Nat) : Text :=
  '\n' :: List.replicate (4 * depth) ' '

end Layout

namespace Form

/-! ## Leaves -/

/-- A form that is the same text in every layout. -/
def text (s : Text) : Form :=
  fun _ => s

/-- A quoted text. -/
def quoted (s : Text) : Form :=
  text (Text.quoted s)

/-! ## Brackets -/

/-- A member of a bracket that stands at the given depth, on a line of its own. -/
def memberLine (depth : Nat) (member : Form) : Text :=
  Layout.newLine (depth + 1) ++ member (.block (depth + 1)) ++ [',']

/-- Members between two brackets.  On one line, `pad` stands inside both brackets. -/
def bracket (opening pad closing : Text) (members : List Form) : Form
  | .inline =>
    opening ++ pad ++ List.intercalate [',', ' '] (members.map (· .inline)) ++ pad ++ closing
  | .block depth =>
    opening ++ members.flatMap (memberLine depth) ++ Layout.newLine depth ++ closing

/-- A name and its fields between braces. -/
def record (name : Text) (fields : List (Text × Form)) : Form :=
  bracket (name ++ [' ', '{']) [' '] ['}']
    (fields.map fun (label, value) => fun layout => label ++ [':', ' '] ++ value layout)

/-- A name and one member in parentheses. -/
def wrap (name : Text) (member : Form) : Form :=
  bracket (name ++ ['(']) [] [')'] [member]

/-- Members between square brackets. -/
def list : List Form → Form
  | [] => text ['[', ']']
  | members => bracket ['['] [] [']'] members

/-- The form of a value that may be missing. -/
def option : Option Form → Form
  | none => text "None".toList
  | some member => wrap "Some".toList member

end Form

end Lexis
