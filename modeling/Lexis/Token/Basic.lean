import Lexis.Form
import Lexis.Token.Kind

/-!
# Token — a kind and the text it stands for

This module holds `Token` and its two written forms: `Token.display`, the kind followed by the
quoted literal in parentheses, and `Token.form`, its debug form.  Which characters of a literal are
written by number is a matter of the table that `Token.displayWith` is given.
-/

namespace Lexis

/-- A token: its kind, and the part of the source that it stands for. -/
structure Token where
  kind : Kind
  literal : Text
  deriving DecidableEq, Repr

namespace Token

/-- The token past the last character of a source. -/
def endOfInput : Token :=
  ⟨.endOfInput, []⟩

/-- Whether the token marks the end of the source. -/
def isEndOfInput (t : Token) : Bool :=
  t.kind == .endOfInput

/-- Whether the token stands for a character outside the language. -/
def isIllegal (t : Token) : Bool :=
  t.kind == .illegal

/-- Whether the token is of one of the given kinds. -/
def isOneOf (t : Token) (kinds : List Kind) : Bool :=
  kinds.contains t.kind

/-- A token's kind and, in parentheses, its quoted literal, of which the characters of `table` are
written by number. -/
def displayWith (table : Char → Bool) (t : Token) : Text :=
  t.kind.name ++ ['('] ++ (Text.quotedWith table t.literal ++ [')'])

/-- The token as it is printed. -/
def display (t : Token) : Text :=
  t.displayWith Text.isEscaped

theorem display_eq (t : Token) :
    t.display = t.kind.name ++ ['('] ++ (Text.quoted t.literal ++ [')']) :=
  rfl

def form (t : Token) : Form :=
  .record "Token".toList
    [("kind".toList, .text t.kind.name), ("literal".toList, .quoted t.literal)]

end Token

/-- Tokens, one a line. -/
def listingWith (table : Char → Bool) (ts : List Token) : Text :=
  ts.flatMap fun t => Text.line (t.displayWith table)

end Lexis
