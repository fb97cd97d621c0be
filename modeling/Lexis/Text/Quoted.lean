import Lexis.Text.Basic
import Lexis.Text.Escaped

/-!
# Quoted — text between quotes

A quoted text stands between two quote characters.  Inside, NUL, tab, line feed, carriage return,
the backslash and the quote itself are written as a backslash and a mark; a character of a table is
written by its number in hexadecimal, between braces; every other stands for itself.  How a
character is written does not depend on its neighbours.

The table of the library is `isEscaped` (`quoted`, `quotedChar`); nothing else depends on which
characters are in it, so the forms are there for every table (`escapeWith`, `quotedWith`).
-/

namespace Lexis

namespace Text

/-! ## Any table of characters written by number -/

/-- The characters that are written as a backslash and a mark between two `quote`s, each with its
mark. -/
def marks (quote : Char) : List (Char × Char) :=
  [('\x00', '0'), ('\t', 't'), ('\n', 'n'), ('\r', 'r'), ('\\', '\\'), (quote, quote)]

/-- A character written by its number. -/
def numbered (c : Char) : Text :=
  ['\\', 'u', '{'] ++ (hexadecimal c.toNat ++ ['}'])

/-- How one character is written between two `quote`s, if those of `table` are written by number. -/
def escapeWith (table : Char → Bool) (quote c : Char) : Text :=
  match (marks quote).lookup c with
  | some mark => ['\\', mark]
  | none => if table c then numbered c else [c]

/-- The text between two `quote`s. -/
def quotedByWith (table : Char → Bool) (quote : Char) (s : Text) : Text :=
  [quote] ++ (s.flatMap (escapeWith table quote) ++ [quote])

/-- The text between double quotes. -/
def quotedWith (table : Char → Bool) (s : Text) : Text :=
  quotedByWith table '"' s

/-! ## The table of the library -/

/-- The text between double quotes. -/
def quoted (s : Text) : Text :=
  quotedWith isEscaped s

/-- One character between single quotes. -/
def quotedChar (c : Char) : Text :=
  quotedByWith isEscaped '\'' [c]

end Text

end Lexis
