import Lexis.Text.Basic

/-!
# Alphabet — the characters of the language

Every character of a source is of exactly one sort:

* a *letter*, an ASCII letter or the underscore;
* a *digit*, an ASCII digit;
* a *space*, one of space, tab, line feed and carriage return;
* a *symbol*, a character that an operator or a delimiter begins with;
* *foreign*, any other.

The first four make up the alphabet of the language.
-/

namespace Lexis

/-- ASCII letters and the underscore: the characters of words. -/
def isLetter (c : Char) : Bool :=
  c.isAlpha || c == '_'

/-- ASCII digits: the characters of integers. -/
def isDigit (c : Char) : Bool :=
  c.isDigit

/-- The four characters that only separate tokens. -/
def isSpace (c : Char) : Bool :=
  c == ' ' || c == '\t' || c == '\n' || c == '\r'

/-- The characters that operators and delimiters are made of. -/
def symbols : Text :=
  ['=', '!', '+', '-', '*', '/', '<', '>', ',', ';', '(', ')', '{', '}']

/-- Whether an operator or a delimiter begins with the character. -/
def isSymbol (c : Char) : Bool :=
  symbols.contains c

/-- The characters outside the alphabet of the language. -/
def isForeign (c : Char) : Bool :=
  !(isLetter c || isDigit c || isSpace c || isSymbol c)

end Lexis
