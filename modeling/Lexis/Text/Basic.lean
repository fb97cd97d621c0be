/-!
# Text — characters, bytes and numerals

This module fixes how the library holds what it reads and writes:

* `Text` is a list of characters and `Bytes` a list of bytes, so that every statement about them
  is a statement about lists;
* `decimal` and `hexadecimal` write a number with no leading zero;
* `dropEndWhile` and `trim` remove characters of a class from the ends of a text.
-/

namespace Lexis

/-- A text is the list of its characters. -/
abbrev Text := List Char

/-- A string of bytes, as a file holds it or a sink takes it. -/
abbrev Bytes := List UInt8

namespace Text

/-! ## Numerals -/

/-- The decimal numeral of `n`. -/
def decimal (n : Nat) : Text :=
  Nat.toDigits 10 n

/-- The hexadecimal numeral of `n`, with small letters. -/
def hexadecimal (n : Nat) : Text :=
  Nat.toDigits 16 n

/-! ## Trimming -/

/-- The text without the longest run of characters of `p` at its end. -/
def dropEndWhile (p : Char → Bool) (s : Text) : Text :=
  (s.reverse.dropWhile p).reverse

/-- The text without the characters of `p` at both its ends. -/
def trim (p : Char → Bool) (s : Text) : Text :=
  dropEndWhile p (s.dropWhile p)

/-- Dropping as many characters as a run has leaves what follows the run. -/
theorem drop_length_takeWhile (p : Char → Bool) (s : Text) :
    s.drop (s.takeWhile p).length = s.dropWhile p := by
  induction s with
  | nil => rfl
  | cons c rest ih => by_cases hc : p c = true <;> simp [hc, ih]

/-! ## Lines -/

/-- The text followed by a line feed. -/
def line (s : Text) : Text :=
  s ++ ['\n']

end Text

end Lexis
