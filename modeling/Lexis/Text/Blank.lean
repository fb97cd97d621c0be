import Lexis.Text.Basic

/-!
# Blank — Unicode white space

The characters with the property `White_Space`.  They are what a command typed at the console may
stand between; the language itself separates tokens by four of them only.
-/

namespace Lexis

namespace Text

/-- The ranges of code points with the property `White_Space`. -/
def blankRanges : List (Nat × Nat) :=
  [(0x09, 0x0D), (0x20, 0x20), (0x85, 0x85), (0xA0, 0xA0), (0x1680, 0x1680), (0x2000, 0x200A),
   (0x2028, 0x2029), (0x202F, 0x202F), (0x205F, 0x205F), (0x3000, 0x3000)]

/-- Whether the character is Unicode white space. -/
def isBlank (c : Char) : Bool :=
  blankRanges.any fun (first, last) => first ≤ c.toNat && c.toNat ≤ last

/-- The text without the white space at both its ends. -/
def trimBlank (s : Text) : Text :=
  trim isBlank s

end Text

end Lexis
