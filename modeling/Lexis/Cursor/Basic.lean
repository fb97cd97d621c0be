import Lexis.Token.First

/-!
# Cursor — a place in a source

A cursor is a source cut in two: the characters behind it, nearest first, and the characters ahead.

* `Cursor.advance` moves over one character and is the only way in which a cursor ever moves; at
  the end of the source it stays where it is.
* `Cursor.nextToken` passes the spaces, reads the token ahead and passes its literal.
* The text of a source does not change, and a token that is not the end of input shortens what is
  ahead (`length_ahead_nextToken_lt`), which is why every scan comes to an end.
-/

namespace Lexis

/-- A place in a source: the characters behind it, nearest first, and those ahead of it. -/
structure Cursor where
  behind : Text
  ahead : Text
  deriving DecidableEq, Repr

namespace Cursor

/-- The cursor before the first character of a source. -/
def ofText (source : Text) : Cursor :=
  ⟨[], source⟩

/-! ## What a cursor shows -/

/-- The whole source. -/
def text (c : Cursor) : Text :=
  c.behind.reverse ++ c.ahead

/-- The number of characters behind the cursor. -/
def position (c : Cursor) : Nat :=
  c.behind.length

/-- The position after the current character. -/
def readPosition (c : Cursor) : Nat :=
  c.position + 1

/-- The character at the cursor, if there is one. -/
def current? (c : Cursor) : Option Char :=
  c.ahead.head?

/-! ## Moving -/

/-- The cursor one character further; at the end of the source it stays. -/
def advance (c : Cursor) : Cursor :=
  match c.ahead with
  | [] => c
  | x :: rest => ⟨x :: c.behind, rest⟩

/-- The cursor after the given number of steps. -/
def advanceBy : Nat → Cursor → Cursor
  | 0, c => c
  | n + 1, c => advanceBy n c.advance

/-- The cursor past the spaces ahead. -/
def skipSpaces (c : Cursor) : Cursor :=
  c.advanceBy (c.ahead.takeWhile isSpace).length

/-- The next token, and the cursor past it. -/
def nextToken (c : Cursor) : Token × Cursor :=
  -- what is read is exactly what is passed
  let start := c.skipSpaces
  let token := Token.first start.ahead
  (token, start.advanceBy token.literal.length)

/-! ## What moving keeps -/

@[simp] theorem text_ofText (source : Text) : (ofText source).text = source := by
  simp [ofText, text]

@[simp] theorem text_advance (c : Cursor) : c.advance.text = c.text := by
  obtain ⟨behind, ahead⟩ := c
  cases ahead <;> simp [advance, text]

@[simp] theorem text_advanceBy (n : Nat) (c : Cursor) : (c.advanceBy n).text = c.text := by
  induction n generalizing c with
  | zero => rfl
  | succ n ih => rw [advanceBy, ih, text_advance]

@[simp] theorem ahead_advance (c : Cursor) : c.advance.ahead = c.ahead.tail := by
  obtain ⟨behind, ahead⟩ := c
  cases ahead <;> rfl

@[simp] theorem ahead_advanceBy (n : Nat) (c : Cursor) :
    (c.advanceBy n).ahead = c.ahead.drop n := by
  induction n generalizing c with
  | zero => rfl
  | succ n ih => rw [advanceBy, ih, ahead_advance, List.drop_tail]

@[simp] theorem ahead_skipSpaces (c : Cursor) :
    c.skipSpaces.ahead = c.ahead.dropWhile isSpace := by
  rw [skipSpaces, ahead_advanceBy, Text.drop_length_takeWhile]

/-! ## Progress -/

/-- A token that is not the end of input leaves less ahead. -/
theorem length_ahead_nextToken_lt (c : Cursor) (h : ¬ c.nextToken.1.isEndOfInput = true) :
    c.nextToken.2.ahead.length < c.ahead.length := by
  have hle : (c.ahead.dropWhile isSpace).length ≤ c.ahead.length :=
    (List.dropWhile_sublist isSpace).length_le
  simp only [nextToken, ahead_skipSpaces, ahead_advanceBy, List.length_drop] at h ⊢
  cases hs : c.ahead.dropWhile isSpace with
  | nil => simp [hs, Token.first_isEndOfInput_iff] at h
  | cons x rest =>
    have hne := List.length_pos_iff.2 (Token.first_literal_ne_nil x rest)
    rw [hs] at hle
    simp only [List.length_cons] at hle ⊢
    omega

end Cursor

end Lexis
