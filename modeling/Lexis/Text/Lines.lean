import Lexis.Text.Basic

/-!
# Lines — cutting a list after its line ends

`cutAfter p` cuts a list after every element of `p`: each piece but perhaps the last ends in such
an element and holds no other.  No piece is empty, and the pieces joined give the list back.  With
the line feed for `p` the pieces are the lines of a text, or of the bytes that encode it.
-/

namespace Lexis

variable {α : Type}

/-- The pieces of a list, cut after every element of `p`. -/
def cutAfter (p : α → Bool) : List α → List (List α)
  | [] => []
  | x :: rest =>
    if p x then
      [x] :: cutAfter p rest
    else
      match cutAfter p rest with
      | [] => [[x]]
      | piece :: pieces => (x :: piece) :: pieces

@[simp] theorem flatten_cutAfter (p : α → Bool) (xs : List α) : (cutAfter p xs).flatten = xs := by
  induction xs with
  | nil => rfl
  | cons x rest ih =>
    by_cases hx : p x = true
    · simp [cutAfter, hx, ih]
    · cases hc : cutAfter p rest with
      | nil => simp_all [cutAfter]
      | cons piece pieces =>
        rw [hc] at ih
        simpa [cutAfter, hx, hc] using ih

/-- The lines of a text, each with its line feed. -/
def Text.lines (s : Text) : List Text :=
  cutAfter (· == '\n') s

/-- The byte of a line feed. -/
def lineFeed : UInt8 := 10

/-- The lines of a string of bytes, each with its line feed. -/
def Bytes.lines (bytes : Bytes) : List Bytes :=
  cutAfter (· == lineFeed) bytes

end Lexis
