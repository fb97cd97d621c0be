import Lexis.Proofs.Cursor.Indexed
import Lexis.Proofs.Tokens.Reading

/-!
# Fresh — reading on is reading afresh

A cursor remembers nothing of what it has passed: from any place on it reads as a fresh cursor reads
the rest of the source.

* What stands behind a cursor moves along and is not looked at (`Cursor.nextToken_precededBy`).
* So a cursor that has read some tokens, in either of its forms, shows from then on what a fresh one
  on the rest of the source shows, with all indices shifted by its position, and the tokens of a
  source are those read and those of the rest (`Cursor.afterTokens_eq_fresh`).
-/

namespace Lexis

/-! ## What a cursor shows -/

/-- What is seen of a cursor: the token that it reads next, the current character, the index of it
and the index after it. -/
structure View where
  token : Token
  current? : Option Char
  position : Nat
  readPosition : Nat
  deriving DecidableEq, Repr

/-- The view of a cursor that has passed `p` more characters. -/
def View.shift (p : Nat) (v : View) : View :=
  ⟨v.token, v.current?, p + v.position, p + v.readPosition⟩

def Cursor.view (c : Cursor) : View :=
  ⟨c.nextToken.1, c.current?, c.position, c.readPosition⟩

def Indexed.view (i : Indexed) : View :=
  ⟨i.nextToken.1, i.registers.current?, i.registers.position, i.registers.readPosition⟩

/-- The cursor after the given number of tokens. -/
def Cursor.afterTokens : Nat → Cursor → Cursor
  | 0, c => c
  | n + 1, c => afterTokens n c.nextToken.2

/-- The same for the form with indices. -/
def Indexed.afterTokens : Nat → Indexed → Indexed
  | 0, i => i
  | n + 1, i => afterTokens n i.nextToken.2

namespace Indexed

theorem view_ofCursor (c : Cursor) : (ofCursor c).view = c.view := by
  simp only [view, nextToken_ofCursor]
  rfl

theorem afterTokens_ofCursor (n : Nat) (c : Cursor) :
    (ofCursor c).afterTokens n = ofCursor (c.afterTokens n) := by
  induction n generalizing c with
  | zero => rfl
  | succ n ih => simp [afterTokens, Cursor.afterTokens, nextToken_ofCursor, ih]

/-- On every source the two forms of a cursor show the same, whatever has been read. -/
theorem view_afterTokens_ofText (n : Nat) (source : Text) :
    ((ofText source).afterTokens n).view = ((Cursor.ofText source).afterTokens n).view := by
  rw [← ofCursor_ofText, afterTokens_ofCursor, view_ofCursor]

end Indexed

namespace Cursor

/-! ## What stands behind a cursor -/

/-- The cursor with more text behind it, nearest character first. -/
def precededBy (before : Text) (c : Cursor) : Cursor :=
  ⟨c.behind ++ before, c.ahead⟩

section PrecededBy

variable (before : Text) (n : Nat) (c : Cursor)

@[simp] theorem ahead_precededBy : (c.precededBy before).ahead = c.ahead :=
  rfl

theorem advance_precededBy : (c.precededBy before).advance = c.advance.precededBy before := by
  obtain ⟨behind, ahead⟩ := c
  cases ahead <;> rfl

@[simp] theorem advanceBy_precededBy :
    (c.precededBy before).advanceBy n = (c.advanceBy n).precededBy before := by
  induction n generalizing c with
  | zero => rfl
  | succ n ih => rw [advanceBy, advance_precededBy, ih, advanceBy]

/-- A token is read without a look at what is behind, which moves along. -/
theorem nextToken_precededBy :
    (c.precededBy before).nextToken = (c.nextToken.1, c.nextToken.2.precededBy before) := by
  simp [nextToken, skipSpaces]

theorem afterTokens_precededBy :
    (c.precededBy before).afterTokens n = (c.afterTokens n).precededBy before := by
  induction n generalizing c with
  | zero => rfl
  | succ n ih => simp [afterTokens, nextToken_precededBy, ih]

theorem view_precededBy : (c.precededBy before).view = c.view.shift before.length := by
  have hposition : (c.precededBy before).position = before.length + c.position := by
    simp [precededBy, position, Nat.add_comm]
  simp only [view, View.shift, nextToken_precededBy, readPosition, hposition, current?,
    ahead_precededBy, Nat.add_assoc]

end PrecededBy

/-- A cursor is a fresh one on what is ahead, preceded by what is behind. -/
theorem precededBy_ofText (c : Cursor) : (ofText c.ahead).precededBy c.behind = c := by
  simp [precededBy, ofText]

/-! ## The rest of a source -/

theorem drop_position_text (c : Cursor) : c.text.drop c.position = c.ahead := by
  simp [text, position]

@[simp] theorem text_nextToken (c : Cursor) : c.nextToken.2.text = c.text := by
  simp [nextToken, skipSpaces]

@[simp] theorem text_afterTokens (n : Nat) (c : Cursor) : (c.afterTokens n).text = c.text := by
  induction n generalizing c with
  | zero => rfl
  | succ n ih => simp [afterTokens, ih]

/-- What a scan gives are the tokens of the text ahead. -/
theorem value_scan (c : Cursor) : c.scan.value = tokens c.ahead := by
  have hreads := reads_tokens c.ahead
  rw [hreads.scan_eq c rfl]
  exact hreads.tokens_eq.symm

theorem tokens_ahead_of_end {c : Cursor} (h : c.nextToken.1.isEndOfInput = true) :
    tokens c.ahead = [c.nextToken.1] := by
  rw [← value_scan, scan, dif_pos h]

theorem tokens_ahead_cons {c : Cursor} (h : ¬ c.nextToken.1.isEndOfInput = true) :
    tokens c.ahead = c.nextToken.1 :: tokens c.nextToken.2.ahead := by
  rw [← value_scan, ← value_scan, scan, dif_neg h]

/-- The tokens ahead are those that are read next, and those ahead after that. -/
theorem tokens_ahead_eq_take_append {n : Nat} {c : Cursor}
    (h : n ≤ (tokens c.ahead).dropLast.length) :
    tokens c.ahead = (tokens c.ahead).take n ++ tokens (c.afterTokens n).ahead := by
  induction n generalizing c with
  | zero => simp [afterTokens]
  | succ n ih =>
    by_cases hend : c.nextToken.1.isEndOfInput = true
    · simp [tokens_ahead_of_end hend] at h
    · have hcons := tokens_ahead_cons hend
      rw [hcons] at h ⊢
      have hrest : n ≤ (tokens c.nextToken.2.ahead).dropLast.length := by
        simp only [List.length_dropLast, List.length_cons] at h ⊢
        omega
      simpa [afterTokens] using ih hrest

/-- A cursor that has read some tokens shows from then on, whatever is read further, what a fresh
cursor on the rest of the source shows, shifted by its position.  Its form with indices shows the
same as it, and so the same of a fresh one.  The tokens of the source are those read, as long as the
end is not among them, and those of the rest. -/
theorem afterTokens_eq_fresh (source : Text) (k : Nat) :
    let c := (ofText source).afterTokens k
    let i := (Indexed.ofText source).afterTokens k
    let rest := source.drop c.position
    (∀ n, (c.afterTokens n).view = ((ofText rest).afterTokens n).view.shift c.position) ∧
      (∀ n, (i.afterTokens n).view = (c.afterTokens n).view ∧
        (i.afterTokens n).view = ((Indexed.ofText rest).afterTokens n).view.shift c.position) ∧
      (k ≤ (tokens source).dropLast.length →
        tokens source = (tokens source).take k ++ tokens rest) := by
  intro c i rest
  have htext : c.text = source := by simp [c]
  have hrest : c.ahead = rest := by rw [← drop_position_text, htext]
  have hcursor : ∀ n, (c.afterTokens n).view =
      ((ofText rest).afterTokens n).view.shift c.position := by
    intro n
    calc
      (c.afterTokens n).view
          = (((ofText rest).precededBy c.behind).afterTokens n).view := by
            rw [← hrest, precededBy_ofText]
      _ = (((ofText rest).afterTokens n).precededBy c.behind).view := by
            rw [afterTokens_precededBy]
      _ = ((ofText rest).afterTokens n).view.shift c.position := view_precededBy _ _
  have hindexed : ∀ n, (i.afterTokens n).view = (c.afterTokens n).view := by
    intro n
    have hi : i = .ofCursor c := by
      simp only [i, c, ← Indexed.ofCursor_ofText, Indexed.afterTokens_ofCursor]
    rw [hi, Indexed.afterTokens_ofCursor, Indexed.view_ofCursor]
  refine ⟨hcursor, ?_, ?_⟩
  · intro n
    refine ⟨hindexed n, ?_⟩
    rw [hindexed, Indexed.view_afterTokens_ofText]
    exact hcursor n
  · intro hk
    rw [← hrest]
    exact @tokens_ahead_eq_take_append k (ofText source) hk

end Cursor

end Lexis
