import Lexis.Cursor.Draw
import Lexis.Proofs.Cursor.Fresh

/-!
# Drawing — the ways of drawing tokens

Every way of drawing gives a part of the tokens that are left, and leads to where so many calls of
`Cursor.nextToken` lead (`nextToken_eq`, `next?_eq`, `nth?_eq`, `take_eq`, `collect_eq`).

Past the last token a cursor stays where it is (`nextToken_of_ahead_eq_nil`).  So a draw that stops
early is as far as one that asks on; but one that takes exactly the tokens that are left has not
asked for the end, and the spaces behind them are still ahead.
-/

namespace Lexis

namespace Cursor

/-! ## The tokens that are left -/

/-- The tokens ahead of a cursor, without the end of input. -/
def left (c : Cursor) : List Token :=
  (tokens c.ahead).dropLast

theorem left_of_end {c : Cursor} (h : c.nextToken.1.isEndOfInput = true) : c.left = [] := by
  simp [left, tokens_ahead_of_end h]

theorem left_of_token {c : Cursor} (h : ¬ c.nextToken.1.isEndOfInput = true) :
    c.left = c.nextToken.1 :: c.nextToken.2.left := by
  have hne : tokens c.nextToken.2.ahead ≠ [] := by
    rw [(reads_tokens c.nextToken.2.ahead).tokens_eq]
    exact List.concat_ne_nil _ _
  simp [left, tokens_ahead_cons h, List.dropLast_cons_of_ne_nil hne]

/-! ## The end is a fixed point -/

/-- With nothing ahead, the end of input is read and the cursor stays. -/
theorem nextToken_of_ahead_eq_nil {c : Cursor} (h : c.ahead = []) :
    c.nextToken = (.endOfInput, c) := by
  have hskip : c.skipSpaces = c := by simp [skipSpaces, h, advanceBy]
  simp [nextToken, hskip, h, Token.first, Token.endOfInput, advanceBy]

theorem afterTokens_of_ahead_eq_nil {c : Cursor} (h : c.ahead = []) (n : Nat) :
    c.afterTokens n = c := by
  induction n with
  | zero => rfl
  | succ n ih => simp [afterTokens, nextToken_of_ahead_eq_nil h, ih]

/-- The end of input is read past all that is ahead. -/
theorem ahead_nextToken_of_end {c : Cursor} (h : c.nextToken.1.isEndOfInput = true) :
    c.nextToken.1 = .endOfInput ∧ c.nextToken.2.ahead = [] := by
  have hdrop : c.ahead.dropWhile isSpace = [] := by
    simpa [nextToken_fst, Token.first_isEndOfInput_iff] using h
  refine ⟨?_, ?_⟩
  · simp [nextToken_fst, hdrop, Token.first]
  · simp [ahead_nextToken, hdrop]

theorem left_nextToken_of_end {c : Cursor} (h : c.nextToken.1.isEndOfInput = true) :
    c.nextToken.2.left = [] := by
  have hahead := (ahead_nextToken_of_end h).2
  have hend : c.nextToken.2.nextToken.1.isEndOfInput = true := by
    simp [nextToken_of_ahead_eq_nil hahead, Token.isEndOfInput, Token.endOfInput]
  exact left_of_end hend

theorem afterTokens_succ_of_end {c : Cursor} (h : c.nextToken.1.isEndOfInput = true) (n : Nat) :
    c.afterTokens (n + 1) = c.nextToken.2 :=
  afterTokens_of_ahead_eq_nil (ahead_nextToken_of_end h).2 n

/-! ## Asking for more tokens -/

theorem afterTokens_add (m n : Nat) (c : Cursor) :
    (c.afterTokens m).afterTokens n = c.afterTokens (m + n) := by
  induction m generalizing c with
  | zero => simp [afterTokens]
  | succ m ih => rw [Nat.succ_add, afterTokens, afterTokens, ih]

/-- Every token asked for is one less that is left. -/
theorem left_afterTokens (n : Nat) (c : Cursor) : (c.afterTokens n).left = c.left.drop n := by
  induction n generalizing c with
  | zero => rfl
  | succ n ih =>
    -- at the end nothing is left before the call, and nothing after it
    by_cases hend : c.nextToken.1.isEndOfInput = true
    · simp [afterTokens_succ_of_end hend, left_nextToken_of_end hend, left_of_end hend]
    · rw [afterTokens, ih, left_of_token hend, List.drop_succ_cons]

/-- Where all tokens and the end of input have been asked for, nothing is ahead. -/
theorem ahead_afterTokens_of_lt {n : Nat} {c : Cursor} (h : c.left.length < n) :
    (c.afterTokens n).ahead = [] := by
  induction n generalizing c with
  | zero => exact absurd h (Nat.not_lt_zero _)
  | succ n ih =>
    by_cases hend : c.nextToken.1.isEndOfInput = true
    · rw [afterTokens_succ_of_end hend]
      exact (ahead_nextToken_of_end hend).2
    · rw [left_of_token hend, List.length_cons] at h
      exact ih (Nat.lt_of_succ_lt_succ h)

/-! ## The ways of drawing -/

theorem nextToken_eq (c : Cursor) :
    c.nextToken = (c.left.head?.getD .endOfInput, c.afterTokens 1) := by
  by_cases hend : c.nextToken.1.isEndOfInput = true
  · simp [left_of_end hend, afterTokens, ← (ahead_nextToken_of_end hend).1]
  · simp [left_of_token hend, afterTokens]

theorem next?_of_end {c : Cursor} (h : c.nextToken.1.isEndOfInput = true) :
    c.next? = (none, c.nextToken.2) := by
  simp [next?, h]

theorem next?_of_token {c : Cursor} (h : ¬ c.nextToken.1.isEndOfInput = true) :
    c.next? = (some c.nextToken.1, c.nextToken.2) := by
  simp [next?, h]

theorem next?_eq (c : Cursor) : c.next? = (c.left.head?, c.afterTokens 1) := by
  by_cases hend : c.nextToken.1.isEndOfInput = true
  · simp [next?_of_end hend, left_of_end hend, afterTokens]
  · simp [next?_of_token hend, left_of_token hend, afterTokens]

/-- A token after some others.  If the end comes first, no more is asked for, but there is no more to
pass either. -/
theorem nth?_eq (n : Nat) (c : Cursor) : c.nth? n = (c.left[n]?, c.afterTokens (n + 1)) := by
  induction n generalizing c with
  | zero => rw [nth?, next?_eq, List.head?_eq_getElem?]
  | succ n ih =>
    -- a draw that has met the end has made one call, and all the others would have changed nothing
    by_cases hend : c.nextToken.1.isEndOfInput = true
    · simp [nth?, next?_of_end hend, left_of_end hend, afterTokens_succ_of_end hend]
    · rw [nth?, next?_of_token hend, left_of_token hend, List.getElem?_cons_succ]
      exact ih c.nextToken.2

/-- Some tokens at most.  With exactly as many left the end is not asked for, so spaces behind them
are not passed. -/
theorem take_eq (n : Nat) (c : Cursor) : c.take n = (c.left.take n, c.afterTokens n) := by
  induction n generalizing c with
  | zero => rfl
  | succ n ih =>
    by_cases hend : c.nextToken.1.isEndOfInput = true
    · simp [take, next?_of_end hend, left_of_end hend, afterTokens_succ_of_end hend]
    · simp [take, next?_of_token hend, left_of_token hend, afterTokens, ih]

example : ((ofText "a ".toList).take 1).2.position = 1 ∧
    ((ofText "a ".toList).take 2).2.position = 2 := by
  decide

/-- All tokens, and the end. -/
theorem collect_eq (c : Cursor) :
    c.collect = (c.left, c.afterTokens (c.left.length + 1)) := by
  -- by the tokens that are left, of which every call of `collect` but the last takes one
  induction hn : c.left generalizing c with
  | nil =>
    by_cases hend : c.nextToken.1.isEndOfInput = true
    · rw [collect, dif_pos hend]
      rfl
    · simp [left_of_token hend] at hn
  | cons t ts ih =>
    by_cases hend : c.nextToken.1.isEndOfInput = true
    · simp [left_of_end hend] at hn
    · rw [left_of_token hend, List.cons.injEq] at hn
      rw [collect, dif_neg hend, ih c.nextToken.2 hn.2, hn.1]
      rfl

end Cursor

end Lexis
