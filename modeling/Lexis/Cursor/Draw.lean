import Lexis.Cursor.Basic

/-!
# Draw — the ways of taking tokens from a cursor

Besides `Cursor.nextToken`, which answers the end of input again and again, tokens are drawn

* one at a time, with `none` for the end (`next?`);
* one after skipping some (`nth?`);
* at most a given number (`take`), where a draw that meets the end is the last one made;
* all that are left (`collect`).

A `Draw` names one of these, and `Cursor.draw` performs it.
-/

namespace Lexis

namespace Cursor

/-- The next token, or `none` at the end, and the cursor past it. -/
def next? (c : Cursor) : Option Token × Cursor :=
  (if c.nextToken.1.isEndOfInput then none else some c.nextToken.1, c.nextToken.2)

/-- The token after `n` others; the end among those ends the draw. -/
def nth? : Nat → Cursor → Option Token × Cursor
  | 0, c => c.next?
  | n + 1, c =>
    match c.next? with
    | (none, c') => (none, c')
    | (some _, c') => nth? n c'

/-- Up to `n` tokens; no draw follows the one that meets the end. -/
def take : Nat → Cursor → List Token × Cursor
  | 0, c => ([], c)
  | n + 1, c =>
    match c.next? with
    | (none, c') => ([], c')
    | (some t, c') => (t :: (take n c').1, (take n c').2)

/-- All tokens that are left, without the end of input. -/
def collect (c : Cursor) : List Token × Cursor :=
  if _h : c.nextToken.1.isEndOfInput then
    ([], c.nextToken.2)
  else
    let rest := c.nextToken.2.collect
    (c.nextToken.1 :: rest.1, rest.2)
termination_by c.ahead.length
decreasing_by exact c.length_ahead_nextToken_lt _h

end Cursor

/-! ## Draws as values -/

/-- A way of drawing. -/
inductive Draw where
  | nextToken
  | next
  | nth (n : Nat)
  | take (n : Nat)
  | collect
  deriving DecidableEq, Repr

/-- What a draw gives: a token, a token or the end, or several tokens. -/
inductive Drawn where
  | token (t : Token)
  | token? (t : Option Token)
  | tokens (ts : List Token)
  deriving DecidableEq, Repr

/-- Draws from a cursor: what is drawn, and the cursor after it. -/
def Cursor.draw (c : Cursor) : Draw → Drawn × Cursor
  | .nextToken => (.token c.nextToken.1, c.nextToken.2)
  | .next => (.token? c.next?.1, c.next?.2)
  | .nth n => (.token? (c.nth? n).1, (c.nth? n).2)
  | .take n => (.tokens (c.take n).1, (c.take n).2)
  | .collect => (.tokens c.collect.1, c.collect.2)

end Lexis
