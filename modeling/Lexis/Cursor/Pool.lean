import Lexis.Cursor.Draw

/-!
# Pool — several cursors side by side

A pool is a list of cursors, known by their place in it.  A command draws from one of them, looks at
it, copies it, or opens a cursor on another source; copies and new cursors join at the end.  What
happens to one cursor is not seen by the others.
-/

namespace Lexis

/-- Cursors that are used side by side. -/
abbrev Pool := List Cursor

namespace Pool

/-! ## Commands -/

/-- What is done with a pool; `index` is the place of the cursor in it. -/
inductive Command where
  | draw (index : Nat) (draw : Draw)
  | look (index : Nat)
  | copy (index : Nat)
  | start (source : Text)
  deriving DecidableEq, Repr

/-- What a command gives: something drawn, nothing, or the place of a cursor that joined. -/
inductive Reply where
  | drawn (drawn : Drawn)
  | nothing
  | joined (index : Nat)
  deriving DecidableEq, Repr

/-- The result of a command: its reply, the cursor that it used, and the pool after it. -/
structure Step where
  reply : Reply
  cursor : Cursor
  pool : Pool
  deriving DecidableEq, Repr

/-! ## Performing them -/

/-- The pool that holds one cursor, before the first character of the source. -/
def ofText (source : Text) : Pool :=
  [.ofText source]

def join (pool : Pool) (c : Cursor) : Step :=
  ⟨.joined pool.length, c, pool ++ [c]⟩

/-- Performs a command; there is no result if it names no cursor of the pool. -/
def step? (pool : Pool) : Command → Option Step
  | .draw index draw =>
    pool[index]?.map fun c =>
      ⟨.drawn (c.draw draw).1, (c.draw draw).2, pool.set index (c.draw draw).2⟩
  | .look index => pool[index]?.map fun c => ⟨.nothing, c, pool⟩
  | .copy index => pool[index]?.map pool.join
  | .start source => some (pool.join (.ofText source))

end Pool

end Lexis
