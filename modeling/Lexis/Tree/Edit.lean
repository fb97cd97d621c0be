import Lexis.Cursor.Basic
import Lexis.Tree.Node

/-!
# Edit — changing a program

A workspace is a program and a saved one, empty at first.  An `Edit` adds, removes, copies or wraps
a statement, saves a copy of the program, exchanges it with the saved one, clears it, or reads a
statement from the tokens of a source.  An edit that names no statement of the program changes
nothing.
-/

namespace Lexis

/-! ## Statements from tokens -/

namespace Stmt

/-- The statement that binds the second token to the fourth; the third is passed. -/
def letOfSource (source : Text) : Stmt :=
  let (token, c) := (Cursor.ofText source).nextToken
  let (name, c) := c.nextToken
  let (_, c) := c.nextToken
  let (value, _) := c.nextToken
  .letStmt token (.ofToken name) (some (.once (.ofToken value)))

/-- The statement that returns the second token. -/
def returnOfSource (source : Text) : Stmt :=
  let (token, c) := (Cursor.ofText source).nextToken
  let (value, _) := c.nextToken
  .returnStmt token (some (.once (.ofToken value)))

end Stmt

/-! ## Edits -/

/-- A program under edit, and the one that was saved. -/
structure Workspace where
  program : Program
  saved : Program
  deriving DecidableEq, Repr

/-- A change of a workspace; `index` is the place of a statement. -/
inductive Edit where
  | push (s : Wrapped Stmt)
  | insert (index : Nat) (s : Wrapped Stmt)
  | remove (index : Nat)
  | copyStmt (index : Nat)
  | wrap (index : Nat)
  | save
  | swap
  | clear
  | readLet (source : Text)
  | readReturn (source : Text)
  deriving DecidableEq, Repr

namespace Workspace

/-- The workspace of a program, with nothing saved. -/
def ofProgram (p : Program) : Workspace :=
  ⟨p, .empty⟩

def stmt? (w : Workspace) (index : Nat) : Option (Wrapped Stmt) :=
  w.program.statements[index]?

/-- The statement that an edit puts into the program or takes out of it. -/
def touched? (w : Workspace) : Edit → Option (Wrapped Stmt)
  | .push s => some s
  | .insert _ s => some s
  | .remove index => w.stmt? index
  | .copyStmt index => (w.stmt? index).map Stmt.copyWrapped
  | .wrap index => (w.stmt? index).map .again
  | .save => none
  | .swap => none
  | .clear => none
  | .readLet source => some (.once (.letOfSource source))
  | .readReturn source => some (.once (.returnOfSource source))

/-- The workspace with other statements in its program. -/
def withStatements (w : Workspace) (statements : List (Wrapped Stmt)) : Workspace :=
  { w with program := ⟨statements⟩ }

/-- The workspace after an edit.  A place beyond the end inserts at the end. -/
def apply (w : Workspace) (edit : Edit) : Workspace :=
  let statements := w.program.statements
  let touched := (w.touched? edit).toList
  match edit with
  | .push _ => w.withStatements (statements ++ touched)
  | .insert index _ =>
    w.withStatements (statements.take index ++ touched ++ statements.drop index)
  | .remove index => w.withStatements (statements.eraseIdx index)
  | .copyStmt _ => w.withStatements (statements ++ touched)
  | .wrap index => w.withStatements (statements.modify index .again)
  | .save => { w with saved := w.program.copy }
  | .swap => ⟨w.saved, w.program⟩
  | .clear => { w with program := .empty }
  | .readLet _ => w.withStatements (statements ++ touched)
  | .readReturn _ => w.withStatements (statements ++ touched)

end Workspace

end Lexis
