import Lexis.Token.Basic

/-!
# Node — statements, their values, and programs

* An `Identifier` is the only value so far.  It remembers its token, and its text, which is the
  literal of the token unless it was given another.
* A `Stmt` binds a name or returns; its value may be missing.
* A node is held in at least one wrapper (`Wrapped`).  Wrappers do not change what a node says.
* A `Program` is a list of wrapped statements.  Copying it leaves one wrapper around every node.
-/

namespace Lexis

/-! ## Wrappers -/

/-- A node in one wrapper or more. -/
inductive Wrapped (α : Type) where
  | once (node : α)
  | again (inner : Wrapped α)
  deriving DecidableEq, Repr

namespace Wrapped

variable {α : Type}

/-- The node inside all wrappers. -/
def node : Wrapped α → α
  | once node => node
  | again inner => inner.node

/-- The number of wrappers. -/
def depth : Wrapped α → Nat
  | once _ => 1
  | again inner => inner.depth + 1

/-- The node in one wrapper and the given number of others. -/
def layered (node : α) : Nat → Wrapped α
  | 0 => once node
  | extra + 1 => again (layered node extra)

@[simp] theorem node_layered (node : α) (extra : Nat) : (layered node extra).node = node := by
  induction extra with
  | zero => rfl
  | succ extra ih => exact ih

@[simp] theorem depth_layered (node : α) (extra : Nat) :
    (layered node extra).depth = extra + 1 := by
  induction extra with
  | zero => rfl
  | succ extra ih => rw [layered, depth, ih]

end Wrapped

/-! ## Values -/

/-- An identifier: its token and its text. -/
structure Identifier where
  token : Token
  value : Text
  deriving DecidableEq, Repr

namespace Identifier

/-- The identifier whose text is the literal of its token. -/
def ofToken (t : Token) : Identifier :=
  ⟨t, t.literal⟩

def literal (i : Identifier) : Text :=
  i.token.literal

def typeName : Text :=
  "Identifier".toList

end Identifier

/-! ## Statements -/

/-- A statement, with the token that it was made from. -/
inductive Stmt where
  | letStmt (token : Token) (name : Identifier) (value? : Option (Wrapped Identifier))
  | returnStmt (token : Token) (value? : Option (Wrapped Identifier))
  deriving DecidableEq, Repr

namespace Stmt

def token : Stmt → Token
  | letStmt token _ _ => token
  | returnStmt token _ => token

def literal (s : Stmt) : Text :=
  s.token.literal

/-- The name of a statement's type, which does not depend on its token. -/
def typeName : Stmt → Text
  | letStmt _ _ _ => "LetStmt".toList
  | returnStmt _ _ => "ReturnStmt".toList

/-- The copy of a value: the same node in one wrapper. -/
def copyValue (value : Wrapped Identifier) : Wrapped Identifier :=
  .once value.node

/-- The copy of a statement, with one wrapper around its value. -/
def copy : Stmt → Stmt
  | letStmt token name value? => letStmt token name (value?.map copyValue)
  | returnStmt token value? => returnStmt token (value?.map copyValue)

/-- The copy of a wrapped statement, in one wrapper. -/
def copyWrapped (s : Wrapped Stmt) : Wrapped Stmt :=
  .once s.node.copy

end Stmt

/-! ## Programs -/

/-- A program: its statements in order. -/
structure Program where
  statements : List (Wrapped Stmt)
  deriving DecidableEq, Repr

namespace Program

def empty : Program :=
  ⟨[]⟩

/-- The literal of the first statement; empty if there is none. -/
def literal (p : Program) : Text :=
  match p.statements with
  | [] => []
  | s :: _ => s.node.literal

/-- The copy of a program, with one wrapper around every node. -/
def copy (p : Program) : Program :=
  ⟨p.statements.map Stmt.copyWrapped⟩

end Program

end Lexis
