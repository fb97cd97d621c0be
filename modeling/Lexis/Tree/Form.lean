import Lexis.Tree.Node

/-!
# Debug forms of the tree

Nodes are shown as records, wrappers as a name and one member in parentheses.  The debug form is the
only place where the number of wrappers shows.
-/

namespace Lexis

/-- The debug form of a wrapped node, given the name of the wrapper and the form of the node. -/
def Wrapped.form {α : Type} (name : Text) (nodeForm : α → Form) : Wrapped α → Form
  | once node => .wrap name (nodeForm node)
  | again inner => .wrap name (inner.form name nodeForm)

def Identifier.form (i : Identifier) : Form :=
  .record "Identifier".toList [("token".toList, i.token.form), ("value".toList, .quoted i.value)]

namespace Stmt

def valueForm (value? : Option (Wrapped Identifier)) : Form :=
  .option (value?.map (Wrapped.form "ExprWrapper".toList Identifier.form))

def form : Stmt → Form
  | letStmt token name value? =>
    .record "LetStmt".toList
      [("token".toList, token.form), ("name".toList, name.form),
       ("value".toList, valueForm value?)]
  | returnStmt token value? =>
    .record "ReturnStmt".toList
      [("token".toList, token.form), ("value".toList, valueForm value?)]

def wrappedForm (s : Wrapped Stmt) : Form :=
  s.form "StmtWrapper".toList form

end Stmt

def Program.form (p : Program) : Form :=
  .record "Program".toList [("statements".toList, .list (p.statements.map Stmt.wrappedForm))]

end Lexis
