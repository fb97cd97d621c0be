import Mathlib.Data.List.Forall2
import Lexis.Tree.Node

/-!
# View — what nodes show through their wrappers

A wrapper answers no question itself: it passes it on to what it holds, be that a node or another
wrapper (`Wrapped.answer`).  So it is always the innermost node that answers (`Wrapped.answer_eq`).

* A `StmtView` is all that can be asked of a statement: its type, its literal, and its fields, if it
  is asked for them as the type of statement that it is.  A `ValueView` is the same for a value.
* Statements that are the same but for the number of wrappers, around them or around their values
  (`Stmt.Alike`), are those with the same view (`Stmt.alike_iff_view_eq`).
-/

namespace Lexis

/-! ## Asking through wrappers -/

namespace Wrapped

variable {α β : Type}

/-- The answer to a question, which a wrapper passes on to what it holds. -/
def answer (ask : α → β) : Wrapped α → β
  | once node => ask node
  | again inner => inner.answer ask

theorem answer_eq (ask : α → β) (w : Wrapped α) : w.answer ask = ask w.node := by
  induction w with
  | once node => rfl
  | again inner ih => exact ih

/-- Wrapped nodes that are the same but for the number of wrappers. -/
inductive Alike (same : α → α → Prop) : Wrapped α → Wrapped α → Prop where
  | once {a b : α} : same a b → Alike same (.once a) (.once b)
  | againLeft {v w : Wrapped α} : Alike same v w → Alike same (.again v) w
  | againRight {v w : Wrapped α} : Alike same v w → Alike same v (.again w)

theorem alike_iff {same : α → α → Prop} {v w : Wrapped α} :
    Alike same v w ↔ same v.node w.node := by
  constructor
  · intro h
    induction h with
    | once hsame => exact hsame
    | againLeft _ ih => exact ih
    | againRight _ ih => exact ih
  · intro h
    induction v with
    | again inner ih => exact .againLeft (ih h)
    | once a =>
      -- the wrappers of the first are gone; those of the second are taken off in turn
      induction w with
      | again inner ih => exact .againRight (ih h)
      | once b => exact .once h

end Wrapped

/-! ## Values -/

/-- What a value shows: its type, its literal, and the identifier that it is. -/
structure ValueView where
  typeName : Text
  literal : Text
  identifier : Identifier
  deriving DecidableEq, Repr

namespace Identifier

def view (value : Wrapped Identifier) : ValueView :=
  ⟨value.answer fun _ => typeName, value.answer literal, value.answer id⟩

theorem view_eq (value : Wrapped Identifier) :
    view value = ⟨typeName, value.node.literal, value.node⟩ := by
  simp [view, Wrapped.answer_eq]

theorem view_eq_iff {v w : Wrapped Identifier} : view v = view w ↔ v.node = w.node := by
  constructor
  · intro h
    simpa [view_eq] using congrArg ValueView.identifier h
  · intro h
    simp [view_eq, h]

end Identifier

/-! ## Statements -/

/-- What a statement shows: its type, its literal, and its fields to who asks for a statement of the
type that it is. -/
structure StmtView where
  typeName : Text
  literal : Text
  asLet? : Option (Token × Identifier × Option ValueView)
  asReturn? : Option (Token × Option ValueView)
  deriving DecidableEq, Repr

namespace Stmt

/-- The token, the name and the value of a statement that binds a name. -/
def asLet? : Stmt → Option (Token × Identifier × Option ValueView)
  | letStmt token name value? => some (token, name, value?.map Identifier.view)
  | returnStmt _ _ => none

/-- The token and the value of a statement that returns. -/
def asReturn? : Stmt → Option (Token × Option ValueView)
  | letStmt _ _ _ => none
  | returnStmt token value? => some (token, value?.map Identifier.view)

def view (s : Wrapped Stmt) : StmtView :=
  ⟨s.answer typeName, s.answer literal, s.answer asLet?, s.answer asReturn?⟩

theorem view_eq (s : Wrapped Stmt) :
    view s = ⟨s.node.typeName, s.node.literal, s.node.asLet?, s.node.asReturn?⟩ := by
  simp [view, Wrapped.answer_eq]

@[simp] theorem view_again (s : Wrapped Stmt) : view (.again s) = view s :=
  rfl

/-! ## The same but for wrappers -/

/-- Statements that are the same but for the number of wrappers around their values. -/
inductive Alike : Stmt → Stmt → Prop where
  | letStmt (token : Token) (name : Identifier) {v? w? : Option (Wrapped Identifier)} :
    Option.Rel (Wrapped.Alike Eq) v? w? → Alike (.letStmt token name v?) (.letStmt token name w?)
  | returnStmt (token : Token) {v? w? : Option (Wrapped Identifier)} :
    Option.Rel (Wrapped.Alike Eq) v? w? → Alike (.returnStmt token v?) (.returnStmt token w?)

theorem rel_alike_iff {v? w? : Option (Wrapped Identifier)} :
    Option.Rel (Wrapped.Alike Eq) v? w? ↔ v?.map Identifier.view = w?.map Identifier.view := by
  cases v? <;> cases w? <;> simp [Wrapped.alike_iff, Identifier.view_eq_iff]

theorem alike_iff {s t : Stmt} :
    s.Alike t ↔ s.asLet? = t.asLet? ∧ s.asReturn? = t.asReturn? := by
  constructor
  · rintro (⟨token, name, h⟩ | ⟨token, h⟩) <;> simp [asLet?, asReturn?, rel_alike_iff.1 h]
  · rintro ⟨hlet, hreturn⟩
    cases s with
    | letStmt token name v? =>
      cases t with
      | returnStmt token' w? => simp [asLet?] at hlet
      | letStmt token' name' w? =>
        obtain ⟨rfl, rfl, hvalue⟩ : token = token' ∧ name = name' ∧
            v?.map Identifier.view = w?.map Identifier.view := by simpa [asLet?] using hlet
        exact .letStmt token name (rel_alike_iff.2 hvalue)
    | returnStmt token v? =>
      cases t with
      | letStmt token' name' w? => simp [asLet?] at hlet
      | returnStmt token' w? =>
        obtain ⟨rfl, hvalue⟩ : token = token' ∧
            v?.map Identifier.view = w?.map Identifier.view := by simpa [asReturn?] using hreturn
        exact .returnStmt token (rel_alike_iff.2 hvalue)

/-- Statements that are alike have the same type and the same literal. -/
theorem Alike.typeName_eq {s t : Stmt} (h : s.Alike t) :
    s.typeName = t.typeName ∧ s.literal = t.literal := by
  cases h <;> exact ⟨rfl, rfl⟩

/-- A view tells everything about a statement but its wrappers. -/
theorem alike_iff_view_eq {s t : Wrapped Stmt} :
    Wrapped.Alike Stmt.Alike s t ↔ view s = view t := by
  rw [Wrapped.alike_iff, view_eq, view_eq]
  constructor
  · intro h
    simp [h.typeName_eq, alike_iff.1 h]
  · intro h
    rcases StmtView.mk.inj h with ⟨-, -, hlet, hreturn⟩
    exact alike_iff.2 ⟨hlet, hreturn⟩

/-! ## Copies -/

theorem rel_alike_copyValue (value? : Option (Wrapped Identifier)) :
    Option.Rel (Wrapped.Alike Eq) (value?.map copyValue) value? := by
  cases value? with
  | none => exact .none
  | some value => exact .some (Wrapped.alike_iff.2 rfl)

/-- A copy differs in wrappers only. -/
theorem copy_alike (s : Stmt) : s.copy.Alike s := by
  cases s with
  | letStmt token name value? => exact .letStmt token name (rel_alike_copyValue value?)
  | returnStmt token value? => exact .returnStmt token (rel_alike_copyValue value?)

@[simp] theorem view_copyWrapped (s : Wrapped Stmt) : view (copyWrapped s) = view s :=
  alike_iff_view_eq.1 (Wrapped.alike_iff.2 (copy_alike s.node))

end Stmt

/-! ## Programs -/

namespace Program

/-- What the statements of a program show. -/
def views (p : Program) : List StmtView :=
  p.statements.map Stmt.view

/-- Programs that are the same but for wrappers. -/
def Alike (p q : Program) : Prop :=
  List.Forall₂ (Wrapped.Alike Stmt.Alike) p.statements q.statements

theorem alike_iff_views_eq {p q : Program} : p.Alike q ↔ p.views = q.views := by
  have hsame : Wrapped.Alike Stmt.Alike = fun s t => Stmt.view s = Stmt.view t := by
    funext s t
    exact propext Stmt.alike_iff_view_eq
  rw [Alike, hsame, views, views, ← List.forall₂_eq_eq_eq, List.forall₂_map_left_iff,
    List.forall₂_map_right_iff]

/-- The literal of a program shows in its views. -/
theorem literal_eq (p : Program) : p.literal = (p.views.head?.map StmtView.literal).getD [] := by
  cases hp : p.statements with
  | nil => simp [literal, views, hp]
  | cons s rest => simp [literal, views, hp, Stmt.view_eq]

theorem views_copy (p : Program) : p.copy.views = p.views := by
  simp [copy, views]

end Program

end Lexis
