import Mathlib.Tactic.TFAE
import Lexis.Proofs.Form.Legible
import Lexis.Tree.Form

/-!
# Form — debug forms of the tree can be read back

Every node has a legible form, since no record, wrapper or missing value looks like the beginning of
another: nodes in any number of wrappers (`Wrapped.isLegible_form`), tokens, identifiers and
statements.  So a program can be read back from its debug form in either layout, with the number of
wrappers around every node (`Program.eq_tfae_form_eq`).
-/

namespace Lexis

open Form (IsLegible AreLegible)

/-! ## Tokens -/

/-- No name of a kind begins another. -/
theorem Kind.isSelfDelimiting_name : IsSelfDelimiting Kind.name := by
  have hall : ∀ k ∈ all, k.name ≠ [] ∧ ∀ l ∈ all, k.name <+: l.name → k = l := by decide
  exact .of_prefixFree (fun k => (hall k k.mem_all).1) fun k l => (hall k k.mem_all).2 l l.mem_all

theorem Kind.isLegible_name : IsLegible fun k : Kind => Form.text k.name :=
  fun _ => isSelfDelimiting_name

theorem Token.isLegible_form : IsLegible Token.form := by
  have hfields : AreLegible fun p : Kind × Text =>
      [("kind".toList, Form.text p.1.name), ("literal".toList, .quoted p.2)] :=
    .cons Kind.isLegible_name _ (.single Form.isLegible_quoted _)
  have hparts : Function.Injective fun t : Token => (t.kind, t.literal) := by
    rintro ⟨k, s⟩ ⟨l, u⟩ h
    simpa using h
  have hrecord := (hfields.record "Token".toList).comp hparts
  exact hrecord

/-! ## Wrappers -/

/-- A node and the number of its wrappers can be read back, if the form of a node does not look like
a wrapper. -/
theorem Wrapped.isLegible_form {α : Type} {name : Text} {nodeForm : α → Form}
    (hnode : IsLegible nodeForm) (hname : ∀ x layout, Apart (nodeForm x layout) name) :
    IsLegible (Wrapped.form name nodeForm) := by
  have hapart : ∀ x (w : Wrapped α) layout,
      Apart (w.form name nodeForm layout) (nodeForm x layout) := by
    intro x w layout
    cases w <;> exact Form.apart_wrap (hname x layout).symm _ layout
  intro layout
  constructor
  · intro w
    cases w <;> simp [form, Form.wrap_eq]
  · -- wrappers are taken off on both sides until a node shows
    intro v w s t heq
    induction v generalizing w layout s t with
    | once x =>
      cases w with
      | once y =>
        rcases (hnode.wrap name layout).unique heq with ⟨rfl, hst⟩
        exact ⟨rfl, hst⟩
      | again w =>
        rcases Form.exists_append_of_wrap_append heq with ⟨closing, hmember⟩
        exact absurd hmember.symm ((hapart x w _).append_ne _ _)
    | again v ih =>
      cases w with
      | once y =>
        rcases Form.exists_append_of_wrap_append heq with ⟨closing, hmember⟩
        exact absurd hmember ((hapart y v _).append_ne _ _)
      | again w =>
        rcases Form.exists_append_of_wrap_append heq with ⟨closing, hmember⟩
        rcases ih layout.inner hmember with ⟨rfl, hrest⟩
        exact ⟨rfl, List.append_cancel_left hrest⟩

/-! ## Values and statements -/

theorem Identifier.isLegible_form : IsLegible Identifier.form := by
  have hfields : AreLegible fun p : Token × Text =>
      [("token".toList, p.1.form), ("value".toList, .quoted p.2)] :=
    .cons Token.isLegible_form _ (.single Form.isLegible_quoted _)
  have hparts : Function.Injective fun i : Identifier => (i.token, i.value) := by
    rintro ⟨t, s⟩ ⟨u, v⟩ h
    simpa using h
  have hrecord := (hfields.record "Identifier".toList).comp hparts
  exact hrecord

namespace Stmt

theorem isLegible_valueForm : IsLegible valueForm := by
  have hname : ∀ (i : Identifier) layout, Apart (i.form layout) "ExprWrapper".toList :=
    fun i => Form.apart_record (by decide) (List.cons_ne_nil _ _)
  exact (Wrapped.isLegible_form Identifier.isLegible_form hname).option

theorem isLegible_form : IsLegible form := by
  have hcover : ∀ s : Stmt,
      (∃ p : Token × Identifier × Option (Wrapped Identifier), s = letStmt p.1 p.2.1 p.2.2) ∨
        ∃ p : Token × Option (Wrapped Identifier), s = returnStmt p.1 p.2 := by
    intro s
    cases s with
    | letStmt token name value? => exact .inl ⟨(token, name, value?), rfl⟩
    | returnStmt token value? => exact .inr ⟨(token, value?), rfl⟩
  have hreturn : AreLegible fun p : Token × Option (Wrapped Identifier) =>
      [("token".toList, p.1.form), ("value".toList, valueForm p.2)] :=
    .cons Token.isLegible_form _ (.single isLegible_valueForm _)
  have hlet : AreLegible fun p : Token × Identifier × Option (Wrapped Identifier) =>
      [("token".toList, p.1.form), ("name".toList, p.2.1.form),
        ("value".toList, valueForm p.2.2)] :=
    .cons Token.isLegible_form _
      (.cons Identifier.isLegible_form _ (.single isLegible_valueForm _))
  refine .either hcover (hlet.record "LetStmt".toList) (hreturn.record "ReturnStmt".toList) ?_
  intro p q layout
  have hnames : Apart "ReturnStmt".toList "LetStmt".toList := by decide
  have hsecond := Form.apart_record hnames (hreturn.ne_nil q) layout
  exact Form.apart_record hsecond.symm (hlet.ne_nil p) layout

theorem apart_form {u : Text} (hlet : Apart "LetStmt".toList u)
    (hreturn : Apart "ReturnStmt".toList u) (s : Stmt) (layout : Layout) :
    Apart (s.form layout) u := by
  cases s with
  | letStmt => exact Form.apart_record hlet (List.cons_ne_nil _ _) layout
  | returnStmt => exact Form.apart_record hreturn (List.cons_ne_nil _ _) layout

theorem isLegible_wrappedForm : IsLegible wrappedForm :=
  Wrapped.isLegible_form isLegible_form (apart_form (by decide) (by decide))

end Stmt

/-! ## Programs -/

namespace Program

theorem isLegible_form : IsLegible form := by
  have hstart : ∀ s layout, Apart (Stmt.wrappedForm s layout) [']'] := by
    intro s layout
    cases s <;> exact Form.apart_wrap (by decide) _ layout
  have hlist := Stmt.isLegible_wrappedForm.list hstart
  have hstatements : Function.Injective Program.statements := by
    rintro ⟨ss⟩ ⟨ts⟩ h
    simpa using h
  exact ((AreLegible.single hlist "statements".toList).record "Program".toList).comp hstatements

/-- Programs are the same, wrappers included, exactly if their debug forms on one line are the same,
and exactly if their debug forms on several lines are. -/
theorem eq_tfae_form_eq (p q : Program) :
    [p = q, p.form .inline = q.form .inline, p.form (.block 0) = q.form (.block 0)].TFAE := by
  tfae_have 1 → 2 := by
    rintro rfl
    rfl
  tfae_have 2 → 1 := isLegible_form.eq_of_eq
  tfae_have 1 → 3 := by
    rintro rfl
    rfl
  tfae_have 3 → 1 := isLegible_form.eq_of_eq
  tfae_finish

end Program

end Lexis
