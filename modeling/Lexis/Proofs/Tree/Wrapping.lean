import Mathlib.Data.List.InsertIdx
import Lexis.Proofs.Tree.View
import Lexis.Tree.Edit

/-!
# Wrapping — edits do not look at wrappers

Programs under edit are told apart by what their statements show, which wrappers do not change.

* What an edit does to a workspace can be told from what the workspace shows (`Edit.onViews`,
  `Workspace.views_apply`); wrapping a statement does nothing to it.
* Sequences of edits are alike if they differ in the wrappers of given statements only, and in edits
  that wrap a statement (`EditsAlike`).
* Workspaces that are alike look alike after every two alike sequences (`Workspace.looksLike_run`).
-/

namespace Lexis

/-! ## Edits of what is shown -/

/-- What the statements of a workspace show: those of the program, and those of the saved one. -/
structure WorkspaceViews where
  program : List StmtView
  saved : List StmtView

namespace Edit

/-- What an edit does to what is shown. -/
def onViews (shown : WorkspaceViews) : Edit → WorkspaceViews
  | push s => { shown with program := shown.program ++ [Stmt.view s] }
  | insert index s =>
    { shown with
      program := shown.program.take index ++ [Stmt.view s] ++ shown.program.drop index }
  | remove index => { shown with program := shown.program.eraseIdx index }
  | copyStmt index => { shown with program := shown.program ++ shown.program[index]?.toList }
  | wrap _ => shown
  | save => { shown with saved := shown.program }
  | swap => ⟨shown.saved, shown.program⟩
  | clear => { shown with program := [] }
  | readLet source =>
    { shown with program := shown.program ++ [Stmt.view (.once (.letOfSource source))] }
  | readReturn source =>
    { shown with program := shown.program ++ [Stmt.view (.once (.returnOfSource source))] }

/-- Edits that are the same but for wrappers of the statement that they are given. -/
inductive Alike : Edit → Edit → Prop where
  | push {s t : Wrapped Stmt} : Wrapped.Alike Stmt.Alike s t → Alike (.push s) (.push t)
  | insert (index : Nat) {s t : Wrapped Stmt} :
    Wrapped.Alike Stmt.Alike s t → Alike (.insert index s) (.insert index t)
  | same (edit : Edit) : Alike edit edit

theorem Alike.onViews_eq {e f : Edit} (h : e.Alike f) (shown : WorkspaceViews) :
    e.onViews shown = f.onViews shown := by
  cases h with
  | push hs => simp [onViews, Stmt.alike_iff_view_eq.1 hs]
  | insert index hs => simp [onViews, Stmt.alike_iff_view_eq.1 hs]
  | same => rfl

end Edit

namespace Workspace

def views (w : Workspace) : WorkspaceViews :=
  ⟨w.program.views, w.saved.views⟩

/-- Wrapping one of the statements changes nothing that they show. -/
theorem map_view_modify_again (statements : List (Wrapped Stmt)) (index : Nat) :
    (statements.modify index .again).map Stmt.view = statements.map Stmt.view := by
  induction statements generalizing index with
  | nil => cases index <;> rfl
  | cons s rest ih =>
    cases index with
    | zero => rfl
    | succ index => simp [ih index]

/-- What is shown after an edit depends on what was shown before it only. -/
theorem views_apply (w : Workspace) (e : Edit) : (w.apply e).views = e.onViews w.views := by
  have hcopy : ∀ index, ((w.stmt? index).map Stmt.copyWrapped).toList.map Stmt.view =
      (w.program.statements.map Stmt.view)[index]?.toList := by
    intro index
    rw [stmt?, List.getElem?_map]
    cases w.program.statements[index]? <;> simp
  cases e with
  | push s => simp [apply, touched?, withStatements, views, Program.views, Edit.onViews]
  | insert index s =>
    simp [apply, touched?, withStatements, views, Program.views, Edit.onViews, List.map_take,
      List.map_drop]
  | remove index =>
    simp [apply, withStatements, views, Program.views, Edit.onViews, List.eraseIdx_map]
  | copyStmt index =>
    simp [apply, touched?, withStatements, views, Program.views, Edit.onViews, hcopy]
  | wrap index =>
    simp [apply, withStatements, views, Program.views, Edit.onViews, map_view_modify_again]
  | save => simp [apply, views, Edit.onViews, Program.views_copy]
  | swap => rfl
  | clear => rfl
  | readLet source => simp [apply, touched?, withStatements, views, Program.views, Edit.onViews]
  | readReturn source => simp [apply, touched?, withStatements, views, Program.views, Edit.onViews]

/-! ## Sequences of edits -/

/-- The workspace after edits, one after the other. -/
def run (w : Workspace) (es : List Edit) : Workspace :=
  es.foldl apply w

end Workspace

/-- Sequences of edits that are the same but for wrappers of the statements that they are given, and
for edits that wrap a statement, in either of them. -/
inductive EditsAlike : List Edit → List Edit → Prop where
  | nil : EditsAlike [] []
  | cons {e f : Edit} {es fs : List Edit} :
    e.Alike f → EditsAlike es fs → EditsAlike (e :: es) (f :: fs)
  | wrapLeft (index : Nat) {es fs : List Edit} :
    EditsAlike es fs → EditsAlike (.wrap index :: es) fs
  | wrapRight (index : Nat) {es fs : List Edit} :
    EditsAlike es fs → EditsAlike es (.wrap index :: fs)

namespace EditsAlike

variable {es fs : List Edit}

theorem symm (h : EditsAlike es fs) : EditsAlike fs es := by
  have hsymm : ∀ {s t : Wrapped Stmt}, Wrapped.Alike Stmt.Alike s t →
      Wrapped.Alike Stmt.Alike t s :=
    fun hs => Stmt.alike_iff_view_eq.2 (Stmt.alike_iff_view_eq.1 hs).symm
  induction h with
  | nil => exact .nil
  | cons hedit _ ih =>
    cases hedit with
    | push hs => exact .cons (.push (hsymm hs)) ih
    | insert index hs => exact .cons (.insert index (hsymm hs)) ih
    | same => exact .cons (.same _) ih
  | wrapLeft index _ ih => exact .wrapRight index ih
  | wrapRight index _ ih => exact .wrapLeft index ih

/-- Every step of one sequence has a step of the other that corresponds to it. -/
theorem exists_prefix (h : EditsAlike es fs) {es₁ : List Edit} (hes : es₁ <+: es) :
    ∃ fs₁, fs₁ <+: fs ∧ EditsAlike es₁ fs₁ := by
  induction h generalizing es₁ with
  | nil => exact ⟨[], List.nil_prefix, by simp_all [EditsAlike.nil]⟩
  | @cons e f es fs hedit _ ih =>
    cases es₁ with
    | nil => exact ⟨[], List.nil_prefix, .nil⟩
    | cons e' rest =>
      rcases List.cons_prefix_cons.1 hes with ⟨rfl, hrest⟩
      rcases ih hrest with ⟨fs₁, hfs, halike⟩
      exact ⟨f :: fs₁, List.cons_prefix_cons.2 ⟨rfl, hfs⟩, .cons hedit halike⟩
  | @wrapLeft index es fs _ ih =>
    cases es₁ with
    | nil => exact ⟨[], List.nil_prefix, .nil⟩
    | cons e' rest =>
      -- the edit of the first has no counterpart, so that of the rest will do
      rcases List.cons_prefix_cons.1 hes with ⟨rfl, hrest⟩
      rcases ih hrest with ⟨fs₁, hfs, halike⟩
      exact ⟨fs₁, hfs, .wrapLeft index halike⟩
  | @wrapRight index es fs _ ih =>
    rcases ih hes with ⟨fs₁, hfs, halike⟩
    exact ⟨.wrap index :: fs₁, List.cons_prefix_cons.2 ⟨rfl, hfs⟩, .wrapRight index halike⟩

/-- Alike sequences keep what is shown the same. -/
theorem views_run (h : EditsAlike es fs) {w v : Workspace} (hwv : w.views = v.views) :
    (w.run es).views = (v.run fs).views := by
  induction h generalizing w v with
  | nil => exact hwv
  | @cons e f es fs hedit _ ih =>
    have hstep : (w.apply e).views = (v.apply f).views := by
      rw [Workspace.views_apply, Workspace.views_apply, hedit.onViews_eq, hwv]
    exact ih hstep
  | wrapLeft index _ ih =>
    have hstep : (w.apply (.wrap index)).views = v.views := by
      rw [Workspace.views_apply, Edit.onViews, hwv]
    exact ih hstep
  | wrapRight index _ ih =>
    have hstep : w.views = (v.apply (.wrap index)).views := by
      rw [Workspace.views_apply, Edit.onViews, hwv]
    exact ih hstep

end EditsAlike

/-! ## What cannot be told apart -/

/-- Programs that answer alike: they have as many statements and the same literal, which is that of
the first statement, or empty if there is none, and statement by statement they show the same. -/
structure Program.LooksLike (p q : Program) : Prop where
  length_eq : p.statements.length = q.statements.length
  literal_eq : p.literal = q.literal
  literal_eq_first : p.literal = (p.views.head?.map StmtView.literal).getD []
  view_eq : ∀ index : Nat,
    p.statements[index]?.map Stmt.view = q.statements[index]?.map Stmt.view

theorem Program.looksLike_of_views_eq {p q : Program} (h : p.views = q.views) :
    p.LooksLike q where
  length_eq := by simpa [views] using congrArg List.length h
  literal_eq := by rw [p.literal_eq, q.literal_eq, h]
  literal_eq_first := p.literal_eq
  view_eq index := by simpa [views] using congrArg (·[index]?) h

namespace Workspace

/-- Workspaces whose programs answer alike, and so do the saved ones. -/
def LooksLike (w v : Workspace) : Prop :=
  w.program.LooksLike v.program ∧ w.saved.LooksLike v.saved

theorem looksLike_of_views_eq {w v : Workspace} (h : w.views = v.views) : w.LooksLike v :=
  ⟨Program.looksLike_of_views_eq (congrArg WorkspaceViews.program h),
    Program.looksLike_of_views_eq (congrArg WorkspaceViews.saved h)⟩

/-- Wrappers do not show.  Start from workspaces that are the same but for wrappers, and make edits
that are the same but for wrappers and for wrapping: at every two steps that correspond to each other
the workspaces answer alike, and every step of one sequence corresponds to one of the other. -/
theorem looksLike_run {w v : Workspace} {es fs : List Edit}
    (hprogram : w.program.Alike v.program) (hsaved : w.saved.Alike v.saved)
    (h : EditsAlike es fs) :
    (∀ es₁ fs₁, es₁ <+: es → fs₁ <+: fs → EditsAlike es₁ fs₁ →
      (w.run es₁).LooksLike (v.run fs₁)) ∧
    (∀ es₁, es₁ <+: es → ∃ fs₁, fs₁ <+: fs ∧ EditsAlike es₁ fs₁) ∧
    (∀ fs₁, fs₁ <+: fs → ∃ es₁, es₁ <+: es ∧ EditsAlike es₁ fs₁) ∧
    (w.run es).LooksLike (v.run fs) := by
  have hviews : w.views = v.views := by
    rw [views, views, Program.alike_iff_views_eq.1 hprogram, Program.alike_iff_views_eq.1 hsaved]
  refine ⟨?_, ?_, ?_, looksLike_of_views_eq (h.views_run hviews)⟩
  · intro es₁ fs₁ _ _ halike
    exact looksLike_of_views_eq (halike.views_run hviews)
  · intro es₁ hes
    exact h.exists_prefix hes
  · intro fs₁ hfs
    rcases h.symm.exists_prefix hfs with ⟨es₁, hes, halike⟩
    exact ⟨es₁, hes, halike.symm⟩

/-- A statement given without and with extra wrappers, around it and its value, and then wrapped
again before it is saved and copied. -/
theorem looksLike_run_more_wrappers :
    let token : Token := ⟨.returnWord, "return".toList⟩
    let value : Identifier := .ofToken ⟨.identifier, ['x']⟩
    let s : Wrapped Stmt := .once (.returnStmt token (some (.once value)))
    let t : Wrapped Stmt := .again (.once (.returnStmt token (some (.again (.again (.once value))))))
    let start := ofProgram .empty
    let es : List Edit := [.push s, .save, .copyStmt 0, .swap]
    let fs : List Edit := [.push t, .wrap 0, .save, .copyStmt 0, .wrap 1, .swap]
    start.program.Alike start.program ∧ start.saved.Alike start.saved ∧ EditsAlike es fs ∧
      (start.run es).LooksLike (start.run fs) := by
  intro token value s t start es fs
  have hempty : Program.empty.Alike Program.empty := .nil
  have hst : Wrapped.Alike Stmt.Alike s t := Stmt.alike_iff_view_eq.2 rfl
  have hedits : EditsAlike es fs :=
    .cons (.push hst) (.wrapRight 0 (.cons (.same .save) (.cons (.same (.copyStmt 0))
      (.wrapRight 1 (.cons (.same .swap) .nil)))))
  exact ⟨hempty, hempty, hedits, (looksLike_run hempty hempty hedits).2.2.2⟩

end Workspace

end Lexis
