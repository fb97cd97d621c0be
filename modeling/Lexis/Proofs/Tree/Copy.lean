import Lexis.Proofs.Tree.Form
import Lexis.Proofs.Tree.View

/-!
# Copy — copies are a normal form

A wrapper that is to be copied asks what it holds for a copy, and it is the innermost node that puts
its copy in one wrapper (`Stmt.copyWrapped_eq_answer`, `Stmt.copyValue_eq_answer`).

* A statement is normal if there is one wrapper around it, and one around its value if it has one.
  Copies are normal (`Stmt.isNormal_copyWrapped`), and the normal statements are their own copies
  (`Stmt.copyWrapped_eq_self_iff`).
* Statements that are the same but for wrappers have the same copy, and no others have
  (`Stmt.copyWrapped_eq_iff`).
* So it is for programs (`Program.copy_eq_self_iff`, `Program.copy_eq_iff`), and since debug forms
  can be read back, it shows in them (`Program.form_copy_eq_iff`).
-/

namespace Lexis

/-! ## One wrapper -/

namespace Wrapped

variable {α : Type}

theorem depth_pos (w : Wrapped α) : 0 < w.depth := by
  cases w <;> simp [depth]

/-- Every wrapped node is one in layers. -/
theorem exists_layered (w : Wrapped α) : ∃ extra, w = layered w.node extra := by
  induction w with
  | once x => exact ⟨0, rfl⟩
  | again inner ih =>
    rcases ih with ⟨extra, hinner⟩
    exact ⟨extra + 1, congrArg again hinner⟩

/-- A node put in one wrapper is as it was before if it was in one then. -/
theorem once_node_eq_iff (w : Wrapped α) : once w.node = w ↔ w.depth = 1 := by
  cases w with
  | once x => simp [node, depth]
  | again inner => simp [depth, Nat.ne_of_gt inner.depth_pos]

end Wrapped

/-! ## Copies of statements -/

namespace Stmt

/-- A value is copied by the node inside its wrappers. -/
theorem copyValue_eq_answer (value : Wrapped Identifier) : copyValue value = value.answer .once :=
  (value.answer_eq _).symm

/-- A statement is copied by the node inside its wrappers. -/
theorem copyWrapped_eq_answer (s : Wrapped Stmt) :
    copyWrapped s = s.answer fun node => .once node.copy :=
  (Wrapped.answer_eq (fun node : Stmt => Wrapped.once node.copy) s).symm

/-- The value of a statement, in its wrappers. -/
def value? : Stmt → Option (Wrapped Identifier)
  | letStmt _ _ value? => value?
  | returnStmt _ value? => value?

theorem value?_copy (s : Stmt) : s.copy.value? = s.value?.map copyValue := by
  cases s <;> rfl

/-- A statement is copied as it is exactly if its value is. -/
theorem copy_eq_self_iff (s : Stmt) : s.copy = s ↔ s.value?.map copyValue = s.value? := by
  cases s <;> simp [copy, value?]

/-- There is one wrapper around the statement, and one around its value if it has one. -/
structure IsNormal (s : Wrapped Stmt) : Prop where
  depth_eq : s.depth = 1
  depth_value_eq : ∀ value ∈ s.node.value?, value.depth = 1

theorem isNormal_copyWrapped (s : Wrapped Stmt) : IsNormal (copyWrapped s) where
  depth_eq := rfl
  depth_value_eq copied hcopied := by
    have hvalue : copied ∈ s.node.value?.map copyValue := s.node.value?_copy ▸ hcopied
    rcases Option.map_eq_some_iff.1 hvalue with ⟨value, -, rfl⟩
    rfl

/-- The normal statements are those that are their own copies. -/
theorem copyWrapped_eq_self_iff (s : Wrapped Stmt) : copyWrapped s = s ↔ IsNormal s := by
  constructor
  · intro hcopy
    exact hcopy ▸ isNormal_copyWrapped s
  · intro hnormal
    have hvalue : s.node.value?.map copyValue = s.node.value? := by
      cases hs : s.node.value? with
      | none => rfl
      | some value =>
        have hdepth : value.depth = 1 := hnormal.depth_value_eq value hs
        exact congrArg some (value.once_node_eq_iff.2 hdepth)
    calc
      copyWrapped s = .once s.node := congrArg Wrapped.once (s.node.copy_eq_self_iff.2 hvalue)
      _ = s := s.once_node_eq_iff.2 hnormal.depth_eq

theorem copyWrapped_copyWrapped (s : Wrapped Stmt) :
    copyWrapped (copyWrapped s) = copyWrapped s :=
  (copyWrapped_eq_self_iff _).2 (isNormal_copyWrapped s)

theorem Alike.copy_eq {s t : Stmt} (h : s.Alike t) : s.copy = t.copy := by
  have hvalue : ∀ {v? w? : Option (Wrapped Identifier)}, Option.Rel (Wrapped.Alike Eq) v? w? →
      v?.map copyValue = w?.map copyValue := by
    intro v? w? hrel
    cases hrel with
    | none => rfl
    | some halike => exact congrArg (some ∘ Wrapped.once) (Wrapped.alike_iff.1 halike)
  cases h with
  | letStmt token name hrel => exact congrArg (Stmt.letStmt token name) (hvalue hrel)
  | returnStmt token hrel => exact congrArg (Stmt.returnStmt token) (hvalue hrel)

/-- Statements have the same copy exactly if they are the same but for wrappers. -/
theorem copyWrapped_eq_iff {s t : Wrapped Stmt} :
    copyWrapped s = copyWrapped t ↔ Wrapped.Alike Alike s t := by
  constructor
  · intro hcopy
    -- copies show what the statements show, and that tells everything but their wrappers
    have hview : view s = view t := by simpa using congrArg view hcopy
    exact alike_iff_view_eq.2 hview
  · intro halike
    exact congrArg Wrapped.once (Wrapped.alike_iff.1 halike).copy_eq

end Stmt

/-! ## Copies of programs -/

namespace Program

/-- A program is its own copy exactly if all its statements are normal. -/
theorem copy_eq_self_iff (p : Program) : p.copy = p ↔ ∀ s ∈ p.statements, Stmt.IsNormal s := by
  rcases p with ⟨statements⟩
  have hmap : statements.map Stmt.copyWrapped = statements.map id ↔
      ∀ s ∈ statements, Stmt.copyWrapped s = id s := List.map_inj_left
  simpa [copy, Stmt.copyWrapped_eq_self_iff] using hmap

theorem copy_copy (p : Program) : p.copy.copy = p.copy := by
  simp [copy, Stmt.copyWrapped_copyWrapped]

theorem literal_copy (p : Program) : p.copy.literal = p.literal := by
  simp [literal_eq, views_copy]

/-- Programs have the same copy exactly if they are the same but for wrappers. -/
theorem copy_eq_iff {p q : Program} : p.copy = q.copy ↔ p.Alike q := by
  have hsame : Wrapped.Alike Stmt.Alike = fun s t => Stmt.copyWrapped s = Stmt.copyWrapped t := by
    funext s t
    exact propext Stmt.copyWrapped_eq_iff.symm
  rw [Alike, hsame, copy, copy, mk.injEq, ← List.forall₂_eq_eq_eq, List.forall₂_map_left_iff,
    List.forall₂_map_right_iff]

/-- What a copy shows in its debug forms: it is that of the program exactly if this is normal. -/
theorem form_copy_eq_iff (p : Program) (layout : Layout) :
    p.copy.form layout = p.form layout ↔ ∀ s ∈ p.statements, Stmt.IsNormal s := by
  rw [← copy_eq_self_iff]
  constructor
  · exact isLegible_form.eq_of_eq
  · intro hcopy
    exact congrArg (form · layout) hcopy

/-- Copies are a normal form that keeps what is shown.  However many wrappers there are around a
statement, and around its value if it has one, its copy is the innermost node in one wrapper, with
the same token and name and with the innermost value in one wrapper, or with none; these nodes make
the copies, and no wrapper does.  The copy shows the same type, literal and fields as the statement.
A program that is copied keeps its statements in order and its literal, and copying it again does
not change its debug forms; the copy has the debug form of the program exactly if there is one
wrapper around every statement, and one around every value that is there.  Programs have the same
copy exactly if they are the same but for wrappers. -/
theorem copy_is_normal_form :
    (∀ (value? : Option (Identifier × Nat)) (extra : Nat),
      let value := value?.map fun (i, more) => Wrapped.layered i more
      let copied := value?.map fun (i, _) => Wrapped.once i
      (∀ token name, Stmt.copyWrapped (.layered (.letStmt token name value) extra) =
        .once (.letStmt token name copied)) ∧
      ∀ token, Stmt.copyWrapped (.layered (.returnStmt token value) extra) =
        .once (.returnStmt token copied)) ∧
    (∀ s : Wrapped Stmt, (∃ extra, s = .layered s.node extra) ∧
      Stmt.copyWrapped s = s.answer (fun node => .once node.copy) ∧
      Stmt.view (Stmt.copyWrapped s) = Stmt.view s) ∧
    (∀ value : Wrapped Identifier, (∃ extra, value = .layered value.node extra) ∧
      Stmt.copyValue value = value.answer .once) ∧
    (∀ p : Program, p.copy.statements = p.statements.map Stmt.copyWrapped ∧
      p.copy.views = p.views ∧ p.copy.literal = p.literal ∧
      ∀ layout, p.copy.copy.form layout = p.copy.form layout ∧
        (p.copy.form layout = p.form layout ↔ ∀ s ∈ p.statements, Stmt.IsNormal s)) ∧
    ∀ p q : Program, p.copy = q.copy ↔ p.Alike q := by
  refine ⟨?_, ?_, ?_, ?_, fun p q => copy_eq_iff⟩
  · intro value? extra value copied
    have hvalue : value.map Stmt.copyValue = copied := by
      cases value? <;> simp [value, copied, Stmt.copyValue]
    constructor
    · intro token name
      simp [Stmt.copyWrapped, Stmt.copy, hvalue]
    · intro token
      simp [Stmt.copyWrapped, Stmt.copy, hvalue]
  · intro s
    exact ⟨s.exists_layered, Stmt.copyWrapped_eq_answer s, Stmt.view_copyWrapped s⟩
  · intro value
    exact ⟨value.exists_layered, Stmt.copyValue_eq_answer value⟩
  · intro p
    refine ⟨rfl, p.views_copy, p.literal_copy, fun layout => ⟨?_, p.form_copy_eq_iff layout⟩⟩
    rw [p.copy_copy]

end Program

end Lexis
