import Lexis.Text.Lines

/-!
# Lines — the pieces of a cut list

A list that is cut after every element of `p` is a sequence of closed pieces, each of which ends in
an element of `p` and holds no other, and an open rest without any (`IsCut`).

* Every list has such a cut, and `cutAfter` gives its pieces (`exists_isCut`, `IsCut.cutAfter_eq`).
* Closed pieces in front of a list are cut off one by one (`cutAfter_flatten_append`).
* What `cutAfter` gives before some other piece is closed (`IsClosed.of_cutAfter_eq_append`).
-/

namespace Lexis

variable {α : Type} {p : α → Bool}

/-- A piece that ends in an element of `p` and holds no other. -/
def IsClosed (p : α → Bool) (piece : List α) : Prop :=
  ∃ body x, piece = body ++ [x] ∧ (∀ y ∈ body, p y = false) ∧ p x = true

/-- A list without elements of `p`. -/
def IsOpen (p : α → Bool) (piece : List α) : Prop :=
  ∀ x ∈ piece, p x = false

/-- The list is made of closed pieces and an open rest. -/
structure IsCut (p : α → Bool) (pieces : List (List α)) (rest xs : List α) : Prop where
  eq : xs = pieces.flatten ++ rest
  closed : ∀ piece ∈ pieces, IsClosed p piece
  isOpen : IsOpen p rest

/-! ## Cutting -/

@[simp] theorem cutAfter_nil : cutAfter p [] = [] :=
  rfl

theorem cutAfter_cons_of_neg {x : α} {rest piece : List α} {pieces : List (List α)}
    (hx : p x = false) (hrest : cutAfter p rest = piece :: pieces) :
    cutAfter p (x :: rest) = (x :: piece) :: pieces := by
  simp [cutAfter, hx, hrest]

theorem cutAfter_of_isOpen {xs : List α} (h : IsOpen p xs) :
    cutAfter p xs = if xs = [] then [] else [xs] := by
  induction xs with
  | nil => rfl
  | cons x rest ih =>
    have hx : p x = false := h x (by simp)
    have hrest := ih fun y hy => h y (List.mem_cons_of_mem x hy)
    cases rest with
    | nil => simp [cutAfter, hx]
    | cons y more => exact cutAfter_cons_of_neg hx hrest

/-- A closed piece is cut off from what follows it. -/
theorem IsClosed.cutAfter_append {piece : List α} (h : IsClosed p piece) (rest : List α) :
    cutAfter p (piece ++ rest) = piece :: cutAfter p rest := by
  rcases h with ⟨body, x, rfl, hbody, hx⟩
  induction body with
  | nil => simp [cutAfter, hx]
  | cons y more ih =>
    have hy : p y = false := hbody y (by simp)
    have hmore := ih fun z hz => hbody z (List.mem_cons_of_mem y hz)
    exact cutAfter_cons_of_neg hy hmore

theorem cutAfter_flatten_append {pieces : List (List α)} (h : ∀ piece ∈ pieces, IsClosed p piece)
    (rest : List α) : cutAfter p (pieces.flatten ++ rest) = pieces ++ cutAfter p rest := by
  induction pieces with
  | nil => rfl
  | cons piece pieces ih =>
    rcases List.forall_mem_cons.1 h with ⟨hpiece, hpieces⟩
    calc
      cutAfter p ((piece :: pieces).flatten ++ rest)
          = cutAfter p (piece ++ (pieces.flatten ++ rest)) := by simp
      _ = piece :: cutAfter p (pieces.flatten ++ rest) := hpiece.cutAfter_append _
      _ = piece :: pieces ++ cutAfter p rest := by simp [ih hpieces]

theorem cutAfter_flatten {pieces : List (List α)} (h : ∀ piece ∈ pieces, IsClosed p piece) :
    cutAfter p pieces.flatten = pieces := by
  simpa using cutAfter_flatten_append h []

theorem IsCut.cutAfter_eq {pieces : List (List α)} {rest xs : List α} (h : IsCut p pieces rest xs) :
    cutAfter p xs = pieces ++ if rest = [] then [] else [rest] := by
  simp [h.eq, cutAfter_flatten_append h.closed, cutAfter_of_isOpen h.isOpen]

/-! ## Every list has a cut -/

/-- A list is open or begins with a closed piece. -/
theorem isOpen_or_exists_closed (p : α → Bool) (xs : List α) :
    IsOpen p xs ∨ ∃ piece rest, IsClosed p piece ∧ xs = piece ++ rest := by
  induction xs with
  | nil => exact Or.inl (by simp [IsOpen])
  | cons x xs ih =>
    cases hx : p x with
    | true => exact Or.inr ⟨[x], xs, ⟨[], x, rfl, by simp, hx⟩, rfl⟩
    | false =>
      -- the element comes in front of the rest, open or closed as it is
      rcases ih with hopen | ⟨piece, rest, ⟨body, y, rfl, hbody, hy⟩, rfl⟩
      · exact Or.inl (List.forall_mem_cons.2 ⟨hx, hopen⟩)
      · exact Or.inr ⟨x :: body ++ [y], rest,
          ⟨x :: body, y, rfl, List.forall_mem_cons.2 ⟨hx, hbody⟩, hy⟩, rfl⟩

theorem IsClosed.ne_nil {piece : List α} (h : IsClosed p piece) : piece ≠ [] := by
  rcases h with ⟨body, x, rfl, -, -⟩
  simp

theorem exists_isCut (p : α → Bool) (xs : List α) : ∃ pieces rest, IsCut p pieces rest xs := by
  rcases isOpen_or_exists_closed p xs with hopen | ⟨piece, more, hpiece, hxs⟩
  · exact ⟨[], xs, rfl, by simp, hopen⟩
  · have hlt : more.length < xs.length := by
      have hpos := List.length_pos_iff.2 hpiece.ne_nil
      simp only [hxs, List.length_append]
      omega
    rcases exists_isCut p more with ⟨pieces, rest, hcut⟩
    refine ⟨piece :: pieces, rest, ?_, ?_, hcut.isOpen⟩
    · simp [hxs, hcut.eq, List.flatten_cons, List.append_assoc]
    · exact List.forall_mem_cons.2 ⟨hpiece, hcut.closed⟩
termination_by xs.length

/-- A list that is empty or ends in an element of `p` has no open rest. -/
theorem isClosed_of_mem_cutAfter {xs : List α} (h : ∀ x ∈ xs.getLast?, p x = true) :
    ∀ piece ∈ cutAfter p xs, IsClosed p piece := by
  rcases exists_isCut p xs with ⟨pieces, rest, hcut⟩
  have hrest : rest = [] := by
    rcases List.eq_nil_or_concat rest with hnil | ⟨init, x, rfl⟩
    · exact hnil
    · -- the last element of the list would be one of the open rest
      have hx : p x = true := h x (by simp [hcut.eq, ← List.append_assoc])
      simp [hcut.isOpen x (by simp)] at hx
  intro piece hpiece
  rw [hcut.cutAfter_eq, if_pos hrest, List.append_nil] at hpiece
  exact hcut.closed piece hpiece

/-- A list that is empty or ends in an element of `p` is cut before what follows it. -/
theorem cutAfter_append {xs : List α} (h : ∀ x ∈ xs.getLast?, p x = true) (ys : List α) :
    cutAfter p (xs ++ ys) = cutAfter p xs ++ cutAfter p ys := by
  have hcut := cutAfter_flatten_append (isClosed_of_mem_cutAfter h) ys
  rwa [flatten_cutAfter] at hcut

/-! ## Lines -/

@[simp] theorem Text.flatten_lines (s : Text) : (Text.lines s).flatten = s :=
  flatten_cutAfter _ s

@[simp] theorem Bytes.flatten_lines (bytes : Bytes) : bytes.lines.flatten = bytes :=
  flatten_cutAfter _ bytes

/-- A text without line feeds is part of a line. -/
theorem Text.isOpen_of_not_mem {s : Text} (h : '\n' ∉ s) : IsOpen (· == '\n') s := by
  intro c hc
  rw [beq_eq_false_iff_ne]
  rintro rfl
  exact h hc

theorem Text.isClosed_line {s : Text} (h : '\n' ∉ s) : IsClosed (· == '\n') (Text.line s) :=
  ⟨s, '\n', rfl, Text.isOpen_of_not_mem h, rfl⟩

/-! ## Parts of a cut -/

/-- Of the pieces of a list, those before another one are closed, and the others are the pieces of
what follows. -/
theorem IsClosed.of_cutAfter_eq_append {xs : List α} {before after : List (List α)}
    (h : cutAfter p xs = before ++ after) (hafter : after ≠ []) :
    (∀ piece ∈ before, IsClosed p piece) ∧ cutAfter p after.flatten = after := by
  induction before generalizing xs with
  | nil =>
    have hflatten : after.flatten = xs := by rw [← List.nil_append after, ← h, flatten_cutAfter]
    exact ⟨by simp, by rw [hflatten, h, List.nil_append]⟩
  | cons piece before ih =>
    rcases isOpen_or_exists_closed p xs with hopen | ⟨other, rest, hother, rfl⟩
    · -- an open list is one piece at most, and here are two
      rw [cutAfter_of_isOpen hopen] at h
      have hlength := congrArg List.length h
      have hpos := List.length_pos_iff.2 hafter
      simp only [List.length_append, List.length_cons] at hlength
      split at hlength <;> simp at hlength <;> omega
    · -- the first piece is the closed one, and the others are those of what follows it
      rw [hother.cutAfter_append] at h
      rcases List.cons.inj h with ⟨rfl, hrest⟩
      rcases ih hrest with ⟨hbefore, hcut⟩
      exact ⟨List.forall_mem_cons.2 ⟨hother, hbefore⟩, hcut⟩

/-- The first pieces of a list, joined, are cut into the same pieces. -/
theorem cutAfter_flatten_of_prefix {xs : List α} {pieces : List (List α)}
    (h : pieces <+: cutAfter p xs) : cutAfter p pieces.flatten = pieces := by
  rcases h with ⟨after, heq⟩
  by_cases hafter : after = []
  · rw [hafter, List.append_nil] at heq
    have hflatten : pieces.flatten = xs := by simp [heq, flatten_cutAfter]
    rw [hflatten, heq]
  · exact cutAfter_flatten (IsClosed.of_cutAfter_eq_append heq.symm hafter).1

end Lexis
