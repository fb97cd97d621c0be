import Mathlib.Logic.Function.Basic

/-!
# SelfDelimiting — codes that can be read back

A code writes a value as a list of symbols.  It is self-delimiting if a value that is written in
front of anything can be told from what follows it (`IsSelfDelimiting`).

* Values that are written apart and without some symbol are delimited by that symbol
  (`IsSelfDelimiting.of_terminator`).
* A self-delimiting code stays one with something fixed before or after each value, and one value
  may follow another (`prepend`, `postpend`, `pair`); values may be of two sorts if those are written
  apart (`either`).
* Lists are `Apart` if they differ at some place that both have; codes none of whose words begins
  another are self-delimiting (`IsSelfDelimiting.of_prefixFree`).
* A sequence of values is delimited by what is apart from every value
  (`IsSelfDelimiting.sequenceUntil`), such as a symbol that no value begins with (`sequence`), and
  alone it needs no delimiter (`IsSelfDelimiting.flatMap_injective`).
-/

namespace Lexis

variable {α β γ σ : Type}

/-- A code whose values can be told from what follows them. -/
structure IsSelfDelimiting (code : α → List σ) : Prop where
  ne_nil : ∀ x, code x ≠ []
  unique : ∀ {x y s t}, code x ++ s = code y ++ t → x = y ∧ s = t

/-- What stands before the first of a symbol can be told from what stands after it. -/
theorem append_cons_inj_of_not_mem {stop : σ} {u v s t : List σ} (hu : stop ∉ u) (hv : stop ∉ v)
    (h : u ++ stop :: s = v ++ stop :: t) : u = v ∧ s = t := by
  induction u generalizing v with
  | nil =>
    cases v with
    | nil => exact ⟨rfl, List.tail_eq_of_cons_eq h⟩
    | cons y v =>
      obtain rfl : stop = y := List.head_eq_of_cons_eq h
      simp at hv
  | cons x u ih =>
    cases v with
    | nil =>
      obtain rfl : x = stop := List.head_eq_of_cons_eq h
      simp at hu
    | cons y v =>
      obtain rfl : x = y := List.head_eq_of_cons_eq h
      have htail : u ++ stop :: s = v ++ stop :: t := List.tail_eq_of_cons_eq h
      rcases ih (List.not_mem_of_not_mem_cons hu) (List.not_mem_of_not_mem_cons hv) htail with
        ⟨rfl, hst⟩
      exact ⟨rfl, hst⟩

/-- What stands after the last of a symbol can be told from what stands before it. -/
theorem append_cons_inj_of_not_mem_right {stop : σ} {u v s t : List σ} (hs : stop ∉ s)
    (ht : stop ∉ t) (h : u ++ stop :: s = v ++ stop :: t) : u = v ∧ s = t := by
  have hreverse : s.reverse ++ stop :: u.reverse = t.reverse ++ stop :: v.reverse := by
    simpa using congrArg List.reverse h
  rcases append_cons_inj_of_not_mem (by simpa using hs) (by simpa using ht) hreverse with
    ⟨hst, huv⟩
  exact ⟨List.reverse_inj.1 huv, List.reverse_inj.1 hst⟩

/-! ## Lists that differ from some place on -/

/-- Neither list begins with the other. -/
def Apart (u v : List σ) : Prop :=
  ¬ u <+: v ∧ ¬ v <+: u

instance [DecidableEq σ] (u v : List σ) : Decidable (Apart u v) :=
  inferInstanceAs (Decidable (¬ u <+: v ∧ ¬ v <+: u))

namespace Apart

variable {u v : List σ}

theorem symm (h : Apart u v) : Apart v u :=
  ⟨h.2, h.1⟩

/-- Whatever follows lists that are apart, they stay different. -/
theorem append_ne (h : Apart u v) (s t : List σ) : u ++ s ≠ v ++ t := by
  intro heq
  have hu : u <+: v ++ t := heq ▸ List.prefix_append u s
  rcases List.prefix_or_prefix_of_prefix hu (List.prefix_append v t) with hfirst | hsecond
  · exact h.1 hfirst
  · exact h.2 hsecond

theorem append (h : Apart u v) (s t : List σ) : Apart (u ++ s) (v ++ t) := by
  constructor
  · rintro ⟨more, heq⟩
    exact h.append_ne (s ++ more) t (by simpa using heq)
  · rintro ⟨more, heq⟩
    exact h.append_ne s (t ++ more) (by simpa using heq.symm)

theorem append_left (h : Apart u v) (w : List σ) : Apart (w ++ u) (w ++ v) := by
  constructor
  · intro hprefix
    exact h.1 ((List.prefix_append_right_inj w).1 hprefix)
  · intro hprefix
    exact h.2 ((List.prefix_append_right_inj w).1 hprefix)

end Apart

namespace IsSelfDelimiting

variable {code : α → List σ}

theorem injective (h : IsSelfDelimiting code) : Function.Injective code := by
  intro x y hxy
  exact (h.unique (congrArg (· ++ []) hxy)).1

/-- A symbol that no value is written with ends each value. -/
theorem of_terminator {stop : σ} (hcode : Function.Injective code) (hstop : ∀ x, stop ∉ code x) :
    IsSelfDelimiting fun x => code x ++ [stop] where
  ne_nil x := by simp
  unique {x y s t} h := by
    have hcons : code x ++ stop :: s = code y ++ stop :: t := by simpa using h
    rcases append_cons_inj_of_not_mem (hstop x) (hstop y) hcons with ⟨hxy, hst⟩
    exact ⟨hcode hxy, hst⟩

/-- Values none of which is written as the start of another need nothing to end them. -/
theorem of_prefixFree (hne : ∀ x, code x ≠ []) (hfree : ∀ x y, code x <+: code y → x = y) :
    IsSelfDelimiting code where
  ne_nil := hne
  unique {x y s t} h := by
    have hx : code x <+: code y ++ t := h ▸ List.prefix_append (code x) s
    have hxy : x = y := by
      rcases List.prefix_or_prefix_of_prefix hx (List.prefix_append _ t) with hfirst | hsecond
      · exact hfree x y hfirst
      · exact (hfree y x hsecond).symm
    subst hxy
    exact ⟨rfl, List.append_cancel_left h⟩

theorem prepend (h : IsSelfDelimiting code) (u : List σ) :
    IsSelfDelimiting fun x => u ++ code x where
  ne_nil x := by simp [h.ne_nil x]
  unique {x y s t} heq := h.unique (by simpa using heq)

theorem postpend (h : IsSelfDelimiting code) (u : List σ) :
    IsSelfDelimiting fun x => code x ++ u where
  ne_nil x := by simp [h.ne_nil x]
  unique {x y s t} heq := by
    have hvalue : code x ++ (u ++ s) = code y ++ (u ++ t) := by simpa using heq
    rcases h.unique hvalue with ⟨rfl, hrest⟩
    exact ⟨rfl, List.append_cancel_left hrest⟩

/-- In place of a value, one that determines it may be written. -/
theorem comp (h : IsSelfDelimiting code) {f : β → α} (hf : Function.Injective f) :
    IsSelfDelimiting fun y => code (f y) where
  ne_nil y := h.ne_nil (f y)
  unique {x y s t} heq := by
    rcases h.unique heq with ⟨hxy, hst⟩
    exact ⟨hf hxy, hst⟩

/-- Two values, one after the other. -/
theorem pair {code' : β → List σ} (h : IsSelfDelimiting code) (h' : IsSelfDelimiting code') :
    IsSelfDelimiting fun p : α × β => code p.1 ++ code' p.2 where
  ne_nil p := by simp [h.ne_nil p.1]
  unique {p q s t} heq := by
    have hfirst : code p.1 ++ (code' p.2 ++ s) = code q.1 ++ (code' q.2 ++ t) := by
      simpa using heq
    rcases h.unique hfirst with ⟨hone, hsecond⟩
    rcases h'.unique hsecond with ⟨htwo, hst⟩
    exact ⟨Prod.ext hone htwo, hst⟩

/-- A value of which there is only one. -/
theorem of_unit {u : List σ} (hne : u ≠ []) : IsSelfDelimiting fun _ : Unit => u where
  ne_nil _ := hne
  unique h := ⟨rfl, List.append_cancel_left h⟩

/-- Values that are made in one of two ways, if that can be told from how they are written. -/
theorem either {code : γ → List σ} {f : α → γ} {g : β → γ}
    (hcover : ∀ z, (∃ x, z = f x) ∨ ∃ y, z = g y) (hf : IsSelfDelimiting fun x => code (f x))
    (hg : IsSelfDelimiting fun y => code (g y)) (hapart : ∀ x y, Apart (code (f x)) (code (g y))) :
    IsSelfDelimiting code where
  ne_nil z := by
    rcases hcover z with ⟨x, rfl⟩ | ⟨y, rfl⟩
    · exact hf.ne_nil x
    · exact hg.ne_nil y
  unique {z z' s t} h := by
    rcases hcover z with ⟨x, rfl⟩ | ⟨y, rfl⟩
    · rcases hcover z' with ⟨x', rfl⟩ | ⟨y', rfl⟩
      · rcases hf.unique h with ⟨rfl, hst⟩
        exact ⟨rfl, hst⟩
      · exact absurd h ((hapart x y').append_ne s t)
    · rcases hcover z' with ⟨x', rfl⟩ | ⟨y', rfl⟩
      · exact absurd h.symm ((hapart x' y).append_ne t s)
      · rcases hg.unique h with ⟨rfl, hst⟩
        exact ⟨rfl, hst⟩

/-! ## Sequences -/

theorem apart_cons (h : IsSelfDelimiting code) {stop : σ} {x : α}
    (hstop : (code x).head? ≠ some stop) (more : List σ) : Apart (code x) (stop :: more) := by
  rcases List.exists_cons_of_ne_nil (h.ne_nil x) with ⟨c, rest, hx⟩
  rw [hx] at hstop ⊢
  have hne : c ≠ stop := fun hc => hstop (congrArg some hc)
  constructor
  · intro hprefix
    exact hne (List.cons_prefix_cons.1 hprefix).1
  · intro hprefix
    exact hne (List.cons_prefix_cons.1 hprefix).1.symm

/-- A sequence of values is ended by what is apart from every value. -/
theorem sequenceUntil (h : IsSelfDelimiting code) {stop : List σ} (hne : stop ≠ [])
    (hstop : ∀ x, Apart (code x) stop) :
    IsSelfDelimiting fun xs : List α => xs.flatMap code ++ stop where
  ne_nil xs := by simp [hne]
  unique {xs ys s t} heq := by
    induction xs generalizing ys with
    | nil =>
      cases ys with
      | nil => exact ⟨rfl, List.append_cancel_left heq⟩
      | cons y ys => exact absurd (by simpa using heq.symm) ((hstop y).append_ne _ _)
    | cons x xs ih =>
      cases ys with
      | nil => exact absurd (by simpa using heq) ((hstop x).append_ne _ _)
      | cons y ys =>
        have hfirst : code x ++ (xs.flatMap code ++ stop ++ s) =
            code y ++ (ys.flatMap code ++ stop ++ t) := by simpa using heq
        rcases h.unique hfirst with ⟨rfl, hrest⟩
        rcases ih hrest with ⟨rfl, hst⟩
        exact ⟨rfl, hst⟩

/-- A sequence of values is ended by what begins with a symbol that no value begins with. -/
theorem sequence (h : IsSelfDelimiting code) {stop : σ} (hstop : ∀ x, (code x).head? ≠ some stop)
    (more : List σ) : IsSelfDelimiting fun xs : List α => xs.flatMap code ++ stop :: more :=
  h.sequenceUntil (List.cons_ne_nil stop more) fun x => h.apart_cons (hstop x) more

/-- A whole text is at most one sequence of values. -/
theorem flatMap_injective (h : IsSelfDelimiting code) :
    Function.Injective fun xs : List α => xs.flatMap code := by
  intro xs ys heq
  induction xs generalizing ys with
  | nil =>
    cases ys with
    | nil => rfl
    | cons y ys => simp [h.ne_nil y] at heq
  | cons x xs ih =>
    cases ys with
    | nil => simp [h.ne_nil x] at heq
    | cons y ys =>
      have hfirst : code x ++ xs.flatMap code = code y ++ ys.flatMap code := by simpa using heq
      rcases h.unique hfirst with ⟨rfl, hrest⟩
      exact congrArg (x :: ·) (ih hrest)

end IsSelfDelimiting

end Lexis
