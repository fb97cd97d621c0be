import Mathlib.Data.List.TakeWhile
import Lexis.Text.Basic

/-!
# Trim — what trimming removes

* The characters that `dropEndWhile` removes are all of its class
  (`exists_eq_dropEndWhile_append`), and trimming does not notice if some of the characters it would
  remove at the end have gone before (`trim_dropEndWhile`).
* `IsPadded p core s` says that a text is `core` with characters of `p` around it.  Every text is
  its trimmed text with padding (`isPadded_trim`), and a core with nothing to trim is what is left of
  the padded texts, and of no others (`trim_eq_iff`).
-/

namespace Lexis

namespace Text

variable {p q : Char → Bool}

theorem exists_eq_dropEndWhile_append (p : Char → Bool) (s : Text) :
    ∃ tail, s = dropEndWhile p s ++ tail ∧ ∀ c ∈ tail, p c = true := by
  refine ⟨(s.reverse.takeWhile p).reverse, ?_, ?_⟩
  · calc
      s = (s.reverse.takeWhile p ++ s.reverse.dropWhile p).reverse := by
            simp [List.takeWhile_append_dropWhile, List.reverse_reverse]
      _ = dropEndWhile p s ++ (s.reverse.takeWhile p).reverse := List.reverse_append
  · intro c hc
    exact List.mem_takeWhile_imp (List.mem_reverse.1 hc)

theorem dropEndWhile_append {tail : Text} (h : ∀ c ∈ tail, p c = true) (s : Text) :
    dropEndWhile p (s ++ tail) = dropEndWhile p s := by
  have hreverse : ∀ c ∈ tail.reverse, p c = true := by
    intro c hc
    exact h c (List.mem_reverse.1 hc)
  simp [dropEndWhile, List.dropWhile_append_of_pos hreverse]

theorem trim_append {tail : Text} (h : ∀ c ∈ tail, p c = true) (s : Text) :
    trim p (s ++ tail) = trim p s := by
  rw [trim, trim, List.dropWhile_append]
  -- if the text is trimmed away from its start, so is the tail
  by_cases hs : s.dropWhile p = []
  · have htail : tail.dropWhile p = [] := List.dropWhile_eq_nil_iff.2 h
    simp [hs, htail]
  · simp [hs, dropEndWhile_append h]

theorem trim_lead_append {lead : Text} (h : ∀ c ∈ lead, p c = true) (s : Text) :
    trim p (lead ++ s) = trim p s := by
  simp [trim, List.dropWhile_append_of_pos h]

/-- What is removed at the end before trimming would have been trimmed. -/
theorem trim_dropEndWhile (h : ∀ c, q c = true → p c = true) (s : Text) :
    trim p (dropEndWhile q s) = trim p s := by
  rcases exists_eq_dropEndWhile_append q s with ⟨tail, hs, htail⟩
  have hremoved : ∀ c ∈ tail, p c = true := by
    intro c hc
    exact h c (htail c hc)
  calc
    trim p (dropEndWhile q s) = trim p (dropEndWhile q s ++ tail) := (trim_append hremoved _).symm
    _ = trim p s := by rw [← hs]

/-! ## Padded texts -/

/-- The text is `core` with characters of `p` before and behind it. -/
def IsPadded (p : Char → Bool) (core s : Text) : Prop :=
  ∃ lead tail, (∀ c ∈ lead, p c = true) ∧ (∀ c ∈ tail, p c = true) ∧ s = lead ++ core ++ tail

/-- Only padding is trimmed. -/
theorem isPadded_trim (p : Char → Bool) (s : Text) : IsPadded p (trim p s) s := by
  rcases exists_eq_dropEndWhile_append p (s.dropWhile p) with ⟨tail, heq, htail⟩
  refine ⟨s.takeWhile p, tail, fun c hc => List.mem_takeWhile_imp hc, htail, ?_⟩
  calc
    s = s.takeWhile p ++ s.dropWhile p := List.takeWhile_append_dropWhile.symm
    _ = s.takeWhile p ++ (trim p s ++ tail) := congrArg (s.takeWhile p ++ ·) heq
    _ = s.takeWhile p ++ trim p s ++ tail := by simp

/-- Padding is trimmed. -/
theorem IsPadded.trim_eq {core s : Text} (h : IsPadded p core s) : trim p s = trim p core := by
  rcases h with ⟨lead, tail, hlead, htail, rfl⟩
  rw [trim_append htail, trim_lead_append hlead]

section Core

variable {core : Text} (hfirst : ∀ c ∈ core.head?, p c = false)
  (hlast : ∀ c ∈ core.getLast?, p c = false)

include hfirst hlast

/-- Nothing is trimmed of a text that neither begins nor ends in the class. -/
theorem trim_eq_self : trim p core = core := by
  have hdrop : ∀ s : Text, (∀ c ∈ s.head?, p c = false) → s.dropWhile p = s := by
    intro s hs
    cases s with
    | nil => rfl
    | cons c rest => simp [hs c rfl]
  have hreverse : ∀ c ∈ core.reverse.head?, p c = false := by
    simpa using hlast
  simp [trim, dropEndWhile, hdrop core hfirst, hdrop core.reverse hreverse]

/-- Such a text is what is left of the texts that it is padded to. -/
theorem trim_eq_iff {s : Text} : trim p s = core ↔ IsPadded p core s := by
  constructor
  · rintro rfl
    exact isPadded_trim p s
  · intro hpadded
    exact hpadded.trim_eq.trans (trim_eq_self hfirst hlast)

end Core

end Text

end Lexis
