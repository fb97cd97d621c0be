import Mathlib.Data.List.Forall2
import Lexis.Proofs.Tokens.Strict

/-!
# Foreign — the characters outside the language, and the tokens that stand for them

A text is cut at its foreign characters into parts without any, and each of them is an illegal token
between the tokens of the parts.  Both statements below are by induction over these cuts
(`inductionOnForeign`).

* The illegal tokens of a text are its foreign characters, in order (`literals_illegal_tokens`).
* What the foreign characters are has no influence on any other token: texts that differ in them
  only have tokens that differ in the literals of the illegal ones only (`forall₂_tokens`).
-/

namespace Lexis

/-- By induction over the foreign characters of a text: of a text without any, and of such a text
before a foreign character and a rest. -/
@[elab_as_elim]
theorem inductionOnForeign {P : Text → Prop}
    (clean : ∀ s, (∀ c ∈ s, isForeign c = false) → P s)
    (foreign : ∀ before c rest, (∀ d ∈ before, isForeign d = false) → isForeign c = true →
      P rest → P (before ++ c :: rest)) (s : Text) : P s := by
  cases hfind : s.find? isForeign with
  | none => exact clean s (by simpa using List.find?_eq_none.1 hfind)
  | some c =>
    rcases List.find?_eq_some_iff_append.1 hfind with ⟨hc, before, rest, rfl, hbefore⟩
    have hrest := inductionOnForeign clean foreign rest
    exact foreign before c rest (by simpa using hbefore) hc hrest
termination_by s.length

/-! ## The illegal tokens of a text -/

theorem literals_illegal_tokens (s : Text) :
    ((tokens s).filter Token.isIllegal).map Token.literal =
      (s.filter isForeign).map fun c => [c] := by
  induction s using inductionOnForeign with
  | clean s hs =>
    have hlegal : (tokens s).filter Token.isIllegal = [] := by
      simpa using isIllegal_eq_false_of_alphabet hs
    have hforeign : s.filter isForeign = [] := by simpa using hs
    simp [hlegal, hforeign]
  | foreign before c rest hbefore hc ih =>
    have hlegal : (tokens before).dropLast.filter Token.isIllegal = [] := by
      simpa using (reads_tokens before).isIllegal_eq_false hbefore
    have hforeign : before.filter isForeign = [] := by simpa using hbefore
    have hillegal : (Token.foreign c).isIllegal = true ∧ (Token.foreign c).literal = [c] :=
      ⟨rfl, rfl⟩
    simp [tokens_append_foreign hc, hlegal, hforeign, hillegal, hc, ih]

/-! ## Texts that differ in foreign characters only -/

/-- The same character, or two foreign ones. -/
def SameUnlessForeign (c d : Char) : Prop :=
  c = d ∨ (isForeign c = true ∧ isForeign d = true)

/-- Tokens of one kind, and of one literal unless they are illegal. -/
def Token.SameUnlessIllegal (t u : Token) : Prop :=
  t.kind = u.kind ∧ (t.isIllegal = false → t.literal = u.literal)

theorem forall₂_sameUnlessIllegal_refl (ts : List Token) :
    List.Forall₂ Token.SameUnlessIllegal ts ts :=
  List.forall₂_same.2 fun _ _ => ⟨rfl, fun _ => rfl⟩

/-- Without foreign characters there is nothing to differ in. -/
theorem eq_of_forall₂_sameUnlessForeign {s s' : Text} (h : List.Forall₂ SameUnlessForeign s s')
    (hs : ∀ c ∈ s, isForeign c = false) : s = s' := by
  induction h with
  | nil => rfl
  | cons hsame _ ih =>
    rw [List.forall_mem_cons] at hs
    rcases hsame with rfl | ⟨hforeign, -⟩
    · simpa using ih hs.2
    · simp [hs.1] at hforeign

/-- A text like one that is cut at a foreign character is cut at a foreign character too, behind the
same beginning. -/
theorem exists_of_forall₂_append_foreign {before rest s' : Text} {c : Char}
    (h : List.Forall₂ SameUnlessForeign (before ++ c :: rest) s')
    (hbefore : ∀ d ∈ before, isForeign d = false) (hc : isForeign c = true) :
    ∃ c' rest', s' = before ++ c' :: rest' ∧ isForeign c' = true ∧
      List.Forall₂ SameUnlessForeign rest rest' := by
  have htake : List.Forall₂ SameUnlessForeign before (s'.take before.length) := by
    simpa using List.forall₂_take before.length h
  have hdrop : List.Forall₂ SameUnlessForeign (c :: rest) (s'.drop before.length) := by
    simpa using List.forall₂_drop before.length h
  rcases List.forall₂_cons_left_iff.1 hdrop with ⟨c', rest', hsame, hrest, heq⟩
  refine ⟨c', rest', ?_, ?_, hrest⟩
  · calc
      s' = s'.take before.length ++ s'.drop before.length := (List.take_append_drop _ _).symm
      _ = before ++ c' :: rest' := by
            rw [← eq_of_forall₂_sameUnlessForeign htake hbefore, heq]
  · rcases hsame with rfl | ⟨-, hforeign⟩
    · exact hc
    · exact hforeign

theorem forall₂_tokens {s s' : Text} (h : List.Forall₂ SameUnlessForeign s s') :
    List.Forall₂ Token.SameUnlessIllegal (tokens s) (tokens s') := by
  induction s using inductionOnForeign generalizing s' with
  | clean s hs =>
    obtain rfl := eq_of_forall₂_sameUnlessForeign h hs
    exact forall₂_sameUnlessIllegal_refl (tokens s)
  | foreign before c rest hbefore hc ih =>
    rcases exists_of_forall₂_append_foreign h hbefore hc with ⟨c', rest', rfl, hc', hrest⟩
    have hboth : (Token.foreign c).SameUnlessIllegal (Token.foreign c') :=
      ⟨rfl, fun hlegal => by simp [Token.foreign, Token.isIllegal] at hlegal⟩
    simpa [tokens_append_foreign hc, tokens_append_foreign hc'] using
      List.rel_append (forall₂_sameUnlessIllegal_refl (tokens before).dropLast)
        (List.Forall₂.cons hboth (ih hrest))

/-- The illegal tokens of a text are its foreign characters, each by itself and all in order.  A text
that differs from it in foreign characters only has as many tokens, of the same kinds, and they
differ in the literals of illegal tokens only. -/
theorem illegal_tokens_are_foreign_characters (s : Text) :
    ((tokens s).filter Token.isIllegal).map Token.literal =
        (s.filter isForeign).map (fun c => [c]) ∧
      ∀ s', List.Forall₂ SameUnlessForeign s s' →
        List.Forall₂ Token.SameUnlessIllegal (tokens s) (tokens s') := by
  constructor
  · exact literals_illegal_tokens s
  · intro s' hsame
    exact forall₂_tokens hsame

end Lexis
