import Mathlib.Data.List.Chain
import Lexis.Proofs.Tokens.Reading

/-!
# Grammar — which texts have which tokens

A layout writes a text as lexemes with gaps of spaces before, between and after them.  Two lexemes
may stand side by side, without a gap, unless they would be read as one: two words, two integers, or
`=` or `!` before an equals sign.

A text has the tokens of its layout, and every text has a layout (`tokens_eq_iff_layout`): the
grammar is sound, complete and unambiguous.
-/

namespace Lexis

/-- Whether two tokens would be read as one if they stood side by side. -/
def Token.Merges (t u : Token) : Prop :=
  (IsRun isLetter t.literal ∧ IsRun isLetter u.literal) ∨
    (t.kind = .integer ∧ u.kind = .integer) ∨
      ((t.kind = .assign ∨ t.kind = .bang) ∧ u.literal.head? = some '=')

/-- A text is laid out as a gap and tokens, each with the gap after it. -/
structure IsLayout (gap : Text) (pieces : List (Token × Text)) (s : Text) : Prop where
  text_eq : s = gap ++ pieces.flatMap fun (t, after) => t.literal ++ after
  gap_spaces : IsGap gap
  after_spaces : ∀ piece ∈ pieces, IsGap piece.2
  lexemes : ∀ piece ∈ pieces, Lexeme piece.1.kind piece.1.literal
  separated : pieces.IsChain fun piece next => piece.2 = [] → ¬ piece.1.Merges next.1

/-! ## Merging is extending by the first character -/

theorem Token.merges_iff {t u : Token} (hu : Lexeme u.kind u.literal) :
    t.Merges u ↔ ∃ c ∈ u.literal.head?, t.ExtendedBy c := by
  obtain ⟨k, s⟩ := u
  cases s with
  | nil => exact absurd rfl hu.ne_nil
  | cons c s =>
    dsimp only at hu
    have hc : c ∈ c :: s := List.mem_cons_self
    simp [Merges, ExtendedBy, hu.isRun_isLetter_iff hc, hu.kind_eq_integer_iff hc]

/-! ## Layouts are readings -/

namespace IsLayout

/-- The characters that a layout begins with, after its gap. -/
theorem head?_text {gap s : Text} {pieces : List (Token × Text)} (h : IsLayout gap pieces s) :
    s.head? = gap.head?.or (pieces.head?.bind fun piece => piece.1.literal.head?) := by
  rw [h.text_eq, List.head?_append]
  cases pieces with
  | nil => rfl
  | cons piece pieces =>
    have hne := (h.lexemes piece (by simp)).ne_nil
    simp [List.head?_append_of_ne_nil _ hne]

/-- What follows a token and its gap is laid out as well. -/
theorem tail {gap after s : Text} {t : Token} {pieces : List (Token × Text)}
    (h : IsLayout gap ((t, after) :: pieces) s) :
    ∃ rest, s = gap ++ (t.literal ++ rest) ∧ IsLayout after pieces rest := by
  refine ⟨after ++ pieces.flatMap fun (t, after) => t.literal ++ after, ?_, ?_⟩
  · rw [h.text_eq]
    simp
  · exact {
      text_eq := rfl
      gap_spaces := h.after_spaces (t, after) (by simp)
      after_spaces := fun piece hpiece => h.after_spaces piece (List.mem_cons_of_mem _ hpiece)
      lexemes := fun piece hpiece => h.lexemes piece (List.mem_cons_of_mem _ hpiece)
      separated := h.separated.tail }

/-- In front of a layout, a token keeps apart from it if it does not merge with the next one. -/
theorem forall_head?_iff {gap s : Text} {pieces : List (Token × Text)} (h : IsLayout gap pieces s)
    (t : Token) :
    (∀ c ∈ s.head?, ¬ t.ExtendedBy c) ↔
      (gap = [] → ∀ next ∈ pieces.head?, ¬ t.Merges next.1) := by
  rw [h.head?_text]
  -- the next character is a space of the gap, or the first one of the next token
  cases hgap : gap with
  | nil =>
    cases hpieces : pieces with
    | nil => simp
    | cons next more =>
      have hnext : Lexeme next.1.kind next.1.literal := h.lexemes next (by simp [hpieces])
      simp [Token.merges_iff hnext]
  | cons c more =>
    have hc : isSpace c = true := h.gap_spaces c (by simp [hgap])
    simp [t.not_extendedBy_space hc]

theorem reads {gap s : Text} {pieces : List (Token × Text)} (h : IsLayout gap pieces s) :
    Reads s (pieces.map (·.1)) := by
  -- the layout is taken apart from its first token on, and the rest is a layout with its own gap
  induction pieces generalizing gap s with
  | nil =>
    have hs : s = gap := by simpa using h.text_eq
    exact .gap (hs ▸ h.gap_spaces)
  | cons piece pieces ih =>
    obtain ⟨t, after⟩ := piece
    rcases h.tail with ⟨rest, rfl, hrest⟩
    have happart : ∀ c ∈ rest.head?, ¬ t.ExtendedBy c := by
      rw [hrest.forall_head?_iff]
      intro hafter next hnext
      exact (List.isChain_cons.1 h.separated).1 next hnext hafter
    exact .token h.gap_spaces (h.lexemes (t, after) (by simp)) happart (ih hrest)

end IsLayout

theorem Reads.exists_layout {s : Text} {ts : List Token} (h : Reads s ts) :
    ∃ gap pieces, IsLayout gap pieces s ∧ pieces.map (·.1) = ts := by
  induction h with
  | @gap s hgap =>
    refine ⟨s, [], ?_, rfl⟩
    exact {
      text_eq := by simp
      gap_spaces := hgap
      after_spaces := by simp
      lexemes := by simp
      separated := .nil }
  | @token gap rest t ts hgap ht hapart _ ih =>
    rcases ih with ⟨after, pieces, hrest, rfl⟩
    refine ⟨gap, (t, after) :: pieces, ?_, rfl⟩
    exact {
      text_eq := by simp [hrest.text_eq]
      gap_spaces := hgap
      after_spaces := List.forall_mem_cons.2 ⟨hrest.gap_spaces, hrest.after_spaces⟩
      lexemes := List.forall_mem_cons.2 ⟨ht, hrest.lexemes⟩
      separated := by
        rw [List.isChain_cons]
        refine ⟨fun next hnext hafter => ?_, hrest.separated⟩
        exact (hrest.forall_head?_iff t).1 hapart hafter next hnext }

/-! ## The grammar -/

/-- A token list is that of a text exactly if the text is laid out as its tokens before the end of
input. -/
theorem tokens_eq_iff_layout (s : Text) (ts : List Token) :
    tokens s = ts ↔
      ∃ gap pieces, IsLayout gap pieces s ∧ ts = pieces.map (·.1) ++ [Token.endOfInput] := by
  constructor
  · rintro rfl
    rcases (reads_tokens s).exists_layout with ⟨gap, pieces, hlayout, heq⟩
    refine ⟨gap, pieces, hlayout, ?_⟩
    simpa [heq] using (reads_tokens s).tokens_eq
  · rintro ⟨gap, pieces, hlayout, rfl⟩
    exact hlayout.reads.tokens_eq

end Lexis
