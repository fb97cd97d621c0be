import Lexis.Text.Quoted

/-!
# Quoted — how characters are written between quotes

Between quotes, a character is written in one of three ways (`escapeWith_cases`).  Quoting adds no
space: what is written for a character holds one exactly if the character is one
(`space_mem_escapeWith_iff`), and a quoted text holds one exactly if the text does
(`space_mem_quoted_iff`).
-/

namespace Lexis

namespace Text

/-! ## Numerals -/

/-- A numeral is made of the digits below its base. -/
theorem exists_digitChar_of_mem_toDigits {base : Nat} (hbase : 1 < base) {c : Char} (n : Nat) :
    c ∈ Nat.toDigits base n → ∃ d, d < base ∧ c = d.digitChar := by
  induction n using Nat.strongRecOn with
  | ind n ih =>
    intro hc
    by_cases hn : n < base
    · rw [Nat.toDigits_of_lt_base hn, List.mem_singleton] at hc
      exact ⟨n, hn, hc⟩
    · have hle : base ≤ n := Nat.le_of_not_lt hn
      have hquotient : n / base < n := Nat.div_lt_self (by omega) hbase
      rw [Nat.toDigits_of_base_le hbase hle, List.mem_append, List.mem_singleton] at hc
      rcases hc with hhigh | hlow
      · exact ih (n / base) hquotient hhigh
      · exact ⟨n % base, Nat.mod_lt n (by omega), hlow⟩

theorem not_mem_hexadecimal {c : Char} (hc : ∀ d < 16, c ≠ Nat.digitChar d) (n : Nat) :
    c ∉ hexadecimal n := by
  intro hmem
  rcases exists_digitChar_of_mem_toDigits (by decide) n hmem with ⟨d, hd, hchar⟩
  exact hc d hd hchar

theorem space_not_mem_hexadecimal (n : Nat) : ' ' ∉ hexadecimal n :=
  not_mem_hexadecimal (by decide) n

/-! ## How a character is written -/

section Escape

variable (table : Char → Bool) (quote c : Char)

theorem lookup_marks_eq_none_iff {quote c : Char} :
    (marks quote).lookup c = none ↔
      c ≠ '\x00' ∧ c ≠ '\t' ∧ c ≠ '\n' ∧ c ≠ '\r' ∧ c ≠ '\\' ∧ c ≠ quote := by
  simp [marks, List.lookup_eq_none_iff]

theorem mem_marks_of_lookup {quote c mark : Char} (h : (marks quote).lookup c = some mark) :
    (c, mark) ∈ marks quote := by
  rcases List.lookup_eq_some_iff.1 h with ⟨before, after, heq, -⟩
  simp [heq]

/-- A character is written as a backslash and its mark, by its number, or as itself. -/
theorem escapeWith_cases :
    (∃ mark, (c, mark) ∈ marks quote ∧ escapeWith table quote c = ['\\', mark]) ∨
      (table c = true ∧ escapeWith table quote c = numbered c) ∨
      (c ≠ '\\' ∧ c ≠ quote ∧ c ≠ '\n' ∧ escapeWith table quote c = [c]) := by
  unfold escapeWith
  split
  · next mark hmark => exact Or.inl ⟨mark, mem_marks_of_lookup hmark, rfl⟩
  · next hmark =>
    split
    · next htable => exact Or.inr (Or.inl ⟨htable, rfl⟩)
    · rcases lookup_marks_eq_none_iff.1 hmark with ⟨-, -, hline, -, hbackslash, hquote⟩
      exact Or.inr (Or.inr ⟨hbackslash, hquote, hline, rfl⟩)

end Escape

/-! ## Spaces -/

theorem space_mem_escapeWith_iff {table : Char → Bool} (htable : table ' ' = false) {quote : Char}
    (hquote : quote ≠ ' ') (c : Char) : ' ' ∈ escapeWith table quote c ↔ c = ' ' := by
  rcases escapeWith_cases table quote c with ⟨mark, hmark, hc⟩ | ⟨hin, hc⟩ | ⟨-, -, -, hc⟩
  · have hmarks : ∀ p ∈ marks quote, p.1 ≠ ' ' ∧ p.2 ≠ ' ' := by simp [marks, hquote]
    rcases hmarks (c, mark) hmark with ⟨hne, hmark'⟩
    simp [hc, hne, hmark'.symm]
  · have hne : c ≠ ' ' := by
      rintro rfl
      simp [htable] at hin
    simp [hc, numbered, space_not_mem_hexadecimal, hne]
  · simp [hc, eq_comm]

theorem space_mem_quoted_iff (s : Text) : ' ' ∈ quoted s ↔ ' ' ∈ s := by
  have htable : isEscaped ' ' = false := by decide
  simp [quoted, quotedWith, quotedByWith, space_mem_escapeWith_iff htable]

end Text

end Lexis
