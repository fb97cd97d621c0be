import Lexis.Proofs.Text.Quoted
import Lexis.Proofs.Text.SelfDelimiting

/-!
# Escape — quoted text can be read back

How a character is written between double quotes is a self-delimiting code, whichever characters
are written by number, and the closing quote ends a quoted text.

* A numeral determines its number (`valueOf_hexadecimal`), so the code is self-delimiting
  (`isSelfDelimiting_escapeWith`), and so is quoted text (`isSelfDelimiting_quotedWith`).
* No line feed is written (`lineFeed_not_mem_quotedWith`).
-/

namespace Lexis

namespace Text

/-! ## Numerals -/

/-- The number that a hexadecimal digit stands for. -/
def digitValue (c : Char) : Nat :=
  (List.range 16).findIdx (Nat.digitChar · == c)

/-- The number of a hexadecimal numeral. -/
def valueOf (s : Text) : Nat :=
  s.foldl (fun n c => 16 * n + digitValue c) 0

theorem digitValue_digitChar : ∀ d < 16, digitValue (Nat.digitChar d) = d := by
  decide

@[simp] theorem valueOf_append_singleton (s : Text) (c : Char) :
    valueOf (s ++ [c]) = 16 * valueOf s + digitValue c := by
  simp [valueOf]

theorem valueOf_hexadecimal (n : Nat) : valueOf (hexadecimal n) = n := by
  induction n using Nat.strongRecOn with
  | ind n ih =>
    by_cases hn : n < 16
    · have hdigit : hexadecimal n = [] ++ [Nat.digitChar n] := Nat.toDigits_of_lt_base hn
      rw [hdigit, valueOf_append_singleton, digitValue_digitChar n hn]
      exact Nat.zero_add n
    · -- the last digit is the remainder, those before it are the numeral of the quotient
      have hle : 16 ≤ n := Nat.le_of_not_lt hn
      have hdigits : hexadecimal n = hexadecimal (n / 16) ++ [Nat.digitChar (n % 16)] :=
        Nat.toDigits_of_base_le (by decide) hle
      have hquotient : n / 16 < n := Nat.div_lt_self (by omega) (by decide)
      rw [hdigits, valueOf_append_singleton, ih _ hquotient,
        digitValue_digitChar _ (Nat.mod_lt n (by decide))]
      exact Nat.div_add_mod n 16

theorem hexadecimal_injective : Function.Injective hexadecimal :=
  Function.LeftInverse.injective valueOf_hexadecimal

/-! ## Reading back -/

section Table

variable (table : Char → Bool)

theorem isSelfDelimiting_numbered : IsSelfDelimiting numbered := by
  have hinjective : Function.Injective fun c : Char => hexadecimal c.toNat :=
    fun _ _ h => Char.toNat_inj.1 (hexadecimal_injective h)
  have hbrace : ∀ c : Char, '\x7d' ∉ hexadecimal c.toNat :=
    fun c => not_mem_hexadecimal (by decide) c.toNat
  exact (IsSelfDelimiting.of_terminator hinjective hbrace).prepend _

/-- How a character is written can be told from what follows it. -/
theorem isSelfDelimiting_escapeWith : IsSelfDelimiting (escapeWith table '"') where
  ne_nil c := by
    rcases escapeWith_cases table '"' c with ⟨mark, -, hc⟩ | ⟨-, hc⟩ | ⟨-, -, -, hc⟩ <;>
      simp [hc, numbered]
  unique {c d s t} h := by
    have hcases := escapeWith_cases table '"'
    have hmarks : ∀ p ∈ marks '"', p.2 ≠ 'u' ∧ ∀ q ∈ marks '"', p.2 = q.2 → p.1 = q.1 := by decide
    -- the first character tells what is written as itself, the second tells marks from numbers
    rcases hcases c with ⟨m, hm, hc⟩ | ⟨-, hc⟩ | ⟨hplain, -, -, hc⟩
    · rcases hcases d with ⟨n, hn, hd⟩ | ⟨-, hd⟩ | ⟨hplain, -, -, hd⟩ <;> rw [hc, hd] at h
      · have htail : m :: s = n :: t := List.tail_eq_of_cons_eq h
        have hmark : m = n := List.head_eq_of_cons_eq htail
        exact ⟨(hmarks _ hm).2 _ hn hmark, List.tail_eq_of_cons_eq htail⟩
      · exact absurd (List.head_eq_of_cons_eq (List.tail_eq_of_cons_eq h)) (hmarks _ hm).1
      · exact absurd (List.head_eq_of_cons_eq h).symm hplain
    · rcases hcases d with ⟨n, hn, hd⟩ | ⟨-, hd⟩ | ⟨hplain, -, -, hd⟩ <;> rw [hc, hd] at h
      · exact absurd (List.head_eq_of_cons_eq (List.tail_eq_of_cons_eq h)).symm (hmarks _ hn).1
      · exact isSelfDelimiting_numbered.unique h
      · exact absurd (List.head_eq_of_cons_eq h).symm hplain
    · rcases hcases d with ⟨n, hn, hd⟩ | ⟨-, hd⟩ | ⟨-, -, -, hd⟩ <;> rw [hc, hd] at h
      · exact absurd (List.head_eq_of_cons_eq h) hplain
      · exact absurd (List.head_eq_of_cons_eq h) hplain
      · exact ⟨List.head_eq_of_cons_eq h, List.tail_eq_of_cons_eq h⟩

theorem head?_escapeWith_ne_quote (c : Char) : (escapeWith table '"' c).head? ≠ some '"' := by
  rcases escapeWith_cases table '"' c with ⟨mark, -, hc⟩ | ⟨-, hc⟩ | ⟨-, hquote, -, hc⟩
  · simp [hc]
  · simp [hc, numbered]
  · simp [hc, hquote]

/-- A quoted text ends at its closing quote. -/
theorem isSelfDelimiting_quotedWith : IsSelfDelimiting (quotedWith table) :=
  ((isSelfDelimiting_escapeWith table).sequence (head?_escapeWith_ne_quote table) []).prepend ['"']

/-! ## Line feeds -/

theorem lineFeed_not_mem_escapeWith (c : Char) : '\n' ∉ escapeWith table '"' c := by
  rcases escapeWith_cases table '"' c with ⟨mark, hmark, hc⟩ | ⟨-, hc⟩ | ⟨-, -, hline, hc⟩
  · have hmarks : ∀ p ∈ marks '"', '\n' ≠ p.2 := by decide
    simpa [hc] using hmarks (c, mark) hmark
  · have hdigits : '\n' ∉ hexadecimal c.toNat := not_mem_hexadecimal (by decide) _
    simp [hc, numbered, hdigits]
  · simpa [hc] using hline.symm

theorem lineFeed_not_mem_quotedWith (s : Text) : '\n' ∉ quotedWith table s := by
  simp [quotedWith, quotedByWith, lineFeed_not_mem_escapeWith]

end Table

/-! ## The table of the library -/

theorem isSelfDelimiting_quoted : IsSelfDelimiting quoted :=
  isSelfDelimiting_quotedWith isEscaped

end Text

end Lexis
