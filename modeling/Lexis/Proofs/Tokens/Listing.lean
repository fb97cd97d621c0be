import Lexis.Proofs.Text.Escape
import Lexis.Proofs.Text.Utf8
import Lexis.Proofs.Token.Lexeme

/-!
# Listing — printed tokens can be read back

A printed token is a kind, which holds no parenthesis, and a quoted literal, so it can be told from
what follows it; it holds no line feed, whatever its literal holds.  This is so for any table of the
characters that are written by number.

* A printed token determines the token (`isSelfDelimiting_displayWith`).
* A listing, one token a line, determines the tokens (`listingWith_injective`).
-/

namespace Lexis

/-! ## Kinds -/

theorem Kind.ofName?_name (k : Kind) : ofName? k.name = some k := by
  cases k <;> decide

theorem Kind.name_injective : Function.Injective name := by
  intro k l h
  have hname := congrArg ofName? h
  simpa [ofName?_name] using hname

/-- The name of a kind is a word. -/
theorem Kind.isRun_name (k : Kind) : IsRun isLetter k.name := by
  have hall : ∀ k ∈ Kind.all, k.name ≠ [] ∧ k.name.all isLetter = true := by decide
  rcases hall k k.mem_all with ⟨hne, hletters⟩
  exact ⟨hne, List.all_eq_true.1 hletters⟩

theorem Kind.not_mem_name {c : Char} (hc : isLetter c = false) (k : Kind) : c ∉ k.name := by
  intro hmem
  simp [k.isRun_name.2 c hmem] at hc

namespace Token

/-! ## Tokens -/

variable (table : Char → Bool)

/-- A printed token can be told from what follows it. -/
theorem isSelfDelimiting_displayWith : IsSelfDelimiting (displayWith table) := by
  have hkind : IsSelfDelimiting fun k : Kind => k.name ++ ['('] :=
    .of_terminator Kind.name_injective (Kind.not_mem_name (by decide))
  have hliteral : IsSelfDelimiting fun s => Text.quotedWith table s ++ [')'] :=
    (Text.isSelfDelimiting_quotedWith table).postpend [')']
  have hfields : Function.Injective fun t : Token => (t.kind, t.literal) := by
    rintro ⟨k, s⟩ ⟨l, u⟩ h
    simpa using h
  exact (hkind.pair hliteral).comp hfields

theorem display_injective : Function.Injective display :=
  (isSelfDelimiting_displayWith Text.isEscaped).injective

theorem lineFeed_not_mem_displayWith (t : Token) : '\n' ∉ displayWith table t := by
  have hname : '\n' ∉ t.kind.name := Kind.not_mem_name (by decide) t.kind
  simp [displayWith, hname, Text.lineFeed_not_mem_quotedWith]

end Token

/-! ## Listings -/

variable (table : Char → Bool)

/-- A line of a listing can be told from what follows it. -/
theorem isSelfDelimiting_line :
    IsSelfDelimiting fun t : Token => Text.line (t.displayWith table) :=
  (Token.isSelfDelimiting_displayWith table).postpend ['\n']

/-- A line of a listing begins with a letter. -/
theorem head?_line_ne {c : Char} (hc : isLetter c = false) (t : Token) :
    (Text.line (t.displayWith table)).head? ≠ some c := by
  rcases t.kind.isRun_name with ⟨hne, hletters⟩
  rcases List.exists_cons_of_ne_nil hne with ⟨d, rest, hname⟩
  have hd : isLetter d = true := hletters d (by simp [hname])
  have hdc : d ≠ c := by
    rintro rfl
    simp [hd] at hc
  simp [Text.line, Token.displayWith, hname, hdc]

/-- A listing determines its tokens. -/
theorem listingWith_injective : Function.Injective (listingWith table) :=
  (isSelfDelimiting_line table).flatMap_injective

end Lexis
