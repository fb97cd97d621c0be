import Lexis.Token.Alphabet
import Lexis.Token.Basic

/-!
# First — the token that a text begins with

`Token.first` reads the longest token at the head of a text: a run of letters, a run of digits, two
symbols that belong together, or a single character.  It skips nothing; whoever calls it has passed
the spaces.  The end of input is read from the empty text only, and every other token has a literal.
-/

namespace Lexis

namespace Token

def word (letters : Text) : Token :=
  ⟨.ofWord letters, letters⟩

/-- The token of a symbol, given what follows: two characters where they are read as one operator,
else the symbol alone. -/
def symbol (c : Char) : Text → Token
  | [] => ⟨.ofSymbol c, [c]⟩
  | d :: _ =>
    match Kind.ofPair? c d with
    | some kind => ⟨kind, [c, d]⟩
    | none => ⟨.ofSymbol c, [c]⟩

/-- The token that a text begins with. -/
def first : Text → Token
  | [] => endOfInput
  | c :: rest =>
    if isLetter c then word (c :: rest.takeWhile isLetter)
    else if isDigit c then ⟨.integer, c :: rest.takeWhile isDigit⟩
    else symbol c rest

/-! ## The end is read from the empty text only -/

theorem symbol_literal_ne_nil (c : Char) (rest : Text) : (symbol c rest).literal ≠ [] := by
  cases rest with
  | nil => simp [symbol]
  | cons d _ => cases h : Kind.ofPair? c d <;> simp [symbol, h]

theorem symbol_kind_ne_endOfInput (c : Char) (rest : Text) :
    (symbol c rest).kind ≠ .endOfInput := by
  cases rest with
  | nil => exact Kind.ofSymbol_ne_endOfInput c
  | cons d _ =>
    cases h : Kind.ofPair? c d with
    | none => simpa [symbol, h] using Kind.ofSymbol_ne_endOfInput c
    | some kind =>
      have hne := Kind.ofPair?_ne_endOfInput c d
      rw [h] at hne
      simpa [symbol, h] using hne

theorem first_literal_ne_nil (c : Char) (rest : Text) : (first (c :: rest)).literal ≠ [] := by
  simp only [first]
  split
  · simp [word]
  · split
    · simp
    · exact symbol_literal_ne_nil c rest

theorem first_kind_ne_endOfInput (c : Char) (rest : Text) :
    (first (c :: rest)).kind ≠ .endOfInput := by
  simp only [first]
  split
  · exact Kind.ofWord_ne_endOfInput _
  · split
    · simp
    · exact symbol_kind_ne_endOfInput c rest

theorem first_isEndOfInput_iff (s : Text) : (first s).isEndOfInput = true ↔ s = [] := by
  cases s with
  | nil => simp [first, isEndOfInput, endOfInput]
  | cons c rest => simp [isEndOfInput, first_kind_ne_endOfInput c rest]

end Token

end Lexis
