import Lexis.Text.Basic

/-!
# Kind — the kinds of tokens

This module holds

* `Kind`, the twenty-seven kinds, with their names;
* the reserved words, each with its kind, and `Kind.ofWord`, the kind of a run of letters;
* `Kind.ofSymbol` and `Kind.ofPair?`, the kinds of one symbol and of two symbols read together.
-/

namespace Lexis

inductive Kind where
  | illegal
  | endOfInput
  | identifier
  | integer
  | assign
  | plus
  | minus
  | bang
  | asterisk
  | slash
  | lessThan
  | greaterThan
  | equal
  | notEqual
  | comma
  | semicolon
  | leftParen
  | rightParen
  | leftBrace
  | rightBrace
  | functionWord
  | letWord
  | trueWord
  | falseWord
  | ifWord
  | elseWord
  | returnWord
  deriving DecidableEq, Repr

namespace Kind

/-! ## Names -/

/-- All kinds: the one of a foreign character, the end, words and numbers, operators, delimiters
and reserved words. -/
def all : List Kind :=
  [illegal, endOfInput, identifier, integer, assign, plus, minus, bang, asterisk, slash, lessThan,
   greaterThan, equal, notEqual, comma, semicolon, leftParen, rightParen, leftBrace, rightBrace,
   functionWord, letWord, trueWord, falseWord, ifWord, elseWord, returnWord]

def name : Kind → Text
  | illegal => "Illegal".toList
  | endOfInput => "EndOfInput".toList
  | identifier => "Identifier".toList
  | integer => "Integer".toList
  | assign => "Assign".toList
  | plus => "Plus".toList
  | minus => "Minus".toList
  | bang => "Bang".toList
  | asterisk => "Asterisk".toList
  | slash => "Slash".toList
  | lessThan => "LessThan".toList
  | greaterThan => "GreaterThan".toList
  | equal => "Equal".toList
  | notEqual => "NotEqual".toList
  | comma => "Comma".toList
  | semicolon => "Semicolon".toList
  | leftParen => "LeftParen".toList
  | rightParen => "RightParen".toList
  | leftBrace => "LeftBrace".toList
  | rightBrace => "RightBrace".toList
  | functionWord => "Function".toList
  | letWord => "Let".toList
  | trueWord => "True".toList
  | falseWord => "False".toList
  | ifWord => "If".toList
  | elseWord => "Else".toList
  | returnWord => "Return".toList

theorem mem_all (k : Kind) : k ∈ all := by
  cases k <;> decide

def ofName? (s : Text) : Option Kind :=
  all.find? (·.name == s)

/-! ## Reserved words -/

/-- The reserved words in alphabetical order, each with its kind. -/
def reserved : List (Text × Kind) :=
  [("else".toList, elseWord),
   ("false".toList, falseWord),
   ("fn".toList, functionWord),
   ("if".toList, ifWord),
   ("let".toList, letWord),
   ("return".toList, returnWord),
   ("true".toList, trueWord)]

/-- The kind of a word: that of the reserved word, else an identifier. -/
def ofWord (word : Text) : Kind :=
  (reserved.lookup word).getD identifier

/-- Whether the kind is that of a reserved word. -/
def isKeyword (k : Kind) : Bool :=
  reserved.any fun (_, kind) => kind == k

/-! ## Symbols -/

/-- The kind of a symbol that stands alone; every other character is illegal. -/
def ofSymbol : Char → Kind
  | '=' => assign
  | '!' => bang
  | '+' => plus
  | '-' => minus
  | '*' => asterisk
  | '/' => slash
  | '<' => lessThan
  | '>' => greaterThan
  | ',' => comma
  | ';' => semicolon
  | '(' => leftParen
  | ')' => rightParen
  | '{' => leftBrace
  | '}' => rightBrace
  | _ => illegal

/-- The kind of two characters that are read as one operator. -/
def ofPair? : Char → Char → Option Kind
  | '=', '=' => some equal
  | '!', '=' => some notEqual
  | _, _ => none

/-! ## The end is no kind of a character -/

/-- The kind of a word is that of an identifier, or stands with the word in the table. -/
theorem ofWord_eq_or_mem (word : Text) :
    ofWord word = identifier ∨ (word, ofWord word) ∈ reserved := by
  unfold ofWord
  cases h : reserved.lookup word with
  | none => exact Or.inl rfl
  | some kind =>
    obtain ⟨before, after, heq, _⟩ := List.lookup_eq_some_iff.1 h
    exact Or.inr (by simp [heq])

theorem endOfInput_not_reserved (word : Text) : (word, endOfInput) ∉ reserved := by
  simp [reserved]

theorem ofWord_ne_endOfInput (word : Text) : ofWord word ≠ endOfInput := by
  intro h
  rcases ofWord_eq_or_mem word with hid | hmem
  · rw [h] at hid
    cases hid
  · rw [h] at hmem
    exact endOfInput_not_reserved word hmem

theorem ofSymbol_ne_endOfInput (c : Char) : ofSymbol c ≠ endOfInput := by
  unfold ofSymbol
  split <;> simp

theorem ofPair?_ne_endOfInput (c d : Char) : ofPair? c d ≠ some endOfInput := by
  unfold ofPair?
  split <;> simp

end Kind

end Lexis
