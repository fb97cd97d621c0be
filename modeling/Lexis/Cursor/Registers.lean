import Lexis.Token.First

/-!
# Registers — a cursor as it is kept in place

A source that is read in place is kept whole, with the index of the current character, the index
after it, and the current character itself.  Nothing ties these `Registers` together but the way in
which they are moved.

* `Registers.advance` moves them over one character, and nothing else ever moves them.
* `Registers.sight` tells what is to be read, by the current character and the one after it.
* `Registers.IsPlaceOf source` says that they agree on a place of the source; they do at the start,
  and moving keeps it.
-/

namespace Lexis

/-- A source, an index, the index that is read next, and a character. -/
structure Registers where
  source : Text
  position : Nat
  readPosition : Nat
  current? : Option Char
  deriving DecidableEq, Repr

/-- The sorts of characters of which a token is a run. -/
inductive RunSort where
  | letters
  | digits
  deriving DecidableEq, Repr

namespace RunSort

def holds : RunSort → Char → Bool
  | letters => isLetter
  | digits => isDigit

def token : RunSort → Text → Token
  | letters, w => .word w
  | digits, w => ⟨.integer, w⟩

end RunSort

/-- What is to be read: a run of characters from the current one on, or a token that is known
already and stands for one character at most (`single`) or for two (`double`). -/
inductive Sight where
  | run (sort : RunSort)
  | single (t : Token)
  | double (t : Token)
  deriving DecidableEq, Repr

namespace Registers

def ofText (source : Text) : Registers :=
  ⟨source, 0, 1, source.head?⟩

/-- One character further; past the end nothing changes. -/
def advance (r : Registers) : Registers :=
  if r.source.length ≤ r.position then r
  else ⟨r.source, r.readPosition, r.readPosition + 1, r.source[r.readPosition]?⟩

/-- The character after the current one, seen without moving. -/
def peek? (r : Registers) : Option Char :=
  r.source[r.readPosition]?

/-- Two characters if the second one comes next, else the first alone. -/
def either (first second : Char) (double single : Kind) (r : Registers) : Sight :=
  if r.peek? = some second then .double ⟨double, [first, second]⟩ else .single ⟨single, [first]⟩

/-- What is to be read where the current character is no space. -/
def sight (r : Registers) : Sight :=
  match r.current? with
  | none => .single .endOfInput
  | some c =>
    if isLetter c then .run .letters
    else if isDigit c then .run .digits
    else if c = '=' then r.either '=' '=' .equal .assign
    else if c = '!' then r.either '!' '=' .notEqual .bang
    else .single ⟨.ofSymbol c, [c]⟩

/-! ## Places -/

@[simp] theorem source_advance (r : Registers) : r.advance.source = r.source := by
  unfold advance
  split <;> rfl

/-- The registers agree on a place of the source: a character of it, or its end. -/
structure IsPlaceOf (source : Text) (r : Registers) : Prop where
  source_eq : r.source = source
  readPosition_eq : r.readPosition = r.position + 1
  position_le : r.position ≤ source.length
  current?_eq : r.current? = source[r.position]?

theorem isPlaceOf_ofText (source : Text) : (ofText source).IsPlaceOf source where
  source_eq := rfl
  readPosition_eq := rfl
  position_le := Nat.zero_le _
  current?_eq := List.head?_eq_getElem?

namespace IsPlaceOf

variable {source : Text} {r : Registers}

theorem advance (h : r.IsPlaceOf source) : r.advance.IsPlaceOf source := by
  by_cases hend : r.source.length ≤ r.position
  · simpa [Registers.advance, hend] using h
  · have hlt : r.position < source.length := by simpa [h.source_eq] using hend
    simp only [Registers.advance, hend, if_false]
    -- there was a character at the index, so the next one is within the source or at its end
    exact {
      source_eq := h.source_eq
      readPosition_eq := rfl
      position_le := h.readPosition_eq ▸ hlt
      current?_eq := by simp [h.source_eq] }

theorem position_advance (h : r.IsPlaceOf source) (hlt : r.position < source.length) :
    r.advance.position = r.position + 1 := by
  have hnext : ¬ r.source.length ≤ r.position := by simpa [h.source_eq] using hlt
  simp [Registers.advance, hnext, h.readPosition_eq]

theorem position_le_advance (h : r.IsPlaceOf source) : r.position ≤ r.advance.position := by
  by_cases hend : r.source.length ≤ r.position
  · simp [Registers.advance, hend]
  · simp [Registers.advance, hend, h.readPosition_eq]

theorem current?_eq_none_iff (h : r.IsPlaceOf source) :
    r.current? = none ↔ r.position = source.length := by
  have hle := h.position_le
  rw [h.current?_eq, List.getElem?_eq_none_iff]
  omega

/-- There is a current character before the end only. -/
theorem position_lt (h : r.IsPlaceOf source) {p : Char → Bool} (hp : r.current?.any p = true) :
    r.position < source.length := by
  rcases (Option.any_eq_true p r.current?).1 hp with ⟨c, hc, -⟩
  rw [h.current?_eq] at hc
  exact (List.getElem?_eq_some_iff.1 hc).1

theorem readPosition_le (h : r.IsPlaceOf source) : r.readPosition ≤ source.length + 1 :=
  h.readPosition_eq ▸ Nat.succ_le_succ h.position_le

end IsPlaceOf

end Registers

end Lexis
