import Lexis.Cursor.Basic
import Lexis.Cursor.Registers
import Lexis.Proofs.Token.Longest

/-!
# Indexed — a cursor kept by indices

A cursor can also be kept in `Registers` that agree on a place of their source (`Indexed`).  It is
moved as the registers are, and reads what they have in sight; a run of characters is cut out of the
source between two indices.

`Indexed.ofCursor` writes a cursor in this form, and both read the same tokens from the same places
(`Indexed.nextToken_ofCursor`).  The reason is that what the registers of a cursor have in sight is
the token that the text ahead begins with (`Cursor.isOf_sight`).
-/

namespace Lexis

/-- Registers that agree on a place of their source. -/
@[ext]
structure Indexed where
  registers : Registers
  isPlace : registers.IsPlaceOf registers.source

namespace Indexed

def ofText (source : Text) : Indexed where
  registers := .ofText source
  isPlace := Registers.isPlaceOf_ofText source

/-! ## Moving -/

def advance (i : Indexed) : Indexed where
  registers := i.registers.advance
  isPlace := by
    rw [Registers.source_advance]
    exact i.isPlace.advance

/-- Advances as long as the current character is one of `p`. -/
def advanceWhile (p : Char → Bool) (i : Indexed) : Indexed :=
  if _h : i.registers.current?.any p then i.advance.advanceWhile p else i
termination_by i.registers.source.length - i.registers.position
decreasing_by
  have hlt := i.isPlace.position_lt _h
  have hnext := i.isPlace.position_advance hlt
  simp only [advance, Registers.source_advance]
  omega

/-! ## Reading -/

/-- The run of characters of `p` from the current one on, cut out of the source. -/
def readWhile (p : Char → Bool) (i : Indexed) : Text × Indexed :=
  let stop := i.advanceWhile p
  ((stop.registers.source.take stop.registers.position).drop i.registers.position, stop)

/-- The token at the current character, and the place after it. -/
def readToken (i : Indexed) : Token × Indexed :=
  match i.registers.sight with
  | .run sort =>
    -- a run passes its last character itself
    let run := i.readWhile sort.holds
    (sort.token run.1, run.2)
  | .single t => (t, i.advance)
  | .double t => (t, i.advance.advance)

/-- The next token, and the place after it. -/
def nextToken (i : Indexed) : Token × Indexed :=
  (i.advanceWhile isSpace).readToken

end Indexed

namespace Cursor

/-! ## Steps of a cursor -/

/-- Past the end nothing changes, so of some steps those count that have a character ahead. -/
theorem advanceBy_length_take (n : Nat) (c : Cursor) :
    c.advanceBy (c.ahead.take n).length = c.advanceBy n := by
  obtain ⟨behind, ahead⟩ := c
  induction n generalizing behind ahead with
  | zero => rfl
  | succ n ih =>
    cases ahead with
    | nil => simpa [advanceBy, advance] using ih behind []
    | cons x rest => simpa [advanceBy, advance] using ih (x :: behind) rest

theorem position_advanceBy {n : Nat} {c : Cursor} (h : n ≤ c.ahead.length) :
    (c.advanceBy n).position = c.position + n := by
  obtain ⟨behind, ahead⟩ := c
  induction n generalizing behind ahead with
  | zero => rfl
  | succ n ih =>
    cases ahead with
    | nil => simp at h
    | cons x rest =>
      have hrest := ih (x :: behind) rest (Nat.le_of_succ_le_succ h)
      simp only [advanceBy, advance, hrest]
      simp only [position, List.length_cons]
      omega

/-! ## The registers of a cursor -/

def registers (c : Cursor) : Registers :=
  ⟨c.text, c.position, c.readPosition, c.current?⟩

theorem registers_ofText (source : Text) : (ofText source).registers = .ofText source := by
  simp [registers, Registers.ofText, position, readPosition, ofText, current?, text]

theorem getElem?_text (c : Cursor) (n : Nat) : c.text[c.position + n]? = c.ahead[n]? := by
  simp [text, position, List.getElem?_append_right]

theorem isPlaceOf_registers (c : Cursor) : c.registers.IsPlaceOf c.text where
  source_eq := rfl
  readPosition_eq := rfl
  position_le := by simp [registers, position, text]
  current?_eq := by
    rw [registers, current?, List.head?_eq_getElem?]
    exact (c.getElem?_text 0).symm

theorem peek?_registers (c : Cursor) : c.registers.peek? = c.ahead[1]? :=
  c.getElem?_text 1

theorem registers_advance (c : Cursor) : c.advance.registers = c.registers.advance := by
  obtain ⟨behind, ahead⟩ := c
  cases ahead with
  | nil => simp [advance, registers, Registers.advance, text, position]
  | cons x rest =>
    have hlt : ¬ (registers ⟨behind, x :: rest⟩).source.length
        ≤ (registers ⟨behind, x :: rest⟩).position := by
      simp [registers, text, position]
    have hnext : (registers ⟨behind, x :: rest⟩).peek? = rest.head? := by
      simp [peek?_registers, List.head?_eq_getElem?]
    have htext : text ⟨x :: behind, rest⟩ = text ⟨behind, x :: rest⟩ := by simp [text]
    rw [Registers.advance, if_neg hlt, ← Registers.peek?, hnext]
    simp [advance, registers, htext, readPosition, position, current?]

end Cursor

/-! ## What is in sight -/

/-- What is in sight before a text is the token that the text begins with, and with it the number of
its characters. -/
def Sight.IsOf (s : Text) : Sight → Prop
  | run sort => Token.first s = sort.token (s.takeWhile sort.holds)
  | single t => Token.first s = t ∧ t.literal = s.take 1
  | double t => Token.first s = t ∧ t.literal = s.take 2

/-- A symbol that may be paired with an equals sign is in sight alone or with it. -/
theorem Cursor.isOf_either {c : Char} {double : Kind} (h : Kind.ofPair? c '=' = some double)
    (behind rest : Text) (hfirst : Token.first (c :: rest) = Token.symbol c rest) :
    ((Cursor.mk behind (c :: rest)).registers.either c '=' double (.ofSymbol c)).IsOf
      (c :: rest) := by
  have hpeek : (Cursor.mk behind (c :: rest)).registers.peek? = rest[0]? := peek?_registers _
  cases rest with
  | nil => simp [Registers.either, hpeek, Sight.IsOf, hfirst, Token.symbol]
  | cons d more =>
    by_cases hd : d = '='
    · subst hd
      simp [Registers.either, hpeek, Sight.IsOf, hfirst, Token.symbol, h]
    · have hnone : Kind.ofPair? c d = none := by simp [Kind.ofPair?_eq_none_iff, hd]
      simp [Registers.either, hpeek, Sight.IsOf, hfirst, Token.symbol, hnone, hd]

theorem Cursor.isOf_sight (c : Cursor) : c.registers.sight.IsOf c.ahead := by
  obtain ⟨behind, ahead⟩ := c
  cases ahead with
  | nil => exact ⟨rfl, rfl⟩
  | cons c rest =>
    have hcurrent : (Cursor.mk behind (c :: rest)).registers.current? = some c := rfl
    simp only [Registers.sight, hcurrent]
    -- in the order in which the token at the head of a text is found
    split
    · next hletter => simp [Sight.IsOf, RunSort.holds, RunSort.token, Token.first, hletter]
    split
    · next hdigit =>
      simp [Sight.IsOf, RunSort.holds, RunSort.token, Token.first, hdigit,
        isLetter_eq_false_of_isDigit hdigit]
    have hfirst : Token.first (c :: rest) = Token.symbol c rest := by simp_all [Token.first]
    split
    · next hc =>
      subst hc
      exact isOf_either rfl behind rest hfirst
    split
    · next hc =>
      subst hc
      exact isOf_either rfl behind rest hfirst
    · next hequals hbang =>
      have hsingle : Token.symbol c rest = ⟨.ofSymbol c, [c]⟩ := by
        simp [Token.symbol_eq_single_iff, hequals, hbang]
      simp [Sight.IsOf, hfirst, hsingle]

/-! ## Cursors by indices -/

namespace Indexed

/-- A cursor, written with indices. -/
def ofCursor (c : Cursor) : Indexed where
  registers := c.registers
  isPlace := c.isPlaceOf_registers

theorem ofCursor_ofText (source : Text) : ofCursor (.ofText source) = ofText source :=
  Indexed.ext (Cursor.registers_ofText source)

theorem advance_ofCursor (c : Cursor) : (ofCursor c).advance = ofCursor c.advance :=
  Indexed.ext c.registers_advance.symm

/-- The loop passes the run of characters of `p` that a cursor has ahead. -/
theorem advanceWhile_ofCursor (p : Char → Bool) (c : Cursor) :
    (ofCursor c).advanceWhile p = ofCursor (c.advanceBy (c.ahead.takeWhile p).length) := by
  obtain ⟨behind, ahead⟩ := c
  -- one turn of the loop for each character of the run
  induction ahead generalizing behind with
  | nil =>
    rw [advanceWhile]
    simp [ofCursor, Cursor.registers, Cursor.current?, Cursor.advanceBy]
  | cons x rest ih =>
    rw [advanceWhile]
    cases hx : p x with
    | false => simp [ofCursor, Cursor.registers, Cursor.current?, Cursor.advanceBy, hx]
    | true =>
      have hcurrent : (ofCursor ⟨behind, x :: rest⟩).registers.current?.any p = true := by
        simp [ofCursor, Cursor.registers, Cursor.current?, hx]
      rw [dif_pos hcurrent, advance_ofCursor]
      simpa [Cursor.advance, Cursor.advanceBy, hx] using ih (x :: behind)

/-- The part of the source between the two indices is the run that was passed. -/
theorem readWhile_ofCursor (p : Char → Bool) (c : Cursor) :
    (ofCursor c).readWhile p =
      (c.ahead.takeWhile p, ofCursor (c.advanceBy (c.ahead.takeWhile p).length)) := by
  have hprefix : c.ahead.takeWhile p <+: c.ahead := List.takeWhile_prefix p
  have hposition := Cursor.position_advanceBy hprefix.length_le
  have hslice : ((c.text).take (c.position + (c.ahead.takeWhile p).length)).drop c.position =
      c.ahead.takeWhile p := by
    have hbehind : c.position = c.behind.reverse.length := by simp [Cursor.position]
    rw [Cursor.text, hbehind, List.take_length_add_append, List.drop_left]
    exact (List.prefix_iff_eq_take.1 hprefix).symm
  simp only [readWhile, advanceWhile_ofCursor]
  simp [ofCursor, Cursor.registers, hposition, hslice]

theorem readToken_ofCursor (c : Cursor) :
    (ofCursor c).readToken =
      (Token.first c.ahead, ofCursor (c.advanceBy (Token.first c.ahead).literal.length)) := by
  have hsight := c.isOf_sight
  have hregisters : (ofCursor c).registers = c.registers := rfl
  rw [readToken, hregisters]
  cases h : c.registers.sight with
  | run sort =>
    rw [h] at hsight
    have hfirst : Token.first c.ahead = sort.token (c.ahead.takeWhile sort.holds) := hsight
    have hliteral : (sort.token (c.ahead.takeWhile sort.holds)).literal =
        c.ahead.takeWhile sort.holds := by cases sort <;> rfl
    simp only [readWhile_ofCursor]
    rw [hfirst, hliteral]
  | single t =>
    rw [h] at hsight
    rcases hsight with ⟨hfirst, hliteral⟩
    simp only [advance_ofCursor]
    rw [hfirst, hliteral, Cursor.advanceBy_length_take]
    rfl
  | double t =>
    rw [h] at hsight
    rcases hsight with ⟨hfirst, hliteral⟩
    simp only [advance_ofCursor]
    rw [hfirst, hliteral, Cursor.advanceBy_length_take]
    rfl

/-- Both forms of a cursor read the same token and come to the same place. -/
theorem nextToken_ofCursor (c : Cursor) :
    (ofCursor c).nextToken = (c.nextToken.1, ofCursor c.nextToken.2) := by
  rw [nextToken, advanceWhile_ofCursor]
  exact readToken_ofCursor c.skipSpaces

end Indexed

end Lexis
