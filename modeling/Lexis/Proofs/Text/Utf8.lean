import Mathlib.Data.List.Basic
import Lexis.Proofs.Text.Lines
import Lexis.Text.Utf8

/-!
# Utf8 — what decoding accepts, and where lines end in encoded text

* Decoding accepts exactly what encoding gives (`ofUtf8?_eq_some_iff`).
* The byte of an ASCII character stands for that character only, never for a part of another one
  (`asciiByte_mem_utf8_iff`); so an encoded text has the encoded lines (`lines_utf8`).
* Bytes are valid UTF-8 as a whole exactly if each of their lines is (`isUtf8_iff_lines`).
-/

namespace Lexis

namespace Text

/-! ## Decoding -/

theorem ofUtf8?_eq_some_iff {bytes : Bytes} {s : Text} :
    ofUtf8? bytes = some s ↔ utf8 s = bytes := by
  constructor
  · intro h
    rcases Option.map_eq_some_iff.1 h with ⟨chars, hchars, rfl⟩
    have hsome : bytes.toByteArray.utf8Decode?.isSome = true := by simp [hchars]
    have hencode : (bytes.toByteArray.utf8Decode?.get hsome).toList.utf8Encode
        = bytes.toByteArray := ByteArray.utf8Encode_get_utf8Decode?
    simp only [hchars, Option.get_some] at hencode
    rw [← toByteArray_utf8] at hencode
    exact List.toByteArray_inj.1 hencode
  · rintro rfl
    exact ofUtf8?_utf8 s

/-- The encoding of a text determines it. -/
theorem utf8_injective : Function.Injective utf8 := by
  intro s t h
  have hdecoded := congrArg ofUtf8? h
  simpa using hdecoded

/-! ## ASCII bytes -/

/-- The encoding of a character beyond ASCII has no ASCII byte. -/
theorem le_of_mem_utf8EncodeChar {c : Char} (hc : c.utf8Size ≠ 1) {b : UInt8}
    (hb : b ∈ String.utf8EncodeChar c) : 128 ≤ b.toNat := by
  -- every byte is a part of the code point with a mark of at least 128 set on top
  have hor : ∀ x y : UInt8, 128 ≤ y.toNat → 128 ≤ (x ||| y).toNat := by
    intro x y hy
    rw [UInt8.toNat_or]
    exact Nat.le_trans hy Nat.right_le_or
  rcases c.utf8Size_eq with h | h | h | h
  · exact absurd h hc
  · rw [String.utf8EncodeChar_eq_cons_cons h] at hb
    simp only [List.mem_cons, List.not_mem_nil, or_false] at hb
    rcases hb with rfl | rfl <;> exact hor _ _ (by decide)
  · rw [String.utf8EncodeChar_eq_cons_cons_cons h] at hb
    simp only [List.mem_cons, List.not_mem_nil, or_false] at hb
    rcases hb with rfl | rfl | rfl <;> exact hor _ _ (by decide)
  · rw [String.utf8EncodeChar_eq_cons_cons_cons_cons h] at hb
    simp only [List.mem_cons, List.not_mem_nil, or_false] at hb
    rcases hb with rfl | rfl | rfl | rfl <;> exact hor _ _ (by decide)

theorem utf8Size_eq_one_iff_toNat {c : Char} : c.utf8Size = 1 ↔ c.toNat < 128 := by
  rw [Char.utf8Size_eq_one_iff, UInt32.le_iff_toNat_le]
  exact Nat.lt_succ_iff.symm

theorem toNat_asciiByte {c : Char} (hc : c.toNat < 128) : c.toUInt8.toNat = c.toNat := by
  rw [← Char.toUInt8_val, UInt32.toNat_toUInt8]
  exact Nat.mod_eq_of_lt (Nat.lt_trans hc (by decide))

theorem asciiByte_mem_utf8EncodeChar_iff {a : Char} (ha : a.toNat < 128) (c : Char) :
    a.toUInt8 ∈ String.utf8EncodeChar c ↔ a = c := by
  by_cases hc : c.utf8Size = 1
  · rw [String.utf8EncodeChar_eq_singleton hc, List.mem_singleton, Char.toUInt8_val]
    have hc' : c.toNat < 128 := utf8Size_eq_one_iff_toNat.1 hc
    constructor
    · intro heq
      have hnat : a.toNat = c.toNat := by
        calc
          a.toNat = a.toUInt8.toNat := (toNat_asciiByte ha).symm
          _ = c.toUInt8.toNat := by simp [heq]
          _ = c.toNat := toNat_asciiByte hc'
      exact Char.toNat_inj.1 hnat
    · intro heq
      simp [heq]
  · constructor
    · intro hmem
      have hle := le_of_mem_utf8EncodeChar hc hmem
      rw [toNat_asciiByte ha] at hle
      omega
    · rintro rfl
      exact absurd (utf8Size_eq_one_iff_toNat.2 ha) hc

/-- The byte of an ASCII character is found in an encoded text only where the character stands. -/
theorem asciiByte_mem_utf8_iff {a : Char} (ha : a.toNat < 128) (s : Text) :
    a.toUInt8 ∈ utf8 s ↔ a ∈ s := by
  simp [utf8, asciiByte_mem_utf8EncodeChar_iff ha]

theorem utf8_ascii {a : Char} (ha : a.toNat < 128) : utf8 [a] = [a.toUInt8] := by
  simp [utf8, String.utf8EncodeChar_eq_singleton (utf8Size_eq_one_iff_toNat.2 ha)]

theorem utf8_flatten (pieces : List Text) : utf8 pieces.flatten = (pieces.map utf8).flatten := by
  induction pieces with
  | nil => rfl
  | cons piece pieces ih => simp [ih]

@[simp] theorem utf8_eq_nil_iff {s : Text} : utf8 s = [] ↔ s = [] := by
  cases s <;> simp [utf8]

/-! ## Lines -/

theorem isOpen_utf8 {s : Text} (h : IsOpen (· == '\n') s) : IsOpen (· == lineFeed) (utf8 s) := by
  intro b hb
  rw [beq_eq_false_iff_ne]
  rintro rfl
  have hmem : '\n' ∈ s := (asciiByte_mem_utf8_iff (by decide) s).1 hb
  simpa using h '\n' hmem

theorem isClosed_utf8 {s : Text} (h : IsClosed (· == '\n') s) :
    IsClosed (· == lineFeed) (utf8 s) := by
  rcases h with ⟨body, x, rfl, hbody, hx⟩
  obtain rfl : x = '\n' := beq_iff_eq.1 hx
  exact ⟨utf8 body, lineFeed, by rw [utf8_append, utf8_ascii (by decide)]; rfl,
    isOpen_utf8 hbody, rfl⟩

/-- The lines of an encoded text are its encoded lines. -/
theorem lines_utf8 (s : Text) : Bytes.lines (utf8 s) = (Text.lines s).map utf8 := by
  rcases exists_isCut (· == '\n') s with ⟨pieces, rest, hcut⟩
  -- encoding takes a cut of the text to a cut of the bytes
  have hencoded : IsCut (· == lineFeed) (pieces.map utf8) (utf8 rest) (utf8 s) := by
    refine ⟨?_, ?_, isOpen_utf8 hcut.isOpen⟩
    · simp [hcut.eq, utf8_append, utf8_flatten]
    · intro line hline
      rcases List.mem_map.1 hline with ⟨piece, hpiece, rfl⟩
      exact isClosed_utf8 (hcut.closed piece hpiece)
  rw [Bytes.lines, Text.lines, hencoded.cutAfter_eq, hcut.cutAfter_eq]
  by_cases hrest : rest = [] <;> simp [hrest]

end Text

/-! ## Validity -/

/-- Whether the bytes are valid UTF-8. -/
def Bytes.isUtf8 (bytes : Bytes) : Bool :=
  (Text.ofUtf8? bytes).isSome

namespace Bytes

theorem isUtf8_iff {bytes : Bytes} : bytes.isUtf8 = true ↔ ∃ s, Text.utf8 s = bytes := by
  simp [isUtf8, Option.isSome_iff_exists, Text.ofUtf8?_eq_some_iff]

/-- Pieces that are valid one by one are valid together. -/
theorem isUtf8_flatten {pieces : List Bytes} (h : ∀ piece ∈ pieces, isUtf8 piece = true) :
    isUtf8 pieces.flatten = true := by
  induction pieces with
  | nil => exact isUtf8_iff.2 ⟨[], rfl⟩
  | cons piece pieces ih =>
    rcases List.forall_mem_cons.1 h with ⟨hpiece, hpieces⟩
    rcases isUtf8_iff.1 hpiece with ⟨s, rfl⟩
    rcases isUtf8_iff.1 (ih hpieces) with ⟨t, ht⟩
    refine isUtf8_iff.2 ⟨s ++ t, ?_⟩
    simp [ht]

/-- Bytes are valid as a whole exactly if each of their lines is. -/
theorem isUtf8_iff_lines (bytes : Bytes) :
    isUtf8 bytes = true ↔ ∀ line ∈ bytes.lines, isUtf8 line = true := by
  constructor
  · intro h line hline
    rcases isUtf8_iff.1 h with ⟨s, rfl⟩
    rw [Text.lines_utf8] at hline
    rcases List.mem_map.1 hline with ⟨t, -, rfl⟩
    exact isUtf8_iff.2 ⟨t, rfl⟩
  · intro h
    simpa using isUtf8_flatten h

end Bytes

end Lexis
