import Lexis.Text.Basic

/-!
# UTF-8 — texts as bytes

`Text.utf8` encodes and `Text.ofUtf8?` decodes.  The decoder is strict: it refuses overlong forms,
surrogates, code points above the last one and sequences that are cut short.  Every text is read
back from its own encoding.
-/

namespace Lexis

namespace Text

/-- The UTF-8 encoding of a text. -/
def utf8 (s : Text) : Bytes :=
  s.flatMap String.utf8EncodeChar

/-- The text that the bytes encode, if they are valid UTF-8 as a whole. -/
def ofUtf8? (bytes : Bytes) : Option Text :=
  bytes.toByteArray.utf8Decode?.map Array.toList

@[simp] theorem utf8_nil : utf8 [] = [] :=
  rfl

@[simp] theorem utf8_append (s t : Text) : utf8 (s ++ t) = utf8 s ++ utf8 t := by
  simp [utf8]

theorem toByteArray_utf8 (s : Text) : (utf8 s).toByteArray = s.utf8Encode := by
  simp [utf8, List.utf8Encode]

@[simp] theorem ofUtf8?_utf8 (s : Text) : ofUtf8? (utf8 s) = some s := by
  simp [ofUtf8?, toByteArray_utf8, List.utf8Decode?_utf8Encode]

end Text

end Lexis
