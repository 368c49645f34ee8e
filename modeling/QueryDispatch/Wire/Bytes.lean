/-!
# Byte strings and their text

Messages travel as frames, and a frame is a byte string. Some frames carry text, as UTF-8.

`ofUtf8?_eq_some_iff` is the one fact the codecs need of UTF-8: a frame reads as a text exactly when
it is that text's encoding. It rests on a text *being* its bytes together with the proof that they
are well formed, so nothing here decodes a character.
-/

namespace QueryDispatch

/-- A byte string. -/
abbrev Bytes := List UInt8

/-- A message as a transport carries it: an ordered list of byte strings. -/
abbrev Frames := List Bytes

namespace Wire

/-- The UTF-8 bytes of a text. -/
def utf8 (s : String) : Bytes := s.toByteArray.data.toList

/-- The text with these UTF-8 bytes. Overlong forms, surrogates and code points past U+10FFFF are
not well formed, and nothing is guessed in their place. -/
def ofUtf8? (b : Bytes) : Option String := String.fromUTF8? ⟨b.toArray⟩

/-- Bytes read as a text if and only if they are its encoding. -/
theorem ofUtf8?_eq_some_iff {b : Bytes} {s : String} : ofUtf8? b = some s ↔ utf8 s = b := by
  unfold ofUtf8? String.fromUTF8? utf8
  constructor
  · intro h
    split at h
    · cases h; rfl
    · cases h
  · rintro rfl
    have hs : (⟨s.toByteArray.data.toList.toArray⟩ : ByteArray) = s.toByteArray := by
      cases s.toByteArray; rfl
    rw [hs, dif_pos s.isValidUTF8]
    rfl

/-- A text reads back from its encoding. -/
@[simp] theorem ofUtf8?_utf8 (s : String) : ofUtf8? (utf8 s) = some s :=
  ofUtf8?_eq_some_iff.2 rfl

/-- Different texts have different encodings. -/
theorem utf8_injective {s t : String} (h : utf8 s = utf8 t) : s = t :=
  Option.some.inj ((ofUtf8?_utf8 s).symm.trans (h ▸ ofUtf8?_utf8 t))

end Wire

end QueryDispatch
