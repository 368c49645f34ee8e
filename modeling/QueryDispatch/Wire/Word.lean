import QueryDispatch.Wire.Bytes

/-!
# Words on the wire

Correlation ids and status codes are 32-bit words, least significant byte first. A word fills a
frame of its own, which `decode?` reads, or heads one, from which `split?` takes it.

Both directions are stated as exact inverses, `decode?_eq_some_iff` and `split?_eq_some_iff`; each
rests on the four bytes being the digits of the word in base 256.
-/

namespace QueryDispatch.Wire.Word

/-- The four bytes of a word, least significant first. -/
def encode (w : UInt32) : Bytes :=
  [.ofNat w.toNat, .ofNat (w.toNat / 256), .ofNat (w.toNat / 65536), .ofNat (w.toNat / 16777216)]

/-- The word with these four bytes. -/
def ofBytes (a b c d : UInt8) : UInt32 :=
  .ofNat (a.toNat + 256 * b.toNat + 65536 * c.toNat + 16777216 * d.toNat)

/-- The word that heads a byte string, and what follows it. -/
def split? : Bytes → Option (UInt32 × Bytes)
  | a :: b :: c :: d :: rest => some (ofBytes a b c d, rest)
  | _ => none

/-- The word that fills a byte string of exactly four. -/
def decode? (bytes : Bytes) : Option UInt32 :=
  match split? bytes with
  | some (w, []) => some w
  | _ => none

@[simp] theorem length_encode (w : UInt32) : (encode w).length = 4 := rfl

/-- A word is put together again from its bytes, the least of them first. -/
theorem ofBytes_encode (w : UInt32) :
    ofBytes (.ofNat w.toNat) (.ofNat (w.toNat / 256)) (.ofNat (w.toNat / 65536))
      (.ofNat (w.toNat / 16777216)) = w := by
  apply UInt32.toNat_inj.1
  have := w.toNat_lt
  simp only [ofBytes, UInt8.toNat_ofNat', UInt32.toNat_ofNat']
  omega

/-- Four bytes are the encoding of the word they make. -/
theorem encode_ofBytes (a b c d : UInt8) : encode (ofBytes a b c d) = [a, b, c, d] := by
  have ha := a.toNat_lt
  have hb := b.toNat_lt
  have hc := c.toNat_lt
  have hd := d.toNat_lt
  simp only [encode, ofBytes, UInt32.toNat_ofNat', List.cons.injEq, and_true]
  refine ⟨?_, ?_, ?_, ?_⟩ <;> apply UInt8.toNat_inj.1 <;> rw [UInt8.toNat_ofNat'] <;> omega

/-- A word that stands in front is split off. -/
@[simp] theorem split?_encode_append (w : UInt32) (rest : Bytes) :
    split? (encode w ++ rest) = some (w, rest) :=
  congrArg (fun v ↦ some (v, rest)) (ofBytes_encode w)

/-- What is split off is the word that stands in front. -/
theorem split?_eq_some_iff {bytes rest : Bytes} {w : UInt32} :
    split? bytes = some (w, rest) ↔ bytes = encode w ++ rest := by
  constructor
  · intro h
    match bytes, h with
    | a :: b :: c :: d :: r, h =>
      cases h
      simp [encode_ofBytes]
  · rintro rfl
    exact split?_encode_append w rest

/-- Nothing can be split off if and only if there are fewer than four bytes. -/
theorem split?_eq_none_iff {bytes : Bytes} : split? bytes = none ↔ bytes.length < 4 := by
  match bytes with
  | [] | [_] | [_, _] | [_, _, _] => simp [split?]
  | _ :: _ :: _ :: _ :: _ => simp [split?]

/-- Bytes read as a word if and only if they are its encoding. -/
theorem decode?_eq_some_iff {bytes : Bytes} {w : UInt32} :
    decode? bytes = some w ↔ bytes = encode w := by
  unfold decode?
  constructor
  · intro h
    split at h
    next v hv =>
      cases h
      simpa using split?_eq_some_iff.1 hv
    · cases h
  · rintro rfl
    have := split?_encode_append w []
    simp only [List.append_nil] at this
    rw [this]

/-- A word reads back from its encoding. -/
@[simp] theorem decode?_encode (w : UInt32) : decode? (encode w) = some w :=
  decode?_eq_some_iff.2 rfl

/-- Bytes do not read as a word if and only if they are not four. -/
theorem decode?_eq_none_iff {bytes : Bytes} : decode? bytes = none ↔ bytes.length ≠ 4 := by
  match bytes with
  | [] | [_] | [_, _] | [_, _, _] => simp [decode?, split?]
  | [_, _, _, _] => simp [decode?, split?]
  | _ :: _ :: _ :: _ :: _ :: _ => simp [decode?, split?]

end QueryDispatch.Wire.Word
