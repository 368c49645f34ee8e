import QueryDispatch.Wire.Bytes
import Mathlib.Data.List.Basic

/-!
# Well-formed UTF-8

Which byte strings are texts, said of the bytes alone. A character is laid out as a first byte,
which tells how many follow, and up to three bytes that follow; `Spells` reads the code point off
such a layout, whatever it is. A layout is a character if it is the shortest for its code point, and
if the code point is one of a character. `WellFormed` says that a byte string is a succession of
such layouts.

`wellFormed_iff` says that these are exactly the byte strings that read as a text. It rests on the
two directions for a single character: the encoding of a character is a layout of that kind
(`spells_utf8EncodeChar`), and there is no other (`Spells.eq_utf8EncodeChar`).
-/

namespace QueryDispatch.Wire

/-- A byte that follows the first of a character. -/
def IsTrailing (b : UInt8) : Prop := 0x80 ≤ b.toNat ∧ b.toNat < 0xC0

/-- The bytes are laid out as a character would be, and this is the code point that they spell. -/
inductive Spells : Bytes → Nat → Prop where
  | one {a : UInt8} {point : Nat} (ha : a.toNat < 0x80) (hpoint : point = a.toNat) :
      Spells [a] point
  | two {a b : UInt8} {point : Nat} (ha : 0xC0 ≤ a.toNat ∧ a.toNat < 0xE0) (hb : IsTrailing b)
      (hpoint : point = 64 * (a.toNat - 0xC0) + (b.toNat - 0x80)) : Spells [a, b] point
  | three {a b c : UInt8} {point : Nat} (ha : 0xE0 ≤ a.toNat ∧ a.toNat < 0xF0) (hb : IsTrailing b)
      (hc : IsTrailing c)
      (hpoint : point = 4096 * (a.toNat - 0xE0) + 64 * (b.toNat - 0x80) + (c.toNat - 0x80)) :
      Spells [a, b, c] point
  | four {a b c d : UInt8} {point : Nat} (ha : 0xF0 ≤ a.toNat ∧ a.toNat < 0xF8)
      (hb : IsTrailing b) (hc : IsTrailing c) (hd : IsTrailing d)
      (hpoint : point = 262144 * (a.toNat - 0xF0) + 4096 * (b.toNat - 0x80) +
        64 * (c.toNat - 0x80) + (d.toNat - 0x80)) : Spells [a, b, c, d] point

/-- The least code point that takes this many bytes. A layout that spells a lesser one is overlong.
-/
def leastOfLength : Nat → Nat
  | 0 | 1 => 0
  | 2 => 0x80
  | 3 => 0x800
  | _ => 0x10000

/-- The code point is one of a character: it is no surrogate, and not past U+10FFFF. -/
def IsScalar (point : Nat) : Prop := point < 0xD800 ∨ 0xDFFF < point ∧ point ≤ 0x10FFFF

/-- The bytes are characters one after the other, none of them overlong, a surrogate or past
U+10FFFF. -/
inductive WellFormed : Bytes → Prop where
  | nil : WellFormed []
  | cons {bytes rest : Bytes} {point : Nat} (hspells : Spells bytes point)
      (hshortest : leastOfLength bytes.length ≤ point) (hscalar : IsScalar point)
      (hrest : WellFormed rest) : WellFormed (bytes ++ rest)

/-! ### One character -/

/-- Six bits after a set first bit make a trailing byte. -/
theorem isTrailing_ofNat {n : Nat} (h : n < 64) : IsTrailing (.ofNat (n + 128)) := by
  rw [IsTrailing, UInt8.toNat_ofNat']
  omega

/-- The encoding of a character, by its code point. -/
theorem utf8EncodeChar_eq (c : Char) :
    String.utf8EncodeChar c =
      if c.toNat ≤ 0x7F then [.ofNat c.toNat]
      else if c.toNat ≤ 0x7FF then [.ofNat (c.toNat / 64 % 32 + 192), .ofNat (c.toNat % 64 + 128)]
      else if c.toNat ≤ 0xFFFF then
        [.ofNat (c.toNat / 4096 % 16 + 224), .ofNat (c.toNat / 64 % 64 + 128),
          .ofNat (c.toNat % 64 + 128)]
      else
        [.ofNat (c.toNat / 262144 % 8 + 240), .ofNat (c.toNat / 4096 % 64 + 128),
          .ofNat (c.toNat / 64 % 64 + 128), .ofNat (c.toNat % 64 + 128)] := rfl

/-- A character has the code point of one. -/
theorem isScalar_toNat (c : Char) : IsScalar c.toNat := by
  have hvalid : c.toNat < 0xD800 ∨ 0xDFFF < c.toNat ∧ c.toNat < 0x110000 := c.valid
  rw [IsScalar]
  omega

/-- The encoding of a character is the shortest layout that spells it. -/
theorem spells_utf8EncodeChar (c : Char) :
    Spells (String.utf8EncodeChar c) c.toNat ∧
      leastOfLength (String.utf8EncodeChar c).length ≤ c.toNat := by
  have hscalar := isScalar_toNat c
  rw [IsScalar] at hscalar
  rw [utf8EncodeChar_eq]
  generalize c.toNat = n at hscalar ⊢
  split
  · refine ⟨.one ?_ ?_, Nat.zero_le n⟩ <;> rw [UInt8.toNat_ofNat'] <;> omega
  · split
    · refine ⟨.two ?_ (isTrailing_ofNat (by omega)) ?_, ?_⟩
      · rw [UInt8.toNat_ofNat']
        omega
      · rw [UInt8.toNat_ofNat', UInt8.toNat_ofNat']
        omega
      · show 0x80 ≤ n
        omega
    · split
      · refine ⟨.three ?_ (isTrailing_ofNat (by omega)) (isTrailing_ofNat (by omega)) ?_, ?_⟩
        · rw [UInt8.toNat_ofNat']
          omega
        · rw [UInt8.toNat_ofNat', UInt8.toNat_ofNat', UInt8.toNat_ofNat']
          omega
        · show 0x800 ≤ n
          omega
      · refine ⟨.four ?_ (isTrailing_ofNat (by omega)) (isTrailing_ofNat (by omega))
          (isTrailing_ofNat (by omega)) ?_, ?_⟩
        · rw [UInt8.toNat_ofNat']
          omega
        · rw [UInt8.toNat_ofNat', UInt8.toNat_ofNat', UInt8.toNat_ofNat', UInt8.toNat_ofNat']
          omega
        · show 0x10000 ≤ n
          omega

/-- The shortest layout that spells the code point of a character is the encoding of that
character. -/
theorem Spells.eq_utf8EncodeChar {bytes : Bytes} {point : Nat} (hspells : Spells bytes point)
    (hshortest : leastOfLength bytes.length ≤ point) (hscalar : IsScalar point) :
    ∃ c : Char, String.utf8EncodeChar c = bytes := by
  rw [IsScalar] at hscalar
  have hvalid : point.isValidChar := by
    rw [Nat.isValidChar]
    omega
  have hpoint : (Char.ofNatAux point hvalid).toNat = point := UInt32.toNat_ofNatLT
  refine ⟨Char.ofNatAux point hvalid, ?_⟩
  have hbyte : ∀ {n : Nat} {b : UInt8}, n = b.toNat → UInt8.ofNat n = b := by
    rintro n b rfl
    exact UInt8.ofNat_toNat
  rw [utf8EncodeChar_eq, hpoint]
  clear hpoint hvalid
  cases hspells with
  | one ha hpoint =>
    rw [if_pos (by omega), hbyte hpoint]
  | two ha hb hpoint =>
    have hleast : 0x80 ≤ point := hshortest
    rw [IsTrailing] at hb
    rw [if_neg (by omega), if_pos (by omega), hbyte, hbyte] <;> omega
  | three ha hb hc hpoint =>
    have hleast : 0x800 ≤ point := hshortest
    rw [IsTrailing] at hb hc
    rw [if_neg (by omega), if_neg (by omega), if_pos (by omega), hbyte, hbyte, hbyte] <;> omega
  | four ha hb hc hd hpoint =>
    have hleast : 0x10000 ≤ point := hshortest
    rw [IsTrailing] at hb hc hd
    rw [if_neg (by omega), if_neg (by omega), if_neg (by omega), hbyte, hbyte, hbyte, hbyte] <;>
      omega

/-! ### A text -/

/-- The bytes of a text are those of its characters. -/
theorem utf8_eq_flatMap (s : String) : utf8 s = s.toList.flatMap String.utf8EncodeChar := by
  rw [utf8, ← String.utf8Encode_toList, List.utf8Encode, List.data_toByteArray]

/-- **The well-formed byte strings are those that read as a text.** -/
theorem wellFormed_iff {bytes : Bytes} : WellFormed bytes ↔ ∃ s, ofUtf8? bytes = some s := by
  simp only [ofUtf8?_eq_some_iff]
  constructor
  · intro h
    induction h with
    | nil => exact ⟨"", rfl⟩
    | @cons bytes rest point hspells hshortest hscalar hrest ih =>
      obtain ⟨s, rfl⟩ := ih
      obtain ⟨c, rfl⟩ := hspells.eq_utf8EncodeChar hshortest hscalar
      refine ⟨String.ofList (c :: s.toList), ?_⟩
      rw [utf8_eq_flatMap, utf8_eq_flatMap, String.toList_ofList, List.flatMap_cons]
  · rintro ⟨s, rfl⟩
    rw [utf8_eq_flatMap]
    induction s.toList with
    | nil => exact .nil
    | cons c rest ih =>
      rw [List.flatMap_cons]
      obtain ⟨hspells, hshortest⟩ := spells_utf8EncodeChar c
      exact .cons hspells hshortest (isScalar_toNat c) ih

/-- Bytes read as no text if and only if they are not well-formed. -/
theorem ofUtf8?_eq_none_iff {bytes : Bytes} : ofUtf8? bytes = none ↔ ¬ WellFormed bytes := by
  rw [wellFormed_iff, Option.eq_none_iff_forall_ne_some, not_exists]

/-- To try to read the bytes decides whether they are well-formed. -/
instance : DecidablePred WellFormed := fun bytes ↦
  decidable_of_iff ((ofUtf8? bytes).isSome = true)
    (Option.isSome_iff_exists.trans wellFormed_iff.symm)

/-- An overlong form, a surrogate, and a code point past the last. -/
example : ¬ WellFormed [0xC0, 0x80] ∧ ¬ WellFormed [0xED, 0xA0, 0x80] ∧
    ¬ WellFormed [0xF4, 0x90, 0x80, 0x80] := by decide

end QueryDispatch.Wire
