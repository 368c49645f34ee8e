import QueryDispatch.Wire.Hex

/-!
# Hexadecimal notation

What it is for a text to be the hexadecimal of a byte string, said of the places in the text and
apart from the function that writes it. Each byte has two places of its own, which are found from
its index alone; a digit too few in one of them would move all that follows.

`denotes_iff` says that there is one such text for each byte string, and that it is the one written.
-/

namespace QueryDispatch.Wire.Hex

/-- The sixteen digits in lower case, each at the place of its value. -/
def numerals : List Char :=
  ['0', '1', '2', '3', '4', '5', '6', '7', '8', '9', 'a', 'b', 'c', 'd', 'e', 'f']

/-- The text is the lower-case hexadecimal of the bytes: two digits for each byte and nothing else,
first that of its sixteens and then that of its ones. -/
structure Denotes (s : String) (b : Bytes) : Prop where
  length : s.length = 2 * b.length
  sixteens : ∀ i (hi : i < b.length), s.toList[2 * i]? = numerals[b[i].toNat / 16]?
  ones : ∀ i (hi : i < b.length), s.toList[2 * i + 1]? = numerals[b[i].toNat % 16]?

/-- The numerals are the digits in their order. -/
theorem getElem?_numerals {n : Nat} (h : n < 16) : numerals[n]? = some (digit n) := by
  have : ∀ m : Fin 16, numerals[m.val]? = some (digit m.val) := by decide
  exact this ⟨n, h⟩

/-- There are two digits to a byte. -/
theorem length_digits (b : Bytes) : (digits b).length = 2 * b.length := by
  induction b with
  | nil => rfl
  | cons x rest ih =>
    rw [digits, List.length_cons, List.length_cons, ih, List.length_cons]
    omega

/-- The digit at an even place is of the sixteens of the byte at half of it. -/
theorem getElem?_digits_even (b : Bytes) (i : Nat) :
    (digits b)[2 * i]? = b[i]?.map fun x ↦ digit (x.toNat / 16) := by
  induction b generalizing i with
  | nil => rfl
  | cons x rest ih =>
    cases i with
    | zero => rfl
    | succ i => exact ih i

/-- The digit at an odd place is of the ones. -/
theorem getElem?_digits_odd (b : Bytes) (i : Nat) :
    (digits b)[2 * i + 1]? = b[i]?.map fun x ↦ digit (x.toNat % 16) := by
  induction b generalizing i with
  | nil => rfl
  | cons x rest ih =>
    cases i with
    | zero => rfl
    | succ i => exact ih i

/-- The hexadecimal of bytes denotes them. -/
theorem denotes_encode (b : Bytes) : Denotes (encode b) b where
  length := by rw [encode, String.length_ofList, length_digits]
  sixteens i hi := by
    have hbyte := b[i].toNat_lt
    rw [encode, String.toList_ofList, getElem?_digits_even, List.getElem?_eq_getElem hi,
      getElem?_numerals (by omega), Option.map_some]
  ones i hi := by
    rw [encode, String.toList_ofList, getElem?_digits_odd, List.getElem?_eq_getElem hi,
      getElem?_numerals (by omega), Option.map_some]

/-- A notation is told by its places. -/
theorem Denotes.unique {s t : String} {b : Bytes} (hs : Denotes s b) (ht : Denotes t b) :
    s = t := by
  apply String.toList_inj.1
  have hlength : s.toList.length = 2 * b.length ∧ t.toList.length = 2 * b.length :=
    ⟨hs.length, ht.length⟩
  refine List.ext_getElem? fun place ↦ ?_
  -- a place is one of the two of the byte at half of it, or past the end of both texts
  by_cases hplace : place < 2 * b.length
  · have hi : place / 2 < b.length := by omega
    rcases Nat.mod_two_eq_zero_or_one place with heven | hodd
    · have hhalf : place = 2 * (place / 2) := by omega
      rw [hhalf, hs.sixteens _ hi, ht.sixteens _ hi]
    · have hhalf : place = 2 * (place / 2) + 1 := by omega
      rw [hhalf, hs.ones _ hi, ht.ones _ hi]
  · rw [List.getElem?_eq_none (by omega), List.getElem?_eq_none (by omega)]

/-- **What is written is the notation of the bytes, and there is no other.** -/
theorem denotes_iff {s : String} {b : Bytes} : Denotes s b ↔ s = encode b :=
  ⟨fun h ↦ h.unique (denotes_encode b), fun h ↦ h ▸ denotes_encode b⟩

end QueryDispatch.Wire.Hex
