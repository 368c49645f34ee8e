import Mathlib.Data.List.Forall2
import Mathlib.Data.Nat.Digits.Defs
import QueryDispatch.Text.Basic

/-!
# What the texts of settings say

A setting is a number, a keyword or an address. What such texts say is set down here apart from the
functions that read them: numbers by decimal notation, in which the weight of a digit depends on how
many follow it; keywords letter by letter; and white space by its code points.

A reader of digits goes through them from the first to the last and cannot know the weight of a
digit when it comes to it. What it has read so far is worth ten times as much with each digit that
follows, which is what carries the induction (`continue?_eq_some_iff`).

## Main results

* `Number.parse?_eq_some_iff`: what is read as a number is what denotes it, at any length.
* `sameIgnoringCase_iff`: a keyword is recognised in either case of each of its letters.
* `isBlank_iff`: a text is blank when nothing but white space is in it.
-/

namespace QueryDispatch.Text

/-! ### Numbers -/

namespace Number

/-- The character that stands for a number below ten. -/
def digit (n : Fin 10) : Char := Char.ofNat (48 + n.val)

/-- The number that digits stand for, the first of which weighs the most. -/
def value (digits : List (Fin 10)) : Nat := Nat.ofDigits 10 (digits.reverse.map Fin.val)

/-- The text is a numeral of the number: digits, at least one, with a plus sign before them or
not. -/
def Denotes (s : String) (n : Nat) : Prop :=
  ∃ digits : List (Fin 10), digits ≠ [] ∧ value digits = n ∧
    (s.toList = digits.map digit ∨ s.toList = '+' :: digits.map digit)

/-- The first digit counts most. -/
theorem value_cons (n : Fin 10) (digits : List (Fin 10)) :
    value (n :: digits) = n.val * 10 ^ digits.length + value digits := by
  rw [value, value, List.reverse_cons, List.map_append, Nat.ofDigits_append, List.map_singleton,
    Nat.ofDigits_singleton, List.length_map, List.length_reverse, Nat.mul_comm, Nat.add_comm]

/-- A digit reads as its value. -/
theorem digit?_digit (n : Fin 10) : digit? (digit n) = some n.val := by
  revert n
  decide

/-- No digit is the plus sign. -/
theorem digit_ne_plus (n : Fin 10) : digit n ≠ '+' := by
  revert n
  decide

/-- A character reads as a digit if and only if it is one. -/
theorem digit?_eq_some_iff {c : Char} {v : Nat} :
    digit? c = some v ↔ ∃ n : Fin 10, digit n = c ∧ n.val = v := by
  constructor
  · intro h
    rw [digit?] at h
    split at h
    · next hdigit =>
      have hlower : 48 ≤ c.toNat := hdigit.1
      have hupper : c.toNat ≤ 57 := hdigit.2
      refine ⟨⟨c.toNat - 48, by omega⟩, ?_, Option.some.inj h⟩
      rw [digit, Nat.add_sub_cancel' hlower, Char.ofNat_toNat]
    · cases h
  · rintro ⟨n, rfl, rfl⟩
    exact digit?_digit n

/-- What has been read is worth ten times as much with each further digit. -/
theorem continue?_eq_some_iff {cs : List Char} {before v : Nat} :
    continue? before cs = some v ↔ ∃ digits : List (Fin 10),
      cs = digits.map digit ∧ before * 10 ^ digits.length + value digits = v := by
  induction cs generalizing before with
  | nil =>
    rw [continue?, Option.some.injEq]
    constructor
    · rintro rfl
      exact ⟨[], rfl, Nat.mul_one before⟩
    · rintro ⟨digits, hnil, rfl⟩
      obtain rfl := List.map_eq_nil_iff.1 hnil.symm
      exact (Nat.mul_one before).symm
  | cons c rest ih =>
    have hweight (n : Fin 10) (digits : List (Fin 10)) :
        (10 * before + n.val) * 10 ^ digits.length + value digits =
          before * 10 ^ (n :: digits).length + value (n :: digits) := by
      rw [value_cons, List.length_cons, Nat.pow_succ]
      ring
    rw [continue?, Option.bind_eq_bind, Option.bind_eq_some_iff]
    constructor
    · rintro ⟨w, hdigit, hrest⟩
      obtain ⟨n, rfl, rfl⟩ := digit?_eq_some_iff.1 hdigit
      obtain ⟨digits, rfl, rfl⟩ := ih.1 hrest
      exact ⟨n :: digits, rfl, (hweight n digits).symm⟩
    · rintro ⟨digits, hcons, rfl⟩
      obtain ⟨n, digits, rfl, rfl, rfl⟩ := List.map_eq_cons_iff.1 hcons.symm
      exact ⟨n.val, digit?_digit n, ih.2 ⟨digits, rfl, hweight n digits⟩⟩

/-- Characters read as a number if and only if they are its digits. -/
theorem ofDigits?_eq_some_iff {cs : List Char} {v : Nat} :
    ofDigits? cs = some v ↔ ∃ digits : List (Fin 10),
      digits ≠ [] ∧ value digits = v ∧ cs = digits.map digit := by
  rcases cs with - | ⟨c, rest⟩
  · refine ⟨nofun, ?_⟩
    rintro ⟨digits, hne, -, hnil⟩
    exact absurd (List.map_eq_nil_iff.1 hnil.symm) hne
  · show continue? 0 (c :: rest) = some v ↔ _
    rw [continue?_eq_some_iff]
    constructor
    · rintro ⟨digits, hcs, hv⟩
      refine ⟨digits, ?_, ?_, hcs⟩
      · rintro rfl
        cases hcs
      · rwa [Nat.zero_mul, Nat.zero_add] at hv
    · rintro ⟨digits, -, hv, hcs⟩
      refine ⟨digits, hcs, ?_⟩
      rwa [Nat.zero_mul, Nat.zero_add]

/-- At most one plus sign is passed over, and no digit is one. -/
theorem unsigned_eq_iff {cs : List Char} {digits : List (Fin 10)} (hne : digits ≠ []) :
    unsigned cs = digits.map digit ↔
      cs = digits.map digit ∨ cs = '+' :: digits.map digit := by
  obtain ⟨n, rest, rfl⟩ := List.exists_cons_of_ne_nil hne
  unfold unsigned
  split
  · next rest' =>
    have hplus : '+' :: rest' ≠ (n :: rest).map digit := fun h ↦
      digit_ne_plus n (List.cons.inj h).1.symm
    rw [List.cons.injEq, eq_self, true_and, or_iff_right hplus]
  · next cs hnoplus =>
    exact (or_iff_left fun h ↦ hnoplus _ h).symm

/-- **What is read as a number is what denotes it**, up to the largest that is allowed. -/
theorem parse?_eq_some_iff {largest n : Nat} {s : String} :
    parse? largest s = some n ↔ Denotes s n ∧ n ≤ largest := by
  have hofDigits : ofDigits? (unsigned s.toList) = some n ↔ Denotes s n := by
    rw [ofDigits?_eq_some_iff, Denotes]
    refine exists_congr fun digits ↦ and_congr_right fun hne ↦ ?_
    rw [unsigned_eq_iff hne]
  rw [← hofDigits, parse?, Option.bind_eq_bind, Option.bind_eq_some_iff]
  constructor
  · rintro ⟨v, hv, hle⟩
    split at hle
    · next hfits =>
      obtain rfl := Option.some.inj hle
      exact ⟨hv, hfits⟩
    · cases hle
  · rintro ⟨hn, hfits⟩
    exact ⟨n, hn, if_pos hfits⟩

/-- The value decides what is too large, and not the number of digits. -/
example : parse? 255 "+0000255" = some 255 ∧ parse? 255 "256" = none := by decide +kernel

end Number

/-! ### Keywords -/

/-- Of the code points, only those of capital letters are moved by `toLower`. -/
theorem toNat_toLower (c : Char) :
    c.toLower.toNat = if 65 ≤ c.toNat ∧ c.toNat ≤ 90 then c.toNat + 32 else c.toNat := by
  have hcapital : (c.val ≥ 'A'.val ∧ c.val ≤ 'Z'.val) = (65 ≤ c.toNat ∧ c.toNat ≤ 90) := rfl
  unfold Char.toLower
  split
  · next h =>
    rw [hcapital] at h
    have hadd : (c.val + ('a'.val - 'A'.val)).toNat = (c.toNat + 32) % UInt32.size :=
      UInt32.toNat_add ..
    rw [if_pos h]
    refine hadd.trans (Nat.mod_eq_of_lt ?_)
    rw [UInt32.size]
    omega
  · next h =>
    rw [hcapital] at h
    rw [if_neg h]

/-- Of the code points, only those of small letters are moved by `toUpper`. -/
theorem toNat_toUpper (c : Char) :
    c.toUpper.toNat = if 97 ≤ c.toNat ∧ c.toNat ≤ 122 then c.toNat - 32 else c.toNat := by
  have hsmall : ('a'.val ≤ c.val ∧ c.val ≤ 'z'.val) = (97 ≤ c.toNat ∧ c.toNat ≤ 122) := rfl
  unfold Char.toUpper
  split
  · next h =>
    rw [hsmall] at h
    have hadd : (c.val + ('A'.val - 'a'.val)).toNat = (c.toNat + 4294967264) % UInt32.size :=
      UInt32.toNat_add ..
    rw [if_pos h]
    refine hadd.trans ?_
    rw [UInt32.size]
    omega
  · next h =>
    rw [hsmall] at h
    rw [if_neg h]

/-- A small letter is the lower case of itself and of its capital. -/
theorem toLower_eq_iff {c l : Char} (hl : 'a' ≤ l ∧ l ≤ 'z') :
    c.toLower = l ↔ c = l ∨ c = l.toUpper := by
  have hsmall : 97 ≤ l.toNat ∧ l.toNat ≤ 122 := hl
  rw [← Char.toNat_inj, ← Char.toNat_inj, ← Char.toNat_inj, toNat_toLower, toNat_toUpper,
    if_pos hsmall]
  split <;> omega

/-- A small letter is its own small letter. -/
theorem toLower_self {l : Char} (hl : 'a' ≤ l ∧ l ≤ 'z') : l.toLower = l :=
  (toLower_eq_iff hl).2 (.inl rfl)

/-- **A keyword is recognised in either case of each of its letters.** -/
theorem sameIgnoringCase_iff {s keyword : String}
    (hkeyword : ∀ l ∈ keyword.toList, 'a' ≤ l ∧ l ≤ 'z') :
    sameIgnoringCase s keyword = true ↔
      List.Forall₂ (fun c l ↦ c = l ∨ c = l.toUpper) s.toList keyword.toList := by
  rw [sameIgnoringCase, beq_iff_eq]
  generalize s.toList = cs
  generalize keyword.toList = letters at hkeyword ⊢
  induction letters generalizing cs with
  | nil => rw [List.map_nil, List.map_eq_nil_iff, List.forall₂_nil_right_iff]
  | cons l rest ih =>
    obtain ⟨hl, hrest⟩ := List.forall_mem_cons.1 hkeyword
    rcases cs with - | ⟨c, cs⟩
    · constructor <;> intro h <;> cases h
    · rw [List.map_cons, List.map_cons, List.cons.injEq, List.forall₂_cons, ih cs hrest,
        toLower_self hl, toLower_eq_iff hl]

/-! ### White space -/

/-- The code points of white space. -/
def whiteSpace : List Nat :=
  [0x9, 0xA, 0xB, 0xC, 0xD, 0x20, 0x85, 0xA0, 0x1680, 0x2000, 0x2001, 0x2002, 0x2003, 0x2004,
    0x2005, 0x2006, 0x2007, 0x2008, 0x2009, 0x200A, 0x2028, 0x2029, 0x202F, 0x205F, 0x3000]

/-- White space is what the list of code points says. -/
theorem isSpace_iff {c : Char} : isSpace c = true ↔ c.toNat ∈ whiteSpace := by
  simp only [isSpace, whiteSpace, Bool.or_eq_true, Bool.and_eq_true, decide_eq_true_eq, beq_iff_eq,
    List.mem_cons, List.not_mem_nil, or_false]
  omega

/-- Nothing but white space is in the text. -/
def Blank (s : String) : Prop := ∀ c ∈ s.toList, c.toNat ∈ whiteSpace

/-- A text is blank if all its characters are white space. -/
theorem isBlank_iff {s : String} : isBlank s = true ↔ Blank s := by
  rw [isBlank, List.all_eq_true]
  exact forall₂_congr fun _ _ ↦ isSpace_iff

end QueryDispatch.Text
