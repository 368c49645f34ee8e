import QueryDispatch.Wire.Bytes

/-!
# Hexadecimal text of bytes

A byte string is shown as two lower-case digits per byte, high half first. `decode?_encode` says
that nothing is lost: the digits read back as the bytes they show.
-/

namespace QueryDispatch.Wire.Hex

/-- The digit of a number below sixteen. -/
def digit (n : Nat) : Char :=
  if n < 10 then Char.ofNat (48 + n) else Char.ofNat (87 + n)

/-- The value of a digit, in either case. -/
def value? (c : Char) : Option Nat :=
  if '0' ≤ c ∧ c ≤ '9' then some (c.toNat - 48)
  else if 'a' ≤ c ∧ c ≤ 'f' then some (c.toNat - 87)
  else if 'A' ≤ c ∧ c ≤ 'F' then some (c.toNat - 55)
  else none

/-- The two digits of each byte in turn. -/
def digits : Bytes → List Char
  | [] => []
  | b :: rest => digit (b.toNat / 16) :: digit (b.toNat % 16) :: digits rest

/-- The bytes whose digits these are; an odd digit out has no reading. -/
def ofDigits? : List Char → Option Bytes
  | [] => some []
  | [_] => none
  | h :: l :: rest => do
    let high ← value? h
    let low ← value? l
    let tail ← ofDigits? rest
    return .ofNat (16 * high + low) :: tail

/-- The text of a byte string. -/
def encode (b : Bytes) : String := String.ofList (digits b)

/-- The byte string of a text. -/
def decode? (s : String) : Option Bytes := ofDigits? s.toList

/-- A digit has the value it stands for. -/
theorem value?_digit {n : Nat} (h : n < 16) : value? (digit n) = some n := by
  have : ∀ m : Fin 16, value? (digit m) = some m.val := by decide
  exact this ⟨n, h⟩

/-- Bytes read back from their digits. -/
theorem ofDigits?_digits (b : Bytes) : ofDigits? (digits b) = some b := by
  induction b with
  | nil => rfl
  | cons x rest ih =>
    have hx := x.toNat_lt
    have hhigh : value? (digit (x.toNat / 16)) = some (x.toNat / 16) := value?_digit (by omega)
    have hlow : value? (digit (x.toNat % 16)) = some (x.toNat % 16) := value?_digit (by omega)
    have hbyte : UInt8.ofNat (16 * (x.toNat / 16) + x.toNat % 16) = x := by
      rw [Nat.div_add_mod, UInt8.ofNat_toNat]
    rw [digits, ofDigits?, hhigh, hlow, ih]
    exact congrArg (fun b ↦ some (b :: rest)) hbyte

/-- Bytes read back from their hexadecimal. -/
@[simp] theorem decode?_encode (b : Bytes) : decode? (encode b) = some b := by
  simp [decode?, encode, ofDigits?_digits]

end QueryDispatch.Wire.Hex
