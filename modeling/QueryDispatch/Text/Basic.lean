import QueryDispatch.Text.Characters

/-!
# Reading and showing text

Settings and filters are read from text, and commands are shown in it. What that takes
of text as such is here: blank texts, keywords, numbers, and texts between quotes.
-/

namespace QueryDispatch.Text

/-- A text of white space only; the empty text is one. -/
def isBlank (s : String) : Bool := s.toList.all isSpace

/-- Whether two texts agree up to the case of their ASCII letters. Keywords are recognised so: they
are ASCII, so a letter of another script never stands for one of theirs. -/
def sameIgnoringCase (a b : String) : Bool :=
  a.toList.map Char.toLower == b.toList.map Char.toLower

/-!
### Unsigned numbers

A number is written as an optional plus sign and at least one ASCII digit; leading zeros are allowed
at any length, so the value and not the number of digits decides what is too large.

`parse?` reads exactly that form, up to a largest value. `ofDigits?` reads the digits alone and is
what statements about the value refer to.
-/

namespace Number

/-- The value of an ASCII digit. -/
def digit? (c : Char) : Option Nat :=
  if '0' ≤ c ∧ c ≤ '9' then some (c.toNat - 48) else none

/-- Reads further digits behind the value read so far. -/
def continue? : Nat → List Char → Option Nat
  | value, [] => some value
  | value, c :: rest => do continue? (10 * value + (← digit? c)) rest

/-- The value of a non-empty run of digits. -/
def ofDigits? : List Char → Option Nat
  | [] => none
  | digits => continue? 0 digits

/-- The digits of a number, without the plus sign it may start with. -/
def unsigned : List Char → List Char
  | '+' :: rest => rest
  | digits => digits

/-- The number a text writes, if it is at most `largest`. -/
def parse? (largest : Nat) (s : String) : Option Nat := do
  let value ← ofDigits? (unsigned s.toList)
  if value ≤ largest then some value else none

end Number

/-!
### Quoted text

A text is quoted so that every character of it can be told from what is printed: what would not
show, or would change how its neighbours show, is written as an escape. Tab, carriage return, line
feed and NUL have escapes of their own; a quote and a backslash take a backslash; anything else that
is not printable is its code point in braces, in lower-case hexadecimal without leading zeros.
-/

/-- A character as it stands inside quotes. -/
def escape (c : Char) : List Char :=
  match c with
  | '\x00' => ['\\', '0']
  | '\t' => ['\\', 't']
  | '\r' => ['\\', 'r']
  | '\n' => ['\\', 'n']
  | '"' => ['\\', '"']
  | '\\' => ['\\', '\\']
  | c =>
    if isPrintable c then [c]
    else ['\\', 'u', '\x7b'] ++ Nat.toDigits 16 c.toNat ++ ['\x7d']

/-- A text between quotes. -/
def quoted (s : String) : String :=
  String.ofList (['"'] ++ s.toList.flatMap escape ++ ['"'])

end QueryDispatch.Text
