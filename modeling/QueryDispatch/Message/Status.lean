/-!
# Reply status

A reply says with a 32-bit code how the query went. Three codes belong to the dispatcher; every
other code is a handler's own way to say that it failed.

The split is in the types: a `FailureCode` carries the proof that it is not one of the three, so a
handler cannot pass a failure off as one of the dispatcher's answers. `ofCode_code` and
`code_ofCode` make statuses and codes the same thing written twice.
-/

namespace QueryDispatch

namespace Status

/-- The code of a query that was answered. -/
def successCode : UInt32 := 0

/-- The code of a query whose command nobody handles. -/
def notFoundCode : UInt32 := 3

/-- The code of a message that is not a query. -/
def badStreamCode : UInt32 := 4

end Status

/-- The codes with a fixed meaning, which no handler may send as a failure. -/
def isReserved (code : UInt32) : Bool :=
  code == Status.successCode || code == Status.notFoundCode || code == Status.badStreamCode

/-- A code by which a handler reports that it failed. -/
structure FailureCode where
  value : UInt32
  unreserved : isReserved value = false
  deriving DecidableEq

namespace FailureCode

/-- The failure with this code, unless the code is reserved. -/
def ofCode? (code : UInt32) : Option FailureCode :=
  if h : isReserved code = false then some ⟨code, h⟩ else none

/-- No failure has a reserved code, and every other code is one of a failure. -/
theorem ofCode?_eq_none_iff {code : UInt32} : ofCode? code = none ↔ isReserved code = true := by
  simp [ofCode?]

end FailureCode

/-- How a query went. -/
inductive Status where
  | success
  /-- No handler for the command. -/
  | notFound
  /-- The message could not be read as a query. -/
  | badStream
  /-- The handler failed. -/
  | failure (code : FailureCode)
  deriving DecidableEq

namespace Status

/-- The code that stands for the status on the wire. -/
def code : Status → UInt32
  | .success => successCode
  | .notFound => notFoundCode
  | .badStream => badStreamCode
  | .failure c => c.value

/-- The status a code stands for; there is one for every code. -/
def ofCode (code : UInt32) : Status :=
  if h : isReserved code = false then .failure ⟨code, h⟩
  else if code = successCode then .success
  else if code = notFoundCode then .notFound
  else .badStream

/-- Whether the query was answered. -/
def isSuccess (s : Status) : Bool := s == .success

/-- The code of a status stands for that status. -/
@[simp] theorem ofCode_code (s : Status) : ofCode s.code = s := by
  cases s with
  | failure c => simp [ofCode, code, c.unreserved]
  | success | notFound | badStream => rfl

/-- Every code is the code of the status it stands for. -/
@[simp] theorem code_ofCode (c : UInt32) : (ofCode c).code = c := by
  unfold ofCode
  split
  · rfl
  · next h =>
    split
    · next h0 => exact h0.symm
    · split
      · next h3 => exact h3.symm
      · next h0 h3 => simp_all [isReserved, code]

end Status

end QueryDispatch
