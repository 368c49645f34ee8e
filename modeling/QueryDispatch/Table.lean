/-!
# Tables of names

Values by name, where a name given again is given anew. A table is seen through `get?`, and
`get?_insert` and `get?_erase` say all there is to say about changing it.
-/

namespace QueryDispatch

/-- Values by name. -/
structure Table (α : Type) where
  /-- The names with their values, the latest first. -/
  entries : List (String × α) := []

namespace Table

variable {α : Type}

/-- The value of a name. -/
def get? (t : Table α) (name : String) : Option α := t.entries.lookup name

/-- Takes a name out. -/
def erase (t : Table α) (name : String) : Table α := ⟨t.entries.filter (·.1 != name)⟩

/-- Gives a name a value, in place of any it had. -/
def insert (t : Table α) (name : String) (value : α) : Table α :=
  ⟨(name, value) :: (t.erase name).entries⟩

/-- What is filtered out by its name is not found, and the rest is found as before. -/
theorem lookup_filter_ne (entries : List (String × α)) (name other : String) :
    (entries.filter (·.1 != name)).lookup other =
      if other = name then none else entries.lookup other := by
  induction entries with
  | nil => simp
  | cons head rest ih =>
    obtain ⟨key, value⟩ := head
    by_cases hkey : key = name
    · subst hkey
      rw [List.filter_cons_of_neg (by simp), ih]
      by_cases hother : other = key
      · simp [hother]
      · simp [hother, List.lookup_cons, beq_eq_false_iff_ne.2 hother]
    · by_cases hother : other = key
      · subst hother
        simp [hkey]
      · simp [hkey, ih, List.lookup_cons, beq_eq_false_iff_ne.2 hother]

/-- To erase a name takes away what is found for it, and nothing else. -/
theorem get?_erase (t : Table α) (name other : String) :
    (t.erase name).get? other = if other = name then none else t.get? other :=
  lookup_filter_ne t.entries name other

/-- To insert a name changes what is found for it, and nothing else. -/
theorem get?_insert (t : Table α) (name : String) (value : α) (other : String) :
    (t.insert name value).get? other = if other = name then some value else t.get? other := by
  by_cases h : other = name
  · simp [get?, insert, h]
  · simp [get?, insert, List.lookup_cons, beq_eq_false_iff_ne.2 h, erase, lookup_filter_ne, h]

end Table

end QueryDispatch
