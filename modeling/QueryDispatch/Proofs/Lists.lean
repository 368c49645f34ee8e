/-!
# Lists that grow at the end or change in one place

Links, dealers and workers are kept in lists and go by their place there. Nobody is ever removed: a
list grows at its end, so a place keeps what it has, or what is in one place changes. These are the
facts about such lists that the library does not have.
-/

namespace QueryDispatch

section Lists

variable {α β : Type} {xs : List α} {i : Nat} {a : α} {f g : α → α}

/-- What has a place in a list keeps it when the list grows. -/
theorem getElem?_append_of_eq_some (h : xs[i]? = some a) (more : List α) :
    (xs ++ more)[i]? = some a :=
  (List.getElem?_append_left (List.getElem?_eq_some_iff.1 h).1).trans h

/-- A change matters only for what it is made to. -/
theorem modify_congr (h : xs[i]? = some a) (hfg : f a = g a) : xs.modify i f = xs.modify i g := by
  refine List.ext_getElem? fun j ↦ ?_
  rw [List.getElem?_modify, List.getElem?_modify]
  by_cases hj : i = j
  · subst hj
    rw [h]
    simp [hfg]
  · simp [hj]

theorem modify_of_eq (h : xs[i]? = some a) (hf : f a = a) : xs.modify i f = xs := by
  rw [modify_congr (g := id) h hf, List.modify_id]

/-- A change of what was added last. -/
theorem modify_concat_length (xs : List α) (a : α) (f : α → α) :
    (xs ++ [a]).modify xs.length f = xs ++ [f a] := by
  induction xs with
  | nil => rfl
  | cons x rest ih => exact congrArg (x :: ·) ih

/-- A view of a list that changed, if what changed can be told from its view. -/
theorem map_modify {view : α → β} {f' : β → β}
    (h : ∀ x, xs[i]? = some x → view (f x) = f' (view x)) :
    (xs.modify i f).map view = (xs.map view).modify i f' := by
  induction xs generalizing i with
  | nil => rw [List.modify_nil, List.map_nil, List.modify_nil]
  | cons first rest ih =>
    rcases i with - | i
    · rw [List.modify_zero_cons, List.map_cons, List.map_cons, List.modify_zero_cons, h first rfl]
    · rw [List.modify_succ_cons, List.map_cons, List.map_cons, List.modify_succ_cons, ih h]

end Lists

end QueryDispatch
