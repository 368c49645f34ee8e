import QueryDispatch.Text.Basic
import QueryDispatch.Wire.Bytes

/-!
# The registry of handlers

Commands are bound to handlers by exact name, and the last binding of a name is the one that counts.
The bindings are kept in the byte order of their names, so the listing of the commands is the
registry itself read in order, whatever order they were attached in.

A registry is seen through `get?`: `get?_insert` says what one binding changes, and everything
about loading a list of bindings follows from it.
-/

namespace QueryDispatch

/-- Names are ordered by their UTF-8 bytes. -/
def precedes (a b : String) : Prop := Wire.utf8 a < Wire.utf8 b

/-- The order of the bytes can be looked up. -/
instance (a b : String) : Decidable (precedes a b) :=
  inferInstanceAs (Decidable (Wire.utf8 a < Wire.utf8 b))

/-- The order of names is transitive. -/
theorem precedes_trans {a b c : String} (h : precedes a b) (h' : precedes b c) : precedes a c :=
  List.lt_trans h h'

/-- No name comes before itself. -/
theorem not_precedes_self (a : String) : ¬ precedes a a := List.lt_irrefl _

/-- Of two names one comes first. -/
theorem precedes_of_not_precedes {a b : String} (h : ¬ precedes a b) (hne : a ≠ b) :
    precedes b a := by
  by_cases h' : precedes b a
  · exact h'
  · exact absurd (Wire.utf8_injective (List.le_antisymm (List.not_lt.1 h') (List.not_lt.1 h))) hne

/-- Handlers by command name, in the byte order of the names. -/
structure Registry (α : Type) where
  entries : List (String × α) := []
  sorted : entries.Pairwise (fun a b ↦ precedes a.1 b.1) := by exact .nil

namespace Registry

variable {α : Type}

/-- The registry with nothing bound. -/
def empty : Registry α := {}

/-- The handler of a command among entries. -/
def findIn (command : String) : List (String × α) → Option α
  | [] => none
  | (name, handler) :: rest => if name = command then some handler else findIn command rest

/-- Entries with one more binding, in its place or over the one of that name. -/
def insertIn (command : String) (handler : α) : List (String × α) → List (String × α)
  | [] => [(command, handler)]
  | (name, old) :: rest =>
    if name = command then (command, handler) :: rest
    else if precedes command name then (command, handler) :: (name, old) :: rest
    else (name, old) :: insertIn command handler rest

/-- After an insertion there is the new name besides the old ones. -/
theorem name_of_mem_insertIn {command : String} {handler : α} {entries : List (String × α)}
    {e : String × α} (h : e ∈ insertIn command handler entries) :
    e.1 = command ∨ e ∈ entries := by
  induction entries with
  | nil => simp_all [insertIn]
  | cons head rest ih =>
    obtain ⟨name, old⟩ := head
    unfold insertIn at h
    split at h
    · rcases List.mem_cons.1 h with rfl | h
      · exact .inl rfl
      · exact .inr (List.mem_cons_of_mem _ h)
    · split at h
      · rcases List.mem_cons.1 h with rfl | h
        · exact .inl rfl
        · exact .inr h
      · rcases List.mem_cons.1 h with rfl | h
        · exact .inr List.mem_cons_self
        · exact (ih h).imp_right (List.mem_cons_of_mem _)

/-- An insertion keeps the names in order. -/
theorem sorted_insertIn (command : String) (handler : α) {entries : List (String × α)}
    (h : entries.Pairwise (fun a b ↦ precedes a.1 b.1)) :
    (insertIn command handler entries).Pairwise (fun a b ↦ precedes a.1 b.1) := by
  induction entries with
  | nil => simp [insertIn]
  | cons head rest ih =>
    obtain ⟨name, old⟩ := head
    obtain ⟨hhead, hrest⟩ := List.pairwise_cons.1 h
    unfold insertIn
    split
    · next heq => exact List.pairwise_cons.2 ⟨fun e he ↦ heq ▸ hhead e he, hrest⟩
    · next hne =>
      split
      · next hlt =>
        refine List.pairwise_cons.2 ⟨fun e he ↦ ?_, h⟩
        rcases List.mem_cons.1 he with rfl | he
        · exact hlt
        · exact precedes_trans hlt (hhead e he)
      · next hlt =>
        refine List.pairwise_cons.2 ⟨fun e he ↦ ?_, ih hrest⟩
        rcases name_of_mem_insertIn he with hname | he
        · exact hname ▸ precedes_of_not_precedes hlt (Ne.symm hne)
        · exact hhead e he

/-- The handler of a command. -/
def get? (r : Registry α) (command : String) : Option α := findIn command r.entries

/-- Whether the command is bound. -/
def contains (r : Registry α) (command : String) : Bool := (r.get? command).isSome

/-- Binds a command, over any binding of it there was. -/
def insert (r : Registry α) (command : String) (handler : α) : Registry α where
  entries := insertIn command handler r.entries
  sorted := sorted_insertIn command handler r.sorted

/-- Binds a command and hands back the handler it had. -/
def exchange (r : Registry α) (command : String) (handler : α) : Option α × Registry α :=
  (r.get? command, r.insert command handler)

/-- Binds each command of a list in turn. -/
def insertMany (r : Registry α) (bindings : List (String × α)) : Registry α :=
  bindings.foldl (fun r b ↦ r.insert b.1 b.2) r

/-- The registry of a list of bindings. -/
def ofList (bindings : List (String × α)) : Registry α := empty.insertMany bindings

/-- The number of commands bound. -/
def size (r : Registry α) : Nat := r.entries.length

/-- Whether nothing is bound. -/
def isEmpty (r : Registry α) : Bool := r.entries.isEmpty

/-- The commands bound, in byte order. -/
def commands (r : Registry α) : List String := r.entries.map Prod.fst

/-- The registry as a dump shows it: the names of its commands, quoted. -/
def dump (r : Registry α) : String :=
  "HandlerRegistry \x7b commands: [" ++ ", ".intercalate (r.commands.map Text.quoted) ++ "] \x7d"

/-- An insertion changes what is found for its own name only. -/
theorem findIn_insertIn (command : String) (handler : α) (entries : List (String × α))
    (name : String) :
    findIn name (insertIn command handler entries) =
      if name = command then some handler else findIn name entries := by
  induction entries with
  | nil => simp [insertIn, findIn, eq_comm]
  | cons head rest ih =>
    obtain ⟨first, old⟩ := head
    unfold insertIn
    split
    · next heq =>
      subst heq
      by_cases h : name = first <;> simp [findIn, h, eq_comm]
    · split
      · rw [findIn, findIn]
        by_cases h : command = name
        · simp [h]
        · simp [h, Ne.symm h]
      · by_cases h : first = name
        · subst h
          simp_all [findIn]
        · simp [findIn, h, ih]

/-- Nothing is bound in the empty registry. -/
@[simp] theorem get?_empty (name : String) : (empty : Registry α).get? name = none := rfl

/-- **One binding changes the look-up of its own command, and of no other.** -/
theorem get?_insert (r : Registry α) (command : String) (handler : α) (name : String) :
    (r.insert command handler).get? name =
      if name = command then some handler else r.get? name :=
  findIn_insertIn command handler r.entries name

@[simp] theorem insertMany_nil (r : Registry α) : r.insertMany [] = r := rfl

@[simp] theorem insertMany_cons (r : Registry α) (b : String × α) (rest : List (String × α)) :
    r.insertMany (b :: rest) = (r.insert b.1 b.2).insertMany rest := rfl

/-- To load a list is to load its parts. -/
theorem insertMany_append (r : Registry α) (xs ys : List (String × α)) :
    r.insertMany (xs ++ ys) = (r.insertMany xs).insertMany ys := by
  simp [insertMany]

/-- **The last binding of a command counts**, and where a list has none, what was bound before. -/
theorem get?_insertMany (r : Registry α) (bindings : List (String × α)) (name : String) :
    (r.insertMany bindings).get? name =
      ((bindings.reverse.find? (·.1 = name)).map Prod.snd).or (r.get? name) := by
  induction bindings generalizing r with
  | nil => rfl
  | cons b rest ih =>
    rw [insertMany_cons, ih, get?_insert, List.reverse_cons, List.find?_append]
    cases rest.reverse.find? fun b ↦ b.1 = name with
    | none =>
      by_cases hname : name = b.1
      · simp [hname]
      · simp [hname, Ne.symm hname]
    | some last => rfl

end Registry

end QueryDispatch
