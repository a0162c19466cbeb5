/-!
# Tables by name

A table keeps one value per name, in the order in which the names came in. Storing under a known
name replaces the value and keeps its place.
-/

namespace Wordsmith

/-- Values by name, in the order of their first insertion. -/
structure Named (α : Type) where
  entries : List (String × α)

namespace Named

variable {α : Type}

/-- The table without entries. -/
def empty : Named α := ⟨[]⟩

/-- The value in a list of entries. -/
def lookup (name : String) : List (String × α) → Option α
  | [] => none
  | (n, a) :: rest => if n = name then some a else lookup name rest

/-- The entries with the value of one name set. -/
def store (name : String) (a : α) : List (String × α) → List (String × α)
  | [] => [(name, a)]
  | (n, b) :: rest => if n = name then (n, a) :: rest else (n, b) :: store name a rest

/-- The value of a name. -/
def get? (t : Named α) (name : String) : Option α := lookup name t.entries

/-- Sets the value of a name. -/
def insert (t : Named α) (name : String) (a : α) : Named α := ⟨store name a t.entries⟩

/-- Removes a name. -/
def erase (t : Named α) (name : String) : Named α := ⟨t.entries.filter fun e => e.1 != name⟩

/-- Whether a name has a value. -/
def contains (t : Named α) (name : String) : Bool := (t.get? name).isSome

/-- Changes the value of a name, if it has one. -/
def modify (t : Named α) (name : String) (f : α → α) : Named α :=
  match t.get? name with
  | some a => t.insert name (f a)
  | none => t

/-- The names, oldest first. -/
def names (t : Named α) : List String := t.entries.map (·.1)

@[simp]
theorem get?_empty (name : String) : (empty : Named α).get? name = none := rfl

theorem lookup_store (name other : String) (a : α) (entries : List (String × α)) :
    lookup other (store name a entries) = if name = other then some a else lookup other entries := by
  induction entries with
  | nil => simp [store, lookup]
  | cons e rest ih =>
    obtain ⟨n, b⟩ := e
    by_cases hn : n = name
    · subst hn
      by_cases ho : n = other <;> simp [store, lookup, ho]
    · by_cases ho : n = other
      · subst ho
        simp [store, lookup, hn, Ne.symm hn]
      · simp [store, lookup, hn, ho, ih]

@[simp]
theorem get?_insert (t : Named α) (name other : String) (a : α) :
    (t.insert name a).get? other = if name = other then some a else t.get? other :=
  lookup_store name other a t.entries

theorem get?_insert_self (t : Named α) (name : String) (a : α) :
    (t.insert name a).get? name = some a := by simp

end Named

end Wordsmith
