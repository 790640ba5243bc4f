/-!
# Dictionaries in key order

A `Dict` is a list of entries whose keys grow strictly. `insert` keeps that order and replaces the
value of a key that is present, so two dictionaries with the same entries are the same list, and
everything that walks one meets the keys by code point.
-/

namespace SeriesQuery

/-- Entries in strictly growing key order. -/
abbrev Dict (α : Type) := List (String × α)

namespace Dict

variable {α β : Type}

/-- The value of a key. -/
def get? (d : Dict α) (key : String) : Option α :=
  match d with
  | [] => none
  | (k, v) :: rest => if k = key then some v else get? rest key

/-- Whether a key has a value. -/
def contains (d : Dict α) (key : String) : Bool := (get? d key).isSome

/-- The dictionary with one key bound to a value. -/
def insert (d : Dict α) (key : String) (value : α) : Dict α :=
  match d with
  | [] => [(key, value)]
  | (k, v) :: rest =>
    if key = k then (key, value) :: rest
    else if key < k then (key, value) :: (k, v) :: rest
    else (k, v) :: insert rest key value

/-- An inserted value is found under its key, and the other keys keep theirs. -/
theorem get?_insert (d : Dict α) (key other : String) (value : α) :
    get? (insert d key value) other = if key = other then some value else get? d other := by
  induction d with
  | nil => rfl
  | cons entry rest ih =>
      obtain ⟨k, v⟩ := entry
      rw [insert]
      split
      · next heq =>
          subst heq
          by_cases h : key = other <;> simp [get?, h]
      · next hne =>
          split
          · rfl
          · rw [get?, ih, get?]
            by_cases hk : k = other
            · subst hk
              simp [hne]
            · simp [hk]

/-- The entries of a list; of several for one key the last counts. -/
def ofList (entries : List (String × α)) : Dict α :=
  entries.foldl (fun d (k, v) => insert d k v) []

/-- All entries of `upper`, and those of `lower` whose key `upper` lacks. -/
def overlay (lower upper : Dict α) : Dict α :=
  upper.foldl (fun d (k, v) => insert d k v) lower

/-- The keys, in order. -/
def keys (d : Dict α) : List String := d.map Prod.fst

/-- The dictionary with every value mapped. -/
def mapValues (f : α → β) (d : Dict α) : Dict β := d.map fun (k, v) => (k, f v)

end Dict

end SeriesQuery
