/-!
# The alias table

Typedefs become C# `using` aliases. The table keeps them in the order they were found, and the
first definition of an alias wins: `insert` refuses, changing nothing, an alias already present.
The view is `entries`, a list of `(alias, actual)` pairs whose aliases are pairwise distinct.
-/

namespace NativeBindings

/-- Aliases in discovery order, each alias once. -/
structure AliasTable where
  entries : List (String × String) := []
deriving Inhabited, Repr

namespace AliasTable

/-- The empty table. -/
def empty : AliasTable := {}

/-- The actual type of an alias, if the table knows it. -/
def lookup (t : AliasTable) (key : String) : Option String :=
  (t.entries.find? (fun e => e.1 == key)).map (·.2)

/-- Whether the table knows an alias. -/
def contains (t : AliasTable) (key : String) : Bool :=
  t.entries.any (fun e => e.1 == key)

/-- The number of aliases. -/
def size (t : AliasTable) : Nat := t.entries.length

/-- Adds an alias at the end; refused (`false`, table unchanged) when it is already known. -/
def insert (t : AliasTable) (key actual : String) : Bool × AliasTable :=
  if t.contains key then (false, t) else (true, ⟨t.entries ++ [(key, actual)]⟩)

/-- Adds the pairs in order, each by `insert`. -/
def ofList (pairs : List (String × String)) : AliasTable :=
  pairs.foldl (fun t p => (t.insert p.1 p.2).2) empty

theorem insert_of_contains {t : AliasTable} {key : String} (actual : String)
    (h : t.contains key = true) : t.insert key actual = (false, t) := by
  simp [insert, h]

theorem insert_of_not_contains {t : AliasTable} {key : String} (actual : String)
    (h : t.contains key = false) :
    t.insert key actual = (true, ⟨t.entries ++ [(key, actual)]⟩) := by
  simp [insert, h]

/-- Inserting keeps every entry where it stood. -/
theorem entries_prefix_insert (t : AliasTable) (key actual : String) :
    t.entries <+: (t.insert key actual).2.entries := by
  unfold insert
  split
  · exact List.prefix_refl _
  · exact List.prefix_append _ _

/-- An entry after inserting was there before or is the one inserted. -/
theorem mem_entries_insert {t : AliasTable} {key actual : String} {e : String × String}
    (h : e ∈ (t.insert key actual).2.entries) : e ∈ t.entries ∨ e = (key, actual) := by
  unfold insert at h
  split at h
  · exact .inl h
  · rcases List.mem_append.1 h with h | h
    · exact .inl h
    · exact .inr (List.mem_singleton.1 h)

end AliasTable

end NativeBindings
