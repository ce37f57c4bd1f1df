import TreeQuery.Text.Basic

/-!
# Attributes

Attributes are pairs of a name and a value in ascending order of their names, each name once.  Names
are ordered by their characters, which is also the order of their bytes in UTF-8.  Setting an
attribute replaces the value of its name; `get?_insert` says what is found afterwards.
-/

namespace TreeQuery

/-- Values under names, in ascending order of the names. -/
structure Attributes where
  entries : List (Text × Text)
  sorted : entries.Pairwise fun a b => a.1 < b.1
deriving DecidableEq, Repr

namespace Attributes

/-- No attributes. -/
def empty : Attributes := ⟨[], .nil⟩

/-- Puts a value under a name into a list of entries. -/
def insertEntry (name value : Text) : List (Text × Text) → List (Text × Text)
  | [] => [(name, value)]
  | entry :: rest =>
    if name < entry.1 then (name, value) :: entry :: rest
    else if name = entry.1 then (name, value) :: rest
    else entry :: insertEntry name value rest

/-- After an entry is put in, the entries are that one and old ones. -/
theorem mem_insertEntry {name value : Text} {entries : List (Text × Text)} {e : Text × Text}
    (h : e ∈ insertEntry name value entries) : e = (name, value) ∨ e ∈ entries := by
  induction entries with
  | nil => simpa [insertEntry] using h
  | cons entry rest ih =>
    unfold insertEntry at h
    split at h
    · simpa using h
    · split at h
      · rcases List.mem_cons.1 h with h | h
        · exact .inl h
        · exact .inr (.tail _ h)
      · rcases List.mem_cons.1 h with h | h
        · exact .inr (h ▸ .head _)
        · exact (ih h).imp id (.tail _)

/-- Entries stay in the order of their names. -/
theorem sorted_insertEntry {name value : Text} {entries : List (Text × Text)}
    (h : entries.Pairwise fun a b => a.1 < b.1) :
    (insertEntry name value entries).Pairwise fun a b => a.1 < b.1 := by
  induction entries with
  | nil => simp [insertEntry]
  | cons entry rest ih =>
    have ⟨above, tail⟩ := List.pairwise_cons.1 h
    unfold insertEntry
    split
    · rename_i hlt
      refine List.pairwise_cons.2 ⟨fun e he => ?_, h⟩
      rcases List.mem_cons.1 he with rfl | he
      · exact hlt
      · exact List.lt_trans hlt (above e he)
    · split
      · rename_i heq
        exact List.pairwise_cons.2 ⟨fun e he => heq ▸ above e he, tail⟩
      · rename_i hlt hne
        refine List.pairwise_cons.2 ⟨fun e he => ?_, ih tail⟩
        rcases mem_insertEntry he with rfl | he
        · exact Std.lt_of_le_of_ne (Std.not_lt.1 hlt) (Ne.symm hne)
        · exact above e he

/-- The attributes with `value` under `name`. -/
def insert (attributes : Attributes) (name value : Text) : Attributes :=
  ⟨insertEntry name value attributes.entries, sorted_insertEntry attributes.sorted⟩

/-- The value under a name. -/
def get? (attributes : Attributes) (name : Text) : Option Text :=
  (attributes.entries.find? fun entry => entry.1 == name).map (·.2)

/-- The names, in ascending order. -/
def names (attributes : Attributes) : List Text := attributes.entries.map (·.1)

/-- The new value is found under its name, and under every other name what was there before. -/
theorem get?_insert (attributes : Attributes) (name value key : Text) :
    (attributes.insert name value).get? key =
      if key = name then some value else attributes.get? key := by
  obtain ⟨entries, sorted⟩ := attributes
  simp only [get?, insert]
  clear sorted
  induction entries with
  | nil =>
    by_cases h : key = name
    · simp [insertEntry, h]
    · simp [insertEntry, h, Ne.symm h]
  | cons entry rest ih =>
    unfold insertEntry
    split
    · by_cases h : key = name
      · simp [h]
      · simp [List.find?_cons, h, beq_eq_false_iff_ne.2 (Ne.symm h)]
    · split
      · rename_i heq
        by_cases h : key = name
        · simp [h]
        · simp [h, ← heq, beq_eq_false_iff_ne.2 (Ne.symm h)]
      · rename_i hne
        by_cases hkey : entry.1 = key
        · simp [hkey, show key ≠ name from fun h => hne (h ▸ hkey.symm)]
        · simpa [List.find?_cons, beq_eq_false_iff_ne.2 hkey] using ih

end Attributes
end TreeQuery
