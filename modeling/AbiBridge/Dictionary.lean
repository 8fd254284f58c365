/-!
# Dictionaries

Finite maps from names, kept as lists of entries in increasing order of their
names. The order of strings is that of their code points, so two dictionaries
with the same contents are the same list.
-/

namespace AbiBridge

/-- A finite map from names; the entries stand in increasing order of the names. -/
structure Dictionary (α : Type) where
  entries : List (String × α)
  sorted : entries.Pairwise fun a b => a.1 < b.1

namespace Dictionary

variable {α β : Type}

def empty : Dictionary α := ⟨[], .nil⟩

instance : Inhabited (Dictionary α) := ⟨empty⟩

/-- Put a value at its place in a sorted list of entries. -/
def insertEntry (name : String) (value : α) : List (String × α) → List (String × α)
  | [] => [(name, value)]
  | (key, old) :: rest =>
    if name < key then (name, value) :: (key, old) :: rest
    else if name = key then (name, value) :: rest
    else (key, old) :: insertEntry name value rest

theorem fst_mem_insertEntry {name : String} {value : α} {entries : List (String × α)}
    {entry : String × α} (h : entry ∈ insertEntry name value entries) :
    entry.1 = name ∨ entry ∈ entries := by
  induction entries with
  | nil => simp_all [insertEntry]
  | cons head rest ih =>
    simp only [insertEntry] at h
    split at h
    · rcases List.mem_cons.1 h with rfl | h
      · exact .inl rfl
      · exact .inr h
    · split at h
      · rcases List.mem_cons.1 h with rfl | h
        · exact .inl rfl
        · exact .inr (.tail _ h)
      · rcases List.mem_cons.1 h with rfl | h
        · exact .inr (.head _)
        · exact (ih h).imp_right (.tail _)

theorem sorted_insertEntry {entries : List (String × α)}
    (sorted : entries.Pairwise fun a b => a.1 < b.1) (name : String) (value : α) :
    (insertEntry name value entries).Pairwise fun a b => a.1 < b.1 := by
  induction entries with
  | nil => simp [insertEntry]
  | cons head rest ih =>
    obtain ⟨first, tail⟩ := List.pairwise_cons.1 sorted
    simp only [insertEntry]
    split
    · next lt =>
      refine List.pairwise_cons.2 ⟨fun entry mem => ?_, sorted⟩
      rcases List.mem_cons.1 mem with rfl | mem
      · exact lt
      · exact String.lt_trans lt (first entry mem)
    · next notLt =>
      split
      · next eq =>
        subst eq
        exact List.pairwise_cons.2 ⟨first, tail⟩
      · next ne =>
        refine List.pairwise_cons.2 ⟨fun entry mem => ?_, ih tail⟩
        rcases fst_mem_insertEntry mem with rfl | mem
        · exact String.not_le.1 fun le => ne (String.le_antisymm le (String.not_lt.1 notLt))
        · exact first entry mem

/-- Bind a name, in place of what it was bound to. -/
def insert (dictionary : Dictionary α) (name : String) (value : α) : Dictionary α :=
  ⟨insertEntry name value dictionary.entries, sorted_insertEntry dictionary.sorted name value⟩

/-- The dictionary of a list of bindings; of two for one name the later counts. -/
def ofList (bindings : List (String × α)) : Dictionary α :=
  bindings.foldl (fun dictionary (name, value) => dictionary.insert name value) empty

def get? (dictionary : Dictionary α) (name : String) : Option α :=
  dictionary.entries.lookup name

def contains (dictionary : Dictionary α) (name : String) : Bool :=
  dictionary.entries.any (·.1 == name)

def names (dictionary : Dictionary α) : List String :=
  dictionary.entries.map (·.1)

end Dictionary

end AbiBridge
