import AbiBridge.Dictionary
import Mathlib.Data.List.Induction

/-!
# Looking up in dictionaries

What a dictionary binds after a binding is put into it, and the dictionary of a list of bindings.
-/

namespace AbiBridge.Dictionary

variable {α : Type}

theorem lookup_cons_eq_ite (key first : String) (old : α) (rest : List (String × α)) :
    ((first, old) :: rest).lookup key = if key = first then some old else rest.lookup key := by
  by_cases hkey : key = first
  · rw [List.lookup_cons, beq_iff_eq.mpr hkey, if_pos hkey]
  · rw [List.lookup_cons, beq_eq_false_iff_ne.mpr hkey, if_neg hkey]

@[simp] theorem lookup_insertEntry (name key : String) (value : α) (entries : List (String × α)) :
    (insertEntry name value entries).lookup key
      = if key = name then some value else entries.lookup key := by
  induction entries with
  | nil => exact lookup_cons_eq_ite key name value []
  | cons head rest ih =>
    obtain ⟨first, old⟩ := head
    rw [insertEntry]
    split
    · rw [lookup_cons_eq_ite]
    · split
      · next heq =>
        rw [lookup_cons_eq_ite, lookup_cons_eq_ite, heq]
        by_cases hkey : key = first <;> simp [hkey]
      · next hne =>
        rw [lookup_cons_eq_ite, lookup_cons_eq_ite, ih]
        by_cases hkey : key = name
        · simp [hkey, hne]
        · simp [hkey]

@[simp] theorem get?_insert (dictionary : Dictionary α) (name key : String) (value : α) :
    (dictionary.insert name value).get? key
      = if key = name then some value else dictionary.get? key :=
  lookup_insertEntry name key value dictionary.entries

theorem contains_iff_mem_names {dictionary : Dictionary α} {name : String} :
    dictionary.contains name = true ↔ name ∈ dictionary.names := by
  simp [contains, names]

@[simp] theorem isSome_get?_iff {dictionary : Dictionary α} {name : String} :
    (dictionary.get? name).isSome = true ↔ dictionary.contains name = true := by
  rw [contains, get?]
  induction dictionary.entries with
  | nil => simp
  | cons entry entries ih =>
    obtain ⟨first, value⟩ := entry
    rw [lookup_cons_eq_ite, List.any_cons]
    by_cases hname : name = first
    · simp [hname]
    · have hfirst : (first == name) = false := beq_eq_false_iff_ne.mpr (Ne.symm hname)
      rw [if_neg hname, hfirst, Bool.false_or]
      exact ih

@[simp] theorem contains_insert {dictionary : Dictionary α} {name key : String} {value : α} :
    (dictionary.insert name value).contains key = true
      ↔ key = name ∨ dictionary.contains key = true := by
  rw [← isSome_get?_iff, ← isSome_get?_iff, get?_insert]
  by_cases hkey : key = name <;> simp [hkey]

theorem get?_ofList (bindings : List (String × α)) (name : String) :
    (ofList bindings).get? name = bindings.reverse.lookup name := by
  induction bindings using List.reverseRecOn with
  | nil => rfl
  | append_singleton bindings binding ih =>
    obtain ⟨key, value⟩ := binding
    have hinsert : ofList (bindings ++ [(key, value)])
        = (ofList bindings).insert key value := by
      simp [ofList]
    rw [hinsert, get?_insert, ih, List.reverse_append, List.reverse_singleton,
      List.singleton_append, lookup_cons_eq_ite]

theorem mem_insertEntry {name : String} {value : α} {entries : List (String × α)}
    {entry : String × α} (h : entry ∈ insertEntry name value entries) :
    entry = (name, value) ∨ entry ∈ entries := by
  induction entries with
  | nil => exact .inl (List.mem_singleton.mp h)
  | cons head rest ih =>
    rw [insertEntry] at h
    split at h
    · exact List.mem_cons.mp h
    · split at h
      · exact (List.mem_cons.mp h).imp_right (List.mem_cons_of_mem _)
      · rcases List.mem_cons.mp h with rfl | h
        · exact .inr List.mem_cons_self
        · exact (ih h).imp_right (List.mem_cons_of_mem _)

theorem insertEntry_perm {name : String} {entries : List (String × α)}
    (h : name ∉ entries.map (·.1)) (value : α) :
    (insertEntry name value entries).Perm ((name, value) :: entries) := by
  induction entries with
  | nil => exact .refl _
  | cons head rest ih =>
    rw [List.map_cons, List.mem_cons, not_or] at h
    rw [insertEntry]
    split
    · exact .refl _
    · rw [if_neg h.1]
      exact ((ih h.2).cons head).trans (.swap _ _ _)

/-- Bindings for distinct names that are put into a dictionary without them stand among its
entries. -/
theorem foldl_insert_perm {bindings : List (String × α)} (h : (bindings.map (·.1)).Nodup)
    {found : Dictionary α} (hnew : ∀ name ∈ bindings.map (·.1), name ∉ found.names) :
    (bindings.foldl (fun dictionary (name, value) => dictionary.insert name value)
      found).entries.Perm (bindings ++ found.entries) := by
  induction bindings generalizing found with
  | nil => exact .refl _
  | cons binding bindings ih =>
    obtain ⟨name, value⟩ := binding
    rw [List.map_cons, List.nodup_cons] at h
    have hfresh := hnew name List.mem_cons_self
    have hinsert : (found.insert name value).entries.Perm ((name, value) :: found.entries) :=
      insertEntry_perm hfresh value
    rw [List.foldl_cons]
    refine (ih h.2 fun other hother => ?_).trans ((hinsert.append_left bindings).trans
      List.perm_middle)
    intro hmem
    rcases List.mem_cons.mp ((hinsert.map (·.1)).mem_iff.mp hmem) with rfl | hmem
    · exact h.1 hother
    · exact hnew other (List.mem_cons_of_mem _ hother) hmem

theorem mem_of_mem_foldl_insert {bindings : List (String × α)} {found : Dictionary α}
    {entry : String × α} (h : entry ∈ (bindings.foldl
      (fun dictionary (name, value) => dictionary.insert name value) found).entries) :
    entry ∈ bindings ∨ entry ∈ found.entries := by
  induction bindings generalizing found with
  | nil => exact .inr h
  | cons binding bindings ih =>
    rcases ih h with h | h
    · exact .inl (List.mem_cons_of_mem _ h)
    · exact (mem_insertEntry h).imp_left (by rintro rfl; exact List.mem_cons_self)

theorem mem_of_mem_ofList {bindings : List (String × α)} {entry : String × α}
    (h : entry ∈ (ofList bindings).entries) : entry ∈ bindings :=
  (mem_of_mem_foldl_insert h).resolve_right List.not_mem_nil

theorem ofList_perm {bindings : List (String × α)} (h : (bindings.map (·.1)).Nodup) :
    (ofList bindings).entries.Perm bindings := by
  have hnew : ∀ name ∈ bindings.map (·.1), name ∉ (empty : Dictionary α).names :=
    fun _ _ => List.not_mem_nil
  have hperm := foldl_insert_perm h hnew
  rwa [empty, List.append_nil] at hperm

theorem nodup_names (dictionary : Dictionary α) : dictionary.names.Nodup := by
  rw [names, List.nodup_iff_pairwise_ne, List.pairwise_map]
  exact dictionary.sorted.imp fun hlt => String.ne_of_lt hlt

theorem ofList_eq_of_perm {bindings : List (String × α)} {dictionary : Dictionary α}
    (h : bindings.Perm dictionary.entries) : ofList bindings = dictionary := by
  have hnames : (bindings.map (·.1)).Nodup :=
    (h.map Prod.fst).nodup_iff.mpr dictionary.nodup_names
  have hentries : (ofList bindings).entries = dictionary.entries := by
    refine List.Perm.eq_of_pairwise ?_ (ofList bindings).sorted dictionary.sorted
      ((ofList_perm hnames).trans h)
    intro a b _ _ hlt hgt
    exact absurd (String.lt_trans hlt hgt) (String.lt_irrefl _)
  cases hlist : ofList bindings
  cases dictionary
  simpa [hlist] using hentries

end AbiBridge.Dictionary
