import Mathlib.Data.List.Nodup
import Mathlib.Data.List.Perm.Subperm
import PluginHost.Request.HeaderTable

/-!
# Header tables as maps

A table in which no name stands twice is the map of its entries: the order of the entries does not
matter to what is found under a name, and two tables are the same exactly if they have the same
entries.
-/

namespace PluginHost.HeaderTable

variable {table first second : HeaderTable} {name key value : Bytes}

def names (table : HeaderTable) : List Bytes := table.entries.map Prod.fst

theorem count_eq (table : HeaderTable) : table.count = table.names.length :=
  (List.length_map Prod.fst).symm

theorem mem_names_of_mem (member : (name, value) ∈ table.entries) : name ∈ table.names :=
  List.mem_map_of_mem member

theorem find?_cons (name value key : Bytes) (rest : List (Bytes × Bytes)) :
    find? ⟨(name, value) :: rest⟩ key = if key = name then some value else find? ⟨rest⟩ key := by
  rw [find?, List.lookup_cons]
  by_cases same : key = name
  · rw [beq_iff_eq.mpr same, if_pos same]
  · rw [beq_eq_false_iff_ne.mpr same, if_neg same]
    rfl

/-! ## Putting in an entry -/

theorem find?_insert (table : HeaderTable) (name value key : Bytes) :
    (table.insert name value).find? key = if key = name then some value else table.find? key := by
  obtain ⟨entries⟩ := table
  rw [insert]
  induction entries with
  | nil => exact find?_cons name value key []
  | cons entry rest ih =>
      obtain ⟨other, held⟩ := entry
      rw [insertEntry]
      by_cases same : other = name
      · subst same
        rw [if_pos rfl, find?_cons, find?_cons]
        split <;> rfl
      · rw [if_neg same, find?_cons, find?_cons, ih]
        by_cases here : key = other
        · subst here
          rw [if_pos rfl, if_neg same, if_pos rfl]
        · rw [if_neg here, if_neg here]

/-- A name that is there keeps its place. -/
theorem names_insert_of_mem (held : name ∈ table.names) (value : Bytes) :
    (table.insert name value).names = table.names := by
  obtain ⟨entries⟩ := table
  simp only [names, insert] at held ⊢
  induction entries with
  | nil => cases held
  | cons entry rest ih =>
      rw [insertEntry]
      by_cases same : entry.1 = name
      · rw [if_pos same, List.map_cons, List.map_cons, same]
      · have later : name ∈ rest.map Prod.fst := by
          rw [List.map_cons, List.mem_cons] at held
          exact held.resolve_left (Ne.symm same)
        rw [if_neg same, List.map_cons, List.map_cons, ih later]

/-- An entry of a new name comes last. -/
theorem insert_of_not_mem (new : name ∉ table.names) (value : Bytes) :
    table.insert name value = ⟨table.entries ++ [(name, value)]⟩ := by
  obtain ⟨entries⟩ := table
  rw [insert, mk.injEq]
  simp only [names] at new ⊢
  induction entries with
  | nil => rfl
  | cons entry rest ih =>
      rw [List.map_cons, List.mem_cons, not_or] at new
      rw [insertEntry, if_neg (Ne.symm new.1), ih new.2]
      rfl

theorem names_insert_of_not_mem (new : name ∉ table.names) (value : Bytes) :
    (table.insert name value).names = table.names ++ [name] := by
  rw [insert_of_not_mem new, names, List.map_append]
  rfl

theorem mem_names_insert :
    key ∈ (table.insert name value).names ↔ key = name ∨ key ∈ table.names := by
  by_cases held : name ∈ table.names
  · rw [names_insert_of_mem held]
    constructor
    · exact .inr
    · rintro (rfl | member)
      · exact held
      · exact member
  · rw [names_insert_of_not_mem held, List.mem_append, List.mem_singleton, or_comm]

theorem nodup_names_insert (distinct : table.names.Nodup) (name value : Bytes) :
    (table.insert name value).names.Nodup := by
  by_cases held : name ∈ table.names
  · rwa [names_insert_of_mem held]
  · rw [names_insert_of_not_mem held, ← List.concat_eq_append]
    exact distinct.concat held

/-- What is in a table after putting in an entry was there before, or is that entry. -/
theorem eq_or_mem_of_mem_insert {entry : Bytes × Bytes}
    (member : entry ∈ (table.insert name value).entries) :
    entry = (name, value) ∨ entry ∈ table.entries := by
  obtain ⟨entries⟩ := table
  rw [insert] at member
  simp only at member ⊢
  induction entries with
  | nil => exact .inl (List.mem_singleton.mp member)
  | cons other rest ih =>
      rw [insertEntry] at member
      split at member
      · rcases List.mem_cons.mp member with here | later
        · exact .inl here
        · exact .inr (List.mem_cons_of_mem _ later)
      · rcases List.mem_cons.mp member with here | later
        · exact .inr (here ▸ List.mem_cons_self)
        · exact (ih later).imp_right (List.mem_cons_of_mem _)

/-! ## Looking up -/

/-- If no name stands twice, every entry is found under its name. -/
theorem find?_eq_some_iff (distinct : table.names.Nodup) :
    table.find? key = some value ↔ (key, value) ∈ table.entries := by
  obtain ⟨entries⟩ := table
  induction entries with
  | nil => simp [find?]
  | cons entry rest ih =>
      obtain ⟨other, held⟩ := entry
      obtain ⟨new, distinctRest⟩ := List.nodup_cons.mp distinct
      rw [find?_cons, List.mem_cons]
      by_cases here : key = other
      · subst here
        have elsewhere (value : Bytes) : (key, value) ∉ rest := fun member =>
          new (@mem_names_of_mem ⟨rest⟩ _ _ member)
        simp [elsewhere, eq_comm]
      · have other_ne : (key, value) ≠ (other, held) := fun same => here (Prod.mk.inj same).1
        rw [if_neg here, ih distinctRest, or_iff_right other_ne]

theorem find?_eq_none_iff : table.find? key = none ↔ key ∉ table.names := by
  obtain ⟨entries⟩ := table
  induction entries with
  | nil => simp [find?, names]
  | cons entry rest ih =>
      obtain ⟨other, held⟩ := entry
      rw [find?_cons]
      by_cases here : key = other
      · simp [here, names]
      · rw [if_neg here, ih]
        simp [here, names]

theorem nodup_entries (distinct : table.names.Nodup) : table.entries.Nodup :=
  List.Nodup.of_map Prod.fst distinct

/-- The same names and values, in whatever order. -/
theorem same_iff (distinctFirst : first.names.Nodup) (distinctSecond : second.names.Nodup) :
    first.same second = true ↔ ∀ entry, entry ∈ first.entries ↔ entry ∈ second.entries := by
  have found (entry : Bytes × Bytes) :
      (second.find? entry.1 == some entry.2) = true ↔ entry ∈ second.entries := by
    rw [beq_iff_eq, find?_eq_some_iff distinctSecond]
  rw [same, Bool.and_eq_true, beq_iff_eq, List.all_eq_true,
    ← List.perm_ext_iff_of_nodup (nodup_entries distinctFirst) (nodup_entries distinctSecond)]
  simp only [found]
  constructor
  · rintro ⟨equallyMany, within⟩
    exact ((nodup_entries distinctFirst).subperm within).perm_of_length_le
      (Nat.le_of_eq equallyMany.symm)
  · intro perm
    exact ⟨perm.length_eq, fun entry member => perm.mem_iff.mp member⟩

end PluginHost.HeaderTable
