import Geoflow.Json.Basic

set_option autoImplicit false

namespace Geoflow.Json

variable {α : Type}

theorem lookup_cons_eq_ite (first name : String) (value : α) (rest : List (String × α)) :
    ((first, value) :: rest).lookup name =
      if name = first then some value else rest.lookup name := by
  rw [List.lookup_cons]
  by_cases same : name = first
  · rw [if_pos same, beq_iff_eq.mpr same]
  · rw [if_neg same, beq_eq_false_iff_ne.mpr same]

theorem lookup_insertEntry (name other : String) (value : α) (entries : List (String × α)) :
    (insertEntry name value entries).lookup other =
      if other = name then some value else entries.lookup other := by
  induction entries with
  | nil => rw [insertEntry, lookup_cons_eq_ite]
  | cons entry rest ih =>
    obtain ⟨first, kept⟩ := entry
    rw [insertEntry]
    by_cases before : name < first
    · rw [if_pos before, lookup_cons_eq_ite]
    · rw [if_neg before]
      by_cases equal : name = first
      · rw [if_pos equal, lookup_cons_eq_ite, lookup_cons_eq_ite, ← equal]
        by_cases same : other = name
        · rw [if_pos same, if_pos same]
        · rw [if_neg same, if_neg same, if_neg same]
      · rw [if_neg equal, lookup_cons_eq_ite, lookup_cons_eq_ite, ih]
        by_cases same : other = first
        · have apart : other ≠ name := fun found => equal (found.symm.trans same)
          rw [if_pos same, if_neg apart, if_pos same]
        · rw [if_neg same, if_neg same]

theorem lookup_foldl_insertEntry (entries sorted : List (String × α)) (name : String) :
    (entries.foldl (fun sorted entry => insertEntry entry.1 entry.2 sorted) sorted).lookup name =
      (entries.reverse ++ sorted).lookup name := by
  induction entries generalizing sorted with
  | nil => rfl
  | cons entry rest ih =>
    rw [List.foldl_cons, ih, List.reverse_cons, List.append_assoc, List.lookup_append,
      List.lookup_append, lookup_insertEntry, List.singleton_append, lookup_cons_eq_ite]

/-- The entries of an object, the last one of each name. -/
theorem get?_ofEntries (entries : List (String × Json)) (name : String) :
    (ofEntries entries).get? name = entries.reverse.lookup name := by
  have looked := lookup_foldl_insertEntry entries [] name
  rwa [List.append_nil] at looked

end Geoflow.Json
