set_option autoImplicit false

/-!
Mappings as lists of entries in the order of their first writing. Putting a key that is present
keeps its position; what is written one after the other has every key once.
-/

namespace Schemata

/-- A key keeps its first position and takes its last value. -/
def putEntry {κ α : Type} [BEq κ] (key : κ) (value : α) : List (κ × α) → List (κ × α)
  | [] => [(key, value)]
  | (k, v) :: rest => if k == key then (k, value) :: rest else (k, v) :: putEntry key value rest

/-- The mapping that pairs describe when written one after the other. -/
def entriesOf {κ α : Type} [BEq κ] (pairs : List (κ × α)) : List (κ × α) :=
  pairs.foldl (fun entries pair => putEntry pair.1 pair.2 entries) []

def DistinctKeys {κ α : Type} (entries : List (κ × α)) : Prop := (entries.map Prod.fst).Nodup

section Lawful

variable {κ α : Type} [DecidableEq κ]

theorem lookup_put_entry (key name : κ) (value : α) (entries : List (κ × α)) :
    (putEntry key value entries).lookup name =
      if name = key then some value else entries.lookup name := by
  induction entries with
  | nil =>
      by_cases same : name = key
      · simp [putEntry, same]
      · have different : (name == key) = false := beq_eq_false_iff_ne.mpr same
        simp [putEntry, List.lookup_cons, different, same]
  | cons entry rest hypothesis =>
      obtain ⟨k, v⟩ := entry
      by_cases here : k = key
      · subst here
        by_cases same : name = k
        · simp [putEntry, same]
        · have different : (name == k) = false := beq_eq_false_iff_ne.mpr same
          simp [putEntry, List.lookup_cons, different, same]
      · rw [putEntry, if_neg (by simpa using here), List.lookup_cons, List.lookup_cons, hypothesis]
        by_cases same : name = k
        · subst same
          simp [here]
        · have different : (name == k) = false := beq_eq_false_iff_ne.mpr same
          rw [different]

theorem put_entry_keys (key : κ) (value : α) (entries : List (κ × α)) :
    (putEntry key value entries).map Prod.fst =
      if key ∈ entries.map Prod.fst then entries.map Prod.fst else entries.map Prod.fst ++ [key] := by
  induction entries with
  | nil => simp [putEntry]
  | cons entry rest hypothesis =>
      obtain ⟨k, v⟩ := entry
      by_cases here : k = key
      · simp [putEntry, here]
      · rw [putEntry, if_neg (by simpa using here), List.map_cons, hypothesis]
        by_cases later : key ∈ rest.map Prod.fst
        · simp [later]
        · simp [later, Ne.symm here]

theorem distinct_put_entry (key : κ) (value : α) (entries : List (κ × α))
    (distinct : DistinctKeys entries) : DistinctKeys (putEntry key value entries) := by
  unfold DistinctKeys at distinct ⊢
  rw [put_entry_keys]
  by_cases present : key ∈ entries.map Prod.fst
  · rw [if_pos present]
    exact distinct
  · rw [if_neg present, List.nodup_append]
    refine ⟨distinct, by simp, ?_⟩
    intro a inEntries b isKey same
    rw [List.mem_singleton] at isKey
    exact present (isKey ▸ same ▸ inEntries)

theorem distinct_entries_of (pairs : List (κ × α)) : DistinctKeys (entriesOf pairs) := by
  suffices kept : ∀ entries : List (κ × α), DistinctKeys entries →
      DistinctKeys (pairs.foldl (fun entries pair => putEntry pair.1 pair.2 entries) entries) from
    kept [] (by simp [DistinctKeys])
  induction pairs with
  | nil => exact fun entries distinct => distinct
  | cons pair rest hypothesis =>
      intro entries distinct
      exact hypothesis _ (distinct_put_entry pair.1 pair.2 entries distinct)

end Lawful

end Schemata
