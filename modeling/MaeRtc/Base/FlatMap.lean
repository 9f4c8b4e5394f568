import Mathlib

/-!
# Maps as lists of entries

A map that is only searched by key and filtered by value, as a list of its entries.  A key
is added at the end; of several entries with a key the first one counts.
-/

namespace MaeRtc.Base.FlatMap

variable {κ ν : Type*} [DecidableEq κ]

def find (map : List (κ × ν)) (key : κ) : Option ν :=
  (map.find? fun entry => entry.1 = key).map Prod.snd

/-- A new entry, unless the key has one. -/
def emplace (map : List (κ × ν)) (key : κ) (value : ν) : List (κ × ν) :=
  if (find map key).isSome then map else map ++ [(key, value)]

/-- A value for a key, in place of the one it had. -/
def assign : List (κ × ν) → κ → ν → List (κ × ν)
  | [], key, value => [(key, value)]
  | entry :: others, key, value =>
    if entry.1 = key then (key, value) :: others else entry :: assign others key value

def values {κ ν : Type*} (map : List (κ × ν)) : List ν :=
  map.map Prod.snd

variable {map : List (κ × ν)} {key : κ} {value : ν}

theorem mem_of_find (found : find map key = some value) : (key, value) ∈ map := by
  obtain ⟨entry, isFound, rfl⟩ := Option.map_eq_some_iff.mp found
  have same : entry.1 = key := by simpa using List.find?_some isFound
  rw [← same]
  exact List.mem_of_find?_eq_some isFound

theorem mem_values_of_find (found : find map key = some value) : value ∈ values map :=
  List.mem_map_of_mem (mem_of_find found)

theorem find_eq_none_iff : find map key = none ↔ ∀ entry ∈ map, entry.1 ≠ key := by
  rw [find, Option.map_eq_none_iff, List.find?_eq_none]
  simp only [decide_eq_true_eq]

theorem find_of_mem (distinct : (map.map Prod.fst).Nodup) (member : (key, value) ∈ map) :
    find map key = some value := by
  induction map with
  | nil => cases member
  | cons entry others ih =>
    rw [List.map_cons, List.nodup_cons] at distinct
    unfold find
    by_cases same : entry.1 = key
    · rw [List.find?_cons_of_pos (by simpa using same)]
      rcases List.mem_cons.mp member with isFirst | later
      · rw [← isFirst]
        rfl
      · exact absurd (same ▸ List.mem_map_of_mem later) distinct.1
    · rw [List.find?_cons_of_neg (by simpa using same)]
      rcases List.mem_cons.mp member with isFirst | later
      · exact absurd (congrArg Prod.fst isFirst.symm) same
      · exact ih distinct.2 later

theorem emplace_of_new (isNew : find map key = none) :
    emplace map key value = map ++ [(key, value)] := by
  rw [emplace, isNew]
  rfl

theorem values_emplace : values (emplace map key value) ⊆ value :: values map := by
  unfold emplace values
  split_ifs <;> simp

theorem find_assign (other : κ) :
    find (assign map key value) other = if key = other then some value else find map other := by
  induction map with
  | nil => by_cases same : key = other <;> simp [assign, find, same]
  | cons entry others ih =>
    unfold assign
    by_cases isKey : entry.1 = key
    · by_cases same : key = other <;> simp [find, isKey, same]
    · rw [if_neg isKey]
      by_cases isOther : entry.1 = other
      · have differs : key ≠ other := fun same => isKey (isOther.trans same.symm)
        simp [find, isOther, differs]
      · simpa [find, isOther] using ih

theorem values_assign : values (assign map key value) ⊆ value :: values map := by
  unfold values
  induction map with
  | nil => simp [assign]
  | cons entry others ih =>
    unfold assign
    split_ifs
    · exact List.cons_subset_cons _ (List.subset_cons_self _ _)
    · refine List.cons_subset.mpr ⟨by simp, List.Subset.trans ih ?_⟩
      exact List.cons_subset_cons _ (List.subset_cons_self _ _)

end MaeRtc.Base.FlatMap
