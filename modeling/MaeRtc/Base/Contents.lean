import MaeRtc.Base.OrderedMap

/-!
# Contents of maps as multisets

What a map holds, without regard to order, and what the values of a map hold
together.  An update of a map is compared with the map without the updated key.
-/

namespace MaeRtc.Base.OrderedMap

open Std (ExtTreeMap LawfulEqOrd TransOrd)

variable {κ ν μ α : Type*} [Ord κ] [TransOrd κ] {entries : ExtTreeMap κ ν}

@[simp] theorem contents_empty : contents (∅ : ExtTreeMap κ ν) = 0 := by
  simp [contents]

theorem contents_filter (entries : ExtTreeMap κ ν) (wanted : κ → ν → Bool) :
    contents (entries.filter wanted) =
      (contents entries).filter fun entry => wanted entry.1 entry.2 = true := by
  rw [contents, contents, ExtTreeMap.toList_filter, Multiset.filter_coe]
  simp

theorem contents_map (entries : ExtTreeMap κ ν) (change : κ → ν → μ) :
    contents (entries.map change) =
      (contents entries).map fun entry => (entry.1, change entry.1 entry.2) := by
  rw [contents, contents, ExtTreeMap.toList_map, Multiset.map_coe]

/-! ## What the values hold -/

/-- All that the values of a map hold. -/
def gather (holds : ν → Multiset α) (entries : ExtTreeMap κ ν) : Multiset α :=
  (contents entries).bind fun entry => holds entry.2

variable {holds : ν → Multiset α}

@[simp] theorem gather_empty : gather holds (∅ : ExtTreeMap κ ν) = 0 := by
  simp [gather]

theorem gather_filter (entries : ExtTreeMap κ ν) (wanted : κ → Bool) :
    gather holds entries = gather holds (entries.filter fun key _ => wanted key) +
      gather holds (entries.filter fun key _ => !wanted key) := by
  rw [gather, gather, gather, contents_filter, contents_filter, ← Multiset.add_bind]
  congr 1
  simp only [Bool.not_eq_eq_eq_not, Bool.not_true, Bool.eq_false_iff]
  exact (Multiset.filter_add_not _ _).symm

/-- The values that are not wanted are listed, in the order of their keys. -/
theorem gather_eq_flatten_add (listed : ν → List α) (entries : ExtTreeMap κ ν) (wanted : κ → Bool) :
    gather (fun value => (listed value : Multiset α)) entries =
      ((entries.toList.filter fun entry => !wanted entry.1).map
        fun entry => listed entry.2).flatten +
      gather (fun value => (listed value : Multiset α))
        (entries.filter fun key _ => wanted key) := by
  rw [gather_filter entries wanted, add_comm]
  congr 1
  rw [gather, contents, ExtTreeMap.toList_filter]
  exact Multiset.coe_bind _ _

theorem gather_map {holdsAfter : μ → Multiset α} (entries : ExtTreeMap κ ν)
    (change : κ → ν → μ) :
    gather holdsAfter (entries.map change) =
      (contents entries).bind fun entry => holdsAfter (change entry.1 entry.2) := by
  rw [gather, contents_map, Multiset.bind_map]

/-- Something is taken out of every value of a map. -/
theorem gather_eq_flatten_add_map {holdsAfter : μ → Multiset α}
    (entries : ExtTreeMap κ ν) (listed : ν → List α) (change : ν → μ)
    (parts : ∀ value, holds value = listed value + holdsAfter (change value)) :
    gather holds entries = (entries.toList.map fun entry => listed entry.2).flatten +
      gather holdsAfter (entries.map fun _ value => change value) := by
  rw [gather_map, gather]
  simp only [parts]
  rw [Multiset.bind_add]
  congr 1
  exact Multiset.coe_bind _ _

/-- The values change, but not what they hold. -/
theorem gather_map_of_eq {change : ν → ν} (same : ∀ value, holds (change value) = holds value) :
    gather holds (entries.map fun _ value => change value) = gather holds entries := by
  rw [gather_map, gather]
  simp only [same]

/-! ## Lookups -/

variable [LawfulEqOrd κ]

theorem mem_toList {entry : κ × ν} : entry ∈ entries.toList ↔ entries[entry.1]? = some entry.2 :=
  ExtTreeMap.mem_toList_iff_getElem?_eq_some

theorem mem_contents {entry : κ × ν} :
    entry ∈ contents entries ↔ entries[entry.1]? = some entry.2 := by
  rw [contents, Multiset.mem_coe, mem_toList]

theorem nodup_contents (entries : ExtTreeMap κ ν) : (contents entries).Nodup :=
  entries.distinct_keys_toList.imp fun {one _} distinct same => by
    subst same
    exact distinct Std.compare_self

/-- Maps hold the same if their lookups say so. -/
theorem contents_eq_of_mem {held : Multiset (κ × ν)} (nodup : held.Nodup)
    (same : ∀ entry, entry ∈ held ↔ entries[entry.1]? = some entry.2) : contents entries = held :=
  (Multiset.Nodup.ext (nodup_contents entries) nodup).mpr fun entry => by
    rw [mem_contents, same]

theorem found_filter_iff {wanted : κ → ν → Bool} {key : κ} {value : ν} :
    (entries.filter wanted)[key]? = some value ↔
      entries[key]? = some value ∧ wanted key value = true := by
  have member : (key, value) ∈ contents (entries.filter wanted) ↔
      (key, value) ∈ contents entries ∧ wanted key value = true := by
    rw [contents_filter, Multiset.mem_filter]
  rwa [mem_contents, mem_contents] at member

theorem mem_gather {item : α} :
    item ∈ gather holds entries ↔
      ∃ (key : κ) (value : ν), entries[key]? = some value ∧ item ∈ holds value := by
  simp only [gather, Multiset.mem_bind, mem_contents]
  constructor
  · rintro ⟨⟨key, value⟩, found, member⟩
    exact ⟨key, value, found, member⟩
  · rintro ⟨key, value, found, member⟩
    exact ⟨(key, value), found, member⟩

/-! ## Updates -/

variable [DecidableEq κ]

theorem not_mem_contents_erase (entries : ExtTreeMap κ ν) (key : κ) (value : ν) :
    (key, value) ∉ contents (entries.erase key) := by
  rw [mem_contents, lookup_erase, if_pos rfl]
  simp

theorem contents_insert (entries : ExtTreeMap κ ν) (key : κ) (value : ν) :
    contents (entries.insert key value) = (key, value) ::ₘ contents (entries.erase key) := by
  refine contents_eq_of_mem
    (Multiset.nodup_cons.mpr ⟨not_mem_contents_erase entries key value, nodup_contents _⟩) ?_
  rintro ⟨other, content⟩
  rw [Multiset.mem_cons, mem_contents, lookup_insert, lookup_erase]
  by_cases same : key = other
  · subst same
    simp [eq_comm]
  · simp [same, Ne.symm same]

variable {key : κ}

theorem contents_of_found {value : ν} (found : entries[key]? = some value) :
    contents entries = (key, value) ::ₘ contents (entries.erase key) := by
  rw [← contents_insert]
  refine contents_eq_of_mem (nodup_contents _) fun entry => ?_
  rw [mem_contents, lookup_insert]
  split
  next same => rw [← same, found]
  · rfl

theorem erase_of_missing (missing : entries[key]? = none) : entries.erase key = entries := by
  refine ExtTreeMap.ext_getElem? fun other => ?_
  rw [lookup_erase]
  split
  next same => rw [← same, missing]
  · rfl

theorem contents_insertIfNew (entries : ExtTreeMap κ ν) (key : κ) (value : ν) :
    contents (entries.insertIfNew key value) =
      if key ∈ entries then contents entries else contents entries + {(key, value)} := by
  split
  next present =>
    refine contents_eq_of_mem (nodup_contents _) fun entry => ?_
    rw [mem_contents, ExtTreeMap.getElem?_insertIfNew, if_neg (by simp [present])]
  next missing =>
    rw [← erase_of_missing (ExtTreeMap.getElem?_eq_none missing), add_comm,
      Multiset.singleton_add, ← contents_insert,
      erase_of_missing (ExtTreeMap.getElem?_eq_none missing)]
    refine contents_eq_of_mem (nodup_contents _) fun entry => ?_
    rw [mem_contents, ExtTreeMap.getElem?_insertIfNew, lookup_insert]
    simp [missing]

theorem gather_insert (entries : ExtTreeMap κ ν) (key : κ) (value : ν) :
    gather holds (entries.insert key value) = holds value + gather holds (entries.erase key) := by
  rw [gather, contents_insert, Multiset.cons_bind, gather]

theorem gather_of_found {value : ν} (found : entries[key]? = some value) :
    gather holds entries = holds value + gather holds (entries.erase key) := by
  rw [gather, contents_of_found found, Multiset.cons_bind, gather]

/-- A key without a value counts as one whose value holds nothing. -/
theorem gather_getD (entries : ExtTreeMap κ ν) (key : κ) {blank : ν} (nothing : holds blank = 0) :
    gather holds entries = holds (entries[key]?.getD blank) + gather holds (entries.erase key) := by
  cases found : entries[key]? with
  | none => rw [Option.getD_none, nothing, zero_add, erase_of_missing found]
  | some value => exact gather_of_found found

/-- One more item in one of the values. -/
theorem gather_put (entries : ExtTreeMap κ ν) (key : κ) {blank after : ν} {item : Multiset α}
    (nothing : holds blank = 0) (put : holds after = holds (entries[key]?.getD blank) + item) :
    gather holds (entries.insert key after) = gather holds entries + item := by
  rw [gather_insert, put, gather_getD entries key nothing]
  abel

theorem gather_putIfNew (entries : ExtTreeMap κ ν) (key : κ) {blank after : ν} {item : Multiset α}
    {present : Prop} [Decidable present] (nothing : holds blank = 0)
    (put : holds after = if present then holds (entries[key]?.getD blank)
      else holds (entries[key]?.getD blank) + item) :
    gather holds (entries.insert key after) =
      if present then gather holds entries else gather holds entries + item := by
  split_ifs at put ⊢
  · rw [gather_put entries key nothing (put.trans (add_zero _).symm), add_zero]
  · exact gather_put entries key nothing put

theorem gather_modify_of_eq {change : ν → ν} (same : ∀ value, holds (change value) = holds value)
    (key : κ) :
    gather holds (entries.modify key change) = gather holds entries := by
  cases found : entries[key]? with
  | none =>
    congr 1
    refine ExtTreeMap.ext_getElem? fun other => ?_
    rw [ExtTreeMap.getElem?_modify]
    split
    next equal =>
      rw [← Std.compare_eq_iff_eq.mp equal, found]
      rfl
    · rfl
  | some value =>
    have inserted : entries.modify key change = entries.insert key (change value) := by
      refine ExtTreeMap.ext_getElem? fun other => ?_
      rw [ExtTreeMap.getElem?_modify, lookup_insert]
      simp only [Std.compare_eq_iff_eq, found, Option.map_some]
    rw [inserted, gather_insert, same, gather_of_found found]

end MaeRtc.Base.OrderedMap
