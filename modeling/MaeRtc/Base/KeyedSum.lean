import Mathlib

/-!
# Values by key and their sum

A table gives an integer to every key.  Loops over a list of items assign to
the key of one item after the other.  The lemmas say what the sum over the keys
of interest and the single values are after such assignments, provided no two
items share a key.
-/

namespace MaeRtc.Base

variable {κ : Type*}

/-- The sum of the values of a list of keys. -/
def keyedSum (keys : List κ) (table : κ → Int) : Int :=
  (keys.map table).sum

@[simp] theorem keyedSum_nil (table : κ → Int) : keyedSum [] table = 0 :=
  rfl

@[simp] theorem keyedSum_cons (key : κ) (keys : List κ) (table : κ → Int) :
    keyedSum (key :: keys) table = table key + keyedSum keys table := by
  simp [keyedSum]

variable {keys : List κ} {α : Type*}

/-- The sum only depends on the values of its keys. -/
theorem keyedSum_congr {one two : κ → Int}
    (agree : ∀ key ∈ keys, one key = two key) : keyedSum keys one = keyedSum keys two := by
  unfold keyedSum
  rw [List.map_congr_left agree]

section Nonneg

variable {key : α → κ} {items : List α} {table : κ → Int}
  (nonneg : ∀ item ∈ items, 0 ≤ table (key item))
include nonneg

theorem keyedSum_nonneg : 0 ≤ keyedSum (items.map key) table := by
  unfold keyedSum
  rw [List.map_map]
  exact List.sum_nonneg (List.forall_mem_map.mpr nonneg)

/-- Where nothing is negative, no value exceeds the sum. -/
theorem le_keyedSum {item : α} (member : item ∈ items) :
    table (key item) ≤ keyedSum (items.map key) table := by
  unfold keyedSum
  rw [List.map_map]
  exact List.single_le_sum (List.forall_mem_map.mpr nonneg) _ (List.mem_map_of_mem member)

end Nonneg

variable [DecidableEq κ]

theorem keyedSum_update_of_notMem {key : κ} (absent : key ∉ keys) (table : κ → Int) (value : Int) :
    keyedSum keys (Function.update table key value) = keyedSum keys table := by
  apply keyedSum_congr
  intro other member
  have differs : other ≠ key := fun same => absent (same ▸ member)
  rw [Function.update_of_ne differs]

/-- Assigning to one of the keys replaces its value in the sum. -/
theorem keyedSum_update (nodup : keys.Nodup) {key : κ} (member : key ∈ keys) (table : κ → Int)
    (value : Int) :
    keyedSum keys (Function.update table key value) = keyedSum keys table - table key + value := by
  induction keys with
  | nil => cases member
  | cons head rest ih =>
    obtain ⟨headAbsent, restNodup⟩ := List.nodup_cons.mp nodup
    rcases List.mem_cons.mp member with rfl | restMember
    · rw [keyedSum_cons, keyedSum_cons, keyedSum_update_of_notMem headAbsent, Function.update_self]
      omega
    · have differs : head ≠ key := fun same => headAbsent (same ▸ restMember)
      rw [keyedSum_cons, keyedSum_cons, ih restNodup restMember, Function.update_of_ne differs]
      omega

/-- The items behind are not concerned by an assignment. -/
theorem update_behind {key : α → κ} {item : α} {rest : List α} (absent : key item ∉ rest.map key)
    (table : κ → Int) (value : Int) :
    ∀ other ∈ rest, Function.update table (key item) value (key other) = table (key other) := by
  intro other member
  refine Function.update_of_ne ?_ _ _
  intro same
  exact absent (same ▸ List.mem_map_of_mem member)

/-- A loop over items that moves the values of their keys by a rule and gives away at most
`amount` in doing so. -/
structure Distributed (key : α → κ) (Moves : α → Int → Int → Prop) (items : List α) (amount : ℚ)
    (before after : κ → Int) : Prop where
  others : ∀ other ∉ items.map key, after other = before other
  moves : ∀ item ∈ items, Moves item (before (key item)) (after (key item))
  conserved : ∀ keys : List κ, keys.Nodup → items.map key ⊆ keys →
    (keyedSum keys after : ℚ) ≤ keyedSum keys before + amount

section Distribution

variable {key : α → κ} {Moves : α → Int → Int → Prop} {amount : ℚ}

omit [DecidableEq κ] in
theorem distributed_nil (nonneg : 0 ≤ amount) (table : κ → Int) :
    Distributed key Moves [] amount table table where
  others _ _ := rfl
  moves _ member := absurd member List.not_mem_nil
  conserved _ _ _ := by linarith

omit [DecidableEq κ] in
theorem Distributed.sum_le {items : List α} {amount : Nat} {before after : κ → Int}
    (holds : Distributed key Moves items amount before after) {keys : List κ} (nodup : keys.Nodup)
    (included : items.map key ⊆ keys) : keyedSum keys after ≤ keyedSum keys before + amount := by
  exact_mod_cast holds.conserved keys nodup included

/-- One round: the visited item ends with `given`, and `left` is for the others. -/
theorem Distributed.cons {item : α} {rest : List α} {left : ℚ} {before after : κ → Int}
    (given : Int) (absent : key item ∉ rest.map key)
    (moved : Moves item (before (key item)) given)
    (balance : given + left ≤ before (key item) + amount)
    (later : Distributed key Moves rest left (Function.update before (key item) given) after) :
    Distributed key Moves (item :: rest) amount before after := by
  refine ⟨?_, ?_, ?_⟩
  · intro other outside
    rw [List.map_cons, List.mem_cons, not_or] at outside
    rw [later.others other outside.2, Function.update_of_ne outside.1]
  · intro other member
    rcases List.mem_cons.mp member with rfl | restMember
    · rw [later.others _ absent, Function.update_self]
      exact moved
    · rw [← update_behind absent before given other restMember]
      exact later.moves other restMember
  · intro keys nodup included
    have conserved := later.conserved keys nodup
      fun other member => included (List.mem_cons_of_mem _ member)
    rw [keyedSum_update nodup (included List.mem_cons_self)] at conserved
    push_cast at conserved
    linarith

end Distribution

/-- Assign the value of every item to its key, one item after the other. -/
def tabulate (key : α → κ) (value : α → Int) (items : List α) (table : κ → Int) : κ → Int :=
  items.foldl (fun current item => Function.update current (key item) (value item)) table

theorem tabulate_of_notMem {key : α → κ} {items : List α} {other : κ}
    (absent : other ∉ items.map key) (value : α → Int) (table : κ → Int) :
    tabulate key value items table other = table other := by
  induction items generalizing table with
  | nil => rfl
  | cons head rest ih =>
    rw [List.map_cons, List.mem_cons, not_or] at absent
    exact (ih absent.2 _).trans (Function.update_of_ne absent.1 _ _)

variable {key : α → κ} {items : List α} (nodup : (items.map key).Nodup)
include nodup

/-- Without shared keys every item finds its own value in the table. -/
theorem tabulate_of_mem {item : α} (member : item ∈ items) (value : α → Int) (table : κ → Int) :
    tabulate key value items table (key item) = value item := by
  induction items generalizing table with
  | nil => cases member
  | cons head rest ih =>
    obtain ⟨headAbsent, restNodup⟩ := List.nodup_cons.mp nodup
    rcases List.mem_cons.mp member with rfl | restMember
    · exact (tabulate_of_notMem headAbsent _ _).trans (Function.update_self _ _ _)
    · exact ih restNodup restMember _

/-- The sum of a table of values is the sum of the values. -/
theorem keyedSum_tabulate (value : α → Int) (table : κ → Int) :
    keyedSum (items.map key) (tabulate key value items table) = (items.map value).sum := by
  unfold keyedSum
  rw [List.map_map]
  exact congrArg List.sum (List.map_congr_left fun item member =>
    tabulate_of_mem nodup member value table)

end MaeRtc.Base
