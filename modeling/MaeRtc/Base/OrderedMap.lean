import MaeRtc.Base.Checked

/-!
# Ordered maps and iteration over them

Bounds and sums for the ordered maps of the standard library, and loops over a
map with an iterator.  The body of a loop may change the map it runs over, as
long as the entry of the iterator stays; an iterator that leaves the map before
it meets the end of its range is an error.
-/

namespace MaeRtc.Base.OrderedMap

open Std (ExtTreeMap LawfulEqOrd TransOrd)

section

variable {κ ν : Type*} [Ord κ] [TransOrd κ] [LawfulEqOrd κ] [DecidableEq κ]
  {entries : ExtTreeMap κ ν}

/-- What a map holds, without regard to order. -/
def contents (entries : ExtTreeMap κ ν) : Multiset (κ × ν) :=
  entries.toList

/-! ## Lookups -/

theorem lookup_insert (entries : ExtTreeMap κ ν) (key other : κ) (value : ν) :
    (entries.insert key value)[other]? = if key = other then some value else entries[other]? := by
  rw [ExtTreeMap.getElem?_insert]
  simp only [Std.compare_eq_iff_eq]

/-- What holds of a new entry and of the others holds of all. -/
theorem forall_insert {Holds : κ → ν → Prop} {key : κ} {value : ν} (here : Holds key value)
    (elsewhere : ∀ other entry, key ≠ other → entries[other]? = some entry → Holds other entry) :
    ∀ other entry, (entries.insert key value)[other]? = some entry → Holds other entry := by
  intro other entry found
  rw [lookup_insert] at found
  split_ifs at found with same
  · cases found
    exact same ▸ here
  · exact elsewhere other entry same found

theorem lookup_erase (entries : ExtTreeMap κ ν) (key other : κ) :
    (entries.erase key)[other]? = if key = other then none else entries[other]? := by
  rw [ExtTreeMap.getElem?_erase]
  simp only [Std.compare_eq_iff_eq]

theorem lookup_insertIfNew (entries : ExtTreeMap κ ν) (key other : κ) (value : ν) :
    (entries.insertIfNew key value)[other]? =
      if key = other ∧ entries[key]? = none then some value else entries[other]? := by
  rw [ExtTreeMap.getElem?_insertIfNew]
  simp only [Std.compare_eq_iff_eq, ExtTreeMap.mem_iff_isSome_getElem?,
    Option.not_isSome_iff_eq_none]

/-! ## Sums over a map -/

/-- The sum of the weights of all values. -/
def total (weight : ν → Nat) (entries : ExtTreeMap κ ν) : Nat :=
  (entries.toList.map fun entry => weight entry.2).sum

/-- The weight at a key; an absent value weighs nothing. -/
def weightAt (weight : ν → Nat) (entries : ExtTreeMap κ ν) (key : κ) : Nat :=
  entries[key]?.elim 0 weight

/-- The sum runs over any set that contains all keys. -/
theorem total_eq_sum (weight : ν → Nat) (keys : Finset κ) (covers : ∀ key ∈ entries, key ∈ keys) :
    total weight entries = ∑ key ∈ keys, weightAt weight entries key := by
  have listed : (entries.toList.map fun entry => weight entry.2) =
      entries.keys.map (weightAt weight entries) := by
    rw [← ExtTreeMap.map_fst_toList_eq_keys, List.map_map]
    refine List.map_congr_left fun entry member => ?_
    have found := ExtTreeMap.mem_toList_iff_getElem?_eq_some.mp member
    simp [weightAt, found]
  rw [total, listed, ← List.sum_toFinset _ ExtTreeMap.nodup_keys]
  refine Finset.sum_subset (fun key member => covers key (by simpa using member)) ?_
  intro key _ absent
  have missing : entries[key]? = none := ExtTreeMap.getElem?_eq_none (by simpa using absent)
  simp [weightAt, missing]

/-- Maps with the same weight at every key have the same sum. -/
theorem total_congr {weight : ν → Nat} {one two : ExtTreeMap κ ν}
    (same : ∀ key, weightAt weight one key = weightAt weight two key) :
    total weight one = total weight two := by
  rw [total_eq_sum weight (one.keys.toFinset ∪ two.keys.toFinset),
    total_eq_sum weight (one.keys.toFinset ∪ two.keys.toFinset)]
  · exact Finset.sum_congr rfl fun key _ => same key
  · exact fun key member => by simp [member]
  · exact fun key member => by simp [member]

/-- Maps that differ at one key differ in its weight. -/
theorem total_update {weight : ν → Nat} {one two : ExtTreeMap κ ν} (key : κ)
    (same : ∀ other, other ≠ key → weightAt weight one other = weightAt weight two other) :
    total weight one + weightAt weight two key = total weight two + weightAt weight one key := by
  have inside : key ∈ insert key (one.keys.toFinset ∪ two.keys.toFinset) :=
    Finset.mem_insert_self _ _
  have rest : ∑ other ∈ (insert key (one.keys.toFinset ∪ two.keys.toFinset)).erase key,
      weightAt weight one other =
        ∑ other ∈ (insert key (one.keys.toFinset ∪ two.keys.toFinset)).erase key,
          weightAt weight two other :=
    Finset.sum_congr rfl fun other member => same other (Finset.ne_of_mem_erase member)
  rw [total_eq_sum weight (insert key (one.keys.toFinset ∪ two.keys.toFinset)),
    total_eq_sum weight (insert key (one.keys.toFinset ∪ two.keys.toFinset)),
    ← Finset.sum_erase_add _ _ inside, ← Finset.sum_erase_add _ _ inside, rest]
  · ring
  · exact fun other member => by simp [member]
  · exact fun other member => by simp [member]

section

variable (weight : ν → Nat) (entries : ExtTreeMap κ ν) (key : κ)

/-- Storing a value replaces the weight at its key. -/
theorem total_insert (value : ν) :
    total weight (entries.insert key value) + weightAt weight entries key =
      total weight entries + weight value := by
  have differ : total weight entries + weightAt weight (entries.insert key value) key =
      total weight (entries.insert key value) + weightAt weight entries key :=
    total_update key fun other differs => by simp [weightAt, lookup_insert, Ne.symm differs]
  rw [← differ]
  simp [weightAt]

theorem weightAt_le_total : weightAt weight entries key ≤ total weight entries := by
  rw [total_eq_sum weight (insert key entries.keys.toFinset) fun other member => by simp [member]]
  exact Finset.single_le_sum (f := weightAt weight entries) (fun _ _ => Nat.zero_le _)
    (Finset.mem_insert_self _ _)

end

end

/-! ## Bounds -/

variable {κ ν : Type*} [LinearOrder κ] {entries : ExtTreeMap κ ν}

/-- The elements of a set, as an iterator meets them. -/
def inOrder (elements : Finset κ) : List κ :=
  elements.sort (· ≤ ·)

/-- The first key above a key: where an iterator stands, or the end of the map. -/
def upperBound (entries : ExtTreeMap κ ν) (key : κ) : Option κ :=
  entries.keys.find? fun other => key < other

/-- The first key that is not below a key. -/
def lowerBound (entries : ExtTreeMap κ ν) (key : κ) : Option κ :=
  entries.keys.find? fun other => key ≤ other

/-- The keys are listed in order. -/
theorem keys_pairwise_lt (entries : ExtTreeMap κ ν) : entries.keys.Pairwise (· < ·) := by
  refine entries.ordered_keys.imp fun {one two} ordered => ?_
  exact compare_lt_iff_lt.mp ordered

/-- The first key of an ordered list with an upward closed property is the least one. -/
theorem find?_eq_some_iff_of_pairwise {keys : List κ} (ordered : keys.Pairwise (· < ·))
    {Wanted : κ → Prop} [DecidablePred Wanted] {key : κ} :
    keys.find? (fun other => Wanted other) = some key ↔
      key ∈ keys ∧ Wanted key ∧ ∀ other ∈ keys, Wanted other → key ≤ other := by
  induction keys with
  | nil => simp
  | cons head rest ih =>
    obtain ⟨headLt, restOrdered⟩ := List.pairwise_cons.mp ordered
    by_cases wanted : Wanted head
    · rw [List.find?_cons_of_pos (by simpa using wanted)]
      constructor
      · rintro ⟨⟩
        refine ⟨List.mem_cons_self, wanted, fun other member _ => ?_⟩
        rcases List.mem_cons.mp member with rfl | member
        · exact le_rfl
        · exact (headLt other member).le
      · rintro ⟨member, _, least⟩
        have below := least head List.mem_cons_self wanted
        rcases List.mem_cons.mp member with rfl | member
        · rfl
        · exact absurd (headLt key member) below.not_gt
    · rw [List.find?_cons_of_neg (by simpa using wanted), ih restOrdered]
      constructor
      · rintro ⟨member, keyWanted, least⟩
        refine ⟨List.mem_cons_of_mem head member, keyWanted, fun other otherMember => ?_⟩
        rcases List.mem_cons.mp otherMember with rfl | otherMember
        · exact fun otherWanted => absurd otherWanted wanted
        · exact least other otherMember
      · rintro ⟨member, keyWanted, least⟩
        rcases List.mem_cons.mp member with rfl | member
        · exact absurd keyWanted wanted
        · exact ⟨member, keyWanted, fun other otherMember =>
            least other (List.mem_cons_of_mem head otherMember)⟩

theorem upperBound_eq_some_iff {bound key : κ} :
    upperBound entries bound = some key ↔
      key ∈ entries ∧ bound < key ∧ ∀ other ∈ entries, bound < other → key ≤ other := by
  unfold upperBound
  rw [find?_eq_some_iff_of_pairwise (keys_pairwise_lt entries)]
  simp only [ExtTreeMap.mem_keys]

theorem upperBound_eq_none_iff {bound : κ} :
    upperBound entries bound = none ↔ ∀ other ∈ entries, other ≤ bound := by
  unfold upperBound
  simp

/-- The first key is the one behind any bound below all keys. -/
theorem head?_keys_eq_upperBound {bound : κ} (below : ∀ key ∈ entries, bound < key) :
    entries.keys.head? = upperBound entries bound := by
  unfold upperBound
  cases keysEq : entries.keys with
  | nil => rfl
  | cons head rest =>
    have member : head ∈ entries := ExtTreeMap.mem_keys.mp (by simp [keysEq])
    rw [List.find?_cons_of_pos (by simpa using below head member)]
    rfl

theorem lowerBound_int (entries : ExtTreeMap Int ν) (key : Int) :
    lowerBound entries key = upperBound entries (key - 1) := by
  unfold lowerBound upperBound
  congr 1
  funext other
  exact decide_eq_decide.mpr (by omega)

theorem toList_pairwise_lt (entries : ExtTreeMap κ ν) :
    entries.toList.Pairwise fun one two => one.1 < two.1 :=
  entries.ordered_keys_toList.imp compare_lt_iff_lt.mp

/-! ## Loops with an iterator -/

variable {σ ε : Type*}

/--
The loop `for (iter = position; iter != stop; ++iter)` over a map in a state.
The end of the range is computed anew in every round, and the body may change
the state and leave the loop.  An iterator that is advanced past the end of the
map, and a loop that does not end with the fuel, are errors.
-/
def iterate (entries : σ → ExtTreeMap κ ν) (stop : σ → Option κ)
    (body : κ → ν → σ → Except ε (Bool × σ)) (invalid : ε) :
    Nat → Option κ → σ → Except ε σ
  | 0, _, _ => .error invalid
  | fuel + 1, position, state =>
    if position = stop state then .ok state
    else match position with
      | none => .error invalid
      | some key =>
        match (entries state)[key]? with
        | none => .error invalid
        | some value => do
          let (proceeds, state) ← body key value state
          if proceeds then
            iterate entries stop body invalid fuel (upperBound (entries state) key) state
          else .ok state

/--
Invariant rule.  The iterator stands behind a key `reached`.  The body keeps an
invariant while it moves the iterator on, and lowers a measure.
-/
theorem iterate_ensures {entries : σ → ExtTreeMap κ ν} {stop : σ → Option κ}
    {body : κ → ν → σ → Except ε (Bool × σ)} {invalid : ε}
    (Holds : κ → σ → Prop) (Post : σ → Prop) (measure : κ → σ → Nat)
    (atEnd : ∀ reached state, Holds reached state →
      upperBound (entries state) reached = stop state → Post state)
    (inside : ∀ reached state, Holds reached state →
      upperBound (entries state) reached ≠ stop state →
      upperBound (entries state) reached ≠ none)
    (step : ∀ reached state key value, Holds reached state →
      upperBound (entries state) reached = some key →
      upperBound (entries state) reached ≠ stop state → (entries state)[key]? = some value →
      Ensures (body key value state) fun result =>
        (result.1 = true → Holds key result.2 ∧ measure key result.2 < measure reached state) ∧
        (result.1 = false → Post result.2))
    (fuel : Nat) (reached : κ) (state : σ) (holds : Holds reached state)
    (enough : measure reached state < fuel) :
    Ensures (iterate entries stop body invalid fuel (upperBound (entries state) reached) state)
      Post := by
  induction fuel generalizing reached state with
  | zero => omega
  | succ fuel ih =>
    refine .ite (fun ended => ?_) fun ended => ?_
    · exact .ok (atEnd reached state holds ended)
    obtain ⟨key, position⟩ := Option.ne_none_iff_exists'.mp (inside reached state holds ended)
    have member := (upperBound_eq_some_iff.mp position).1
    obtain ⟨value, found⟩ : ∃ value, (entries state)[key]? = some value :=
      Option.isSome_iff_exists.mp (ExtTreeMap.mem_iff_isSome_getElem?.mp member)
    rw [position]
    simp only [found]
    refine (step reached state key value holds position ended found).bind ?_
    rintro ⟨proceeds, next⟩ ⟨proceeding, leaving⟩
    cases proceeds with
    | true =>
      obtain ⟨nextHolds, lower⟩ := proceeding rfl
      dsimp only at lower
      exact ih key next nextHolds (by omega)
    | false => exact .ok (leaving rfl)

/-- Rule for loops that may fail: what the body keeps holds of the result, if there is one. -/
theorem iterate_yields {entries : σ → ExtTreeMap κ ν} {stop : σ → Option κ}
    {body : κ → ν → σ → Except ε (Bool × σ)} {invalid : ε} (Holds : σ → Prop)
    (step : ∀ state key value, Holds state → (entries state)[key]? = some value →
      Yields (body key value state) fun result => Holds result.2)
    (fuel : Nat) (position : Option κ) (state : σ) (holds : Holds state) :
    Yields (iterate entries stop body invalid fuel position state) Holds := by
  induction fuel generalizing position state with
  | zero => exact .error
  | succ fuel ih =>
    unfold iterate
    split
    · exact .ok holds
    split
    · exact .error
    next key _ =>
      split
      · exact .error
      next value found =>
        refine (step state key value holds found).bind ?_
        rintro ⟨proceeds, next⟩ nextHolds
        cases proceeds with
        | true => exact ih _ next nextHolds
        | false => exact .ok nextHolds

end MaeRtc.Base.OrderedMap
