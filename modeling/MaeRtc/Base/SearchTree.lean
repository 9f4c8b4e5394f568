import Mathlib

/-!
# Containers ordered by a comparison that may not be an order

A `std::set` or `std::map` keeps its elements in a tree.  If its comparison is not an
order on them, where a search ends depends on the shape of the tree; but it always ends
between two elements of the search's path, so that the one before was found less than
the key and the one after was not.  `Search` says no more than that.  If the comparison
is an order on the elements and the key, this leaves no choice.
-/

namespace MaeRtc.Base

/-- Where the searches in a tree with these elements, in the tree's order, end. -/
structure Search {α : Type*} (less : α → α → Bool) where
  lowerBound : List α → α → Nat
  upperBound : List α → α → Nat
  lowerBound_le : ∀ elements key, lowerBound elements key ≤ elements.length
  less_before : ∀ elements key i element, i + 1 = lowerBound elements key →
    elements[i]? = some element → less element key = true
  not_less_at : ∀ elements key element,
    elements[lowerBound elements key]? = some element → less element key = false
  upperBound_le : ∀ elements key, upperBound elements key ≤ elements.length
  not_less_before : ∀ elements key i element, i + 1 = upperBound elements key →
    elements[i]? = some element → less key element = false
  less_at : ∀ elements key element,
    elements[upperBound elements key]? = some element → less key element = true

namespace Search

variable {α : Type*} {less : α → α → Bool} (search : Search less)

/-- `find`, as a position. -/
def find (elements : List α) (key : α) : Option Nat :=
  match elements[search.lowerBound elements key]? with
  | none => none
  | some element => if less key element then none else some (search.lowerBound elements key)

/-- `insert`, which does nothing if the search comes to an equivalent element. -/
def insert (elements : List α) (key : α) : List α :=
  let position := search.upperBound elements key
  match position with
  | 0 => key :: elements
  | before + 1 => match elements[before]? with
    | none => elements
    | some element =>
      if less element key then elements.take position ++ key :: elements.drop position
      else elements

/-- `erase(begin, lower_bound(key))` -/
def eraseBefore (elements : List α) (key : α) : List α :=
  elements.drop (search.lowerBound elements key)

variable {elements : List α} {key : α}

/-- What is found is equivalent to the key. -/
theorem of_find {search : Search less} {position : Nat} (found : search.find elements key = some position) :
    position = search.lowerBound elements key ∧ ∃ element, elements[position]? = some element ∧
      less element key = false ∧ less key element = false := by
  unfold find at found
  cases isElement : elements[search.lowerBound elements key]? with
  | none =>
    rw [isElement] at found
    cases found
  | some element =>
    rw [isElement] at found
    dsimp only at found
    split_ifs at found with after
    cases found
    refine ⟨rfl, element, isElement, search.not_less_at elements key element isElement, ?_⟩
    exact Bool.eq_false_iff.mpr after

/-- If the elements less than the key come first, the search ends after them. -/
theorem lowerBound_spec
    (first : elements.Pairwise fun one two => less two key = true → less one key = true) :
    (∀ element ∈ elements.take (search.lowerBound elements key), less element key = true) ∧
      ∀ element ∈ elements.drop (search.lowerBound elements key), less element key = false := by
  have le := search.lowerBound_le elements key
  rw [List.pairwise_iff_getElem] at first
  constructor
  · intro element member
    obtain ⟨i, inside, rfl⟩ := List.mem_iff_getElem.mp member
    rw [List.length_take] at inside
    rw [List.getElem_take]
    obtain ⟨last, isLast⟩ : ∃ last, last + 1 = search.lowerBound elements key :=
      ⟨search.lowerBound elements key - 1, by omega⟩
    have lastLess := search.less_before elements key last _ isLast
      (List.getElem?_eq_getElem (by omega))
    rcases Nat.lt_or_ge i last with earlier | late
    · exact first i last (by omega) (by omega) earlier lastLess
    · obtain rfl : i = last := by omega
      exact lastLess
  · intro element member
    obtain ⟨i, inside, rfl⟩ := List.mem_iff_getElem.mp member
    rw [List.length_drop] at inside
    rw [List.getElem_drop]
    have atBound := search.not_less_at elements key _
      (List.getElem?_eq_getElem (by omega : search.lowerBound elements key < elements.length))
    by_contra isLess
    rw [Bool.not_eq_false] at isLess
    rcases Nat.eq_zero_or_pos i with rfl | later
    · simp only [Nat.add_zero] at isLess
      rw [isLess] at atBound
      cases atBound
    · have := first (search.lowerBound elements key) (search.lowerBound elements key + i)
        (by omega) (by omega) (by omega) isLess
      rw [this] at atBound
      cases atBound

/-- If the elements greater than the key come last, the search ends before them. -/
theorem upperBound_spec
    (last : elements.Pairwise fun one two => less key one = true → less key two = true) :
    (∀ element ∈ elements.take (search.upperBound elements key), less key element = false) ∧
      ∀ element ∈ elements.drop (search.upperBound elements key), less key element = true := by
  have le := search.upperBound_le elements key
  rw [List.pairwise_iff_getElem] at last
  constructor
  · intro element member
    obtain ⟨i, inside, rfl⟩ := List.mem_iff_getElem.mp member
    rw [List.length_take] at inside
    rw [List.getElem_take]
    obtain ⟨before, isBefore⟩ : ∃ before, before + 1 = search.upperBound elements key :=
      ⟨search.upperBound elements key - 1, by omega⟩
    have notLess := search.not_less_before elements key before _ isBefore
      (List.getElem?_eq_getElem (by omega))
    rcases Nat.lt_or_ge i before with earlier | late
    · by_contra isLess
      rw [Bool.not_eq_false] at isLess
      rw [last i before (by omega) (by omega) earlier isLess] at notLess
      cases notLess
    · obtain rfl : i = before := by omega
      exact notLess
  · intro element member
    obtain ⟨i, inside, rfl⟩ := List.mem_iff_getElem.mp member
    rw [List.length_drop] at inside
    rw [List.getElem_drop]
    have isLess := search.less_at elements key _
      (List.getElem?_eq_getElem (by omega : search.upperBound elements key < elements.length))
    rcases Nat.eq_zero_or_pos i with rfl | later
    · exact isLess
    · exact last (search.upperBound elements key) (search.upperBound elements key + i)
        (by omega) (by omega) (by omega) isLess

/-- An element is found if the elements are ordered, among themselves and with the key. -/
theorem find_isSome (ordered : elements.Pairwise fun one two => less one two = true)
    (irreflexive : ∀ element, less element element = false)
    (first : elements.Pairwise fun one two => less two key = true → less one key = true)
    (member : key ∈ elements) :
    search.find elements key = some (search.lowerBound elements key) ∧
      elements[search.lowerBound elements key]? = some key := by
  obtain ⟨before, after⟩ := search.lowerBound_spec first
  have inDrop : key ∈ elements.drop (search.lowerBound elements key) := by
    rw [← List.take_append_drop (search.lowerBound elements key) elements] at member
    rcases List.mem_append.mp member with inTake | inDrop
    · have isLess := before key inTake
      rw [irreflexive] at isLess
      cases isLess
    · exact inDrop
  obtain ⟨i, inside, isKey⟩ := List.mem_iff_getElem.mp inDrop
  rw [List.getElem_drop] at isKey
  rw [List.length_drop] at inside
  have isHead : elements[search.lowerBound elements key]? = some key := by
    rcases Nat.eq_zero_or_pos i with rfl | later
    · simp only [Nat.add_zero] at isKey
      rw [List.getElem?_eq_getElem (by omega), isKey]
    have isLess := List.pairwise_iff_getElem.mp ordered (search.lowerBound elements key)
      (search.lowerBound elements key + i) (by omega) (by omega) (by omega)
    rw [isKey] at isLess
    have notLess := search.not_less_at elements key _
      (List.getElem?_eq_getElem (by omega : search.lowerBound elements key < elements.length))
    rw [isLess] at notLess
    cases notLess
  refine ⟨?_, isHead⟩
  unfold find
  rw [isHead]
  simp only [irreflexive, Bool.false_eq_true, if_false]

theorem holds_before_takeWhile (wanted : α → Bool) {i : Nat} {element : α}
    (before : i < (elements.takeWhile wanted).length) (isElement : elements[i]? = some element) :
    wanted element = true := by
  have same : (elements.takeWhile wanted)[i]? = some element := by
    rw [← isElement, ← List.getElem?_append_left before, List.takeWhile_append_dropWhile]
  exact List.mem_takeWhile_imp (List.mem_of_getElem? same)

theorem fails_at_takeWhile (wanted : α → Bool) {element : α}
    (isElement : elements[(elements.takeWhile wanted).length]? = some element) :
    wanted element = false := by
  induction elements with
  | nil => cases isElement
  | cons head rest ih =>
    by_cases holds : wanted head = true
    · rw [List.takeWhile_cons_of_pos holds, List.length_cons, List.getElem?_cons_succ] at isElement
      exact ih isElement
    · rw [List.takeWhile_cons_of_neg holds] at isElement
      cases isElement
      exact Bool.eq_false_iff.mpr holds

/-- The search that ends as early as it can. -/
def earliest (less : α → α → Bool) : Search less where
  lowerBound elements key := (elements.takeWhile fun element => less element key).length
  upperBound elements key := (elements.takeWhile fun element => !less key element).length
  lowerBound_le elements key := (List.takeWhile_sublist _).length_le
  less_before elements key i element isLast isElement :=
    holds_before_takeWhile (fun element => less element key) (by omega) isElement
  not_less_at elements key element isElement :=
    fails_at_takeWhile (fun element => less element key) isElement
  upperBound_le elements key := (List.takeWhile_sublist _).length_le
  not_less_before elements key i element isLast isElement := by
    have := holds_before_takeWhile (fun element => !less key element) (by omega) isElement
    simpa using this
  less_at elements key element isElement := by
    have := fails_at_takeWhile (fun element => !less key element) isElement
    simpa using this

end Search

end MaeRtc.Base
