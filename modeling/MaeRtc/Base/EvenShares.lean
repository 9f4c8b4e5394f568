import Mathlib

/-!
# Shares passed along a list

An amount is passed along a list of capacities.  Everybody takes an even share
of what arrives, as far as the capacity goes, and passes on the rest; nobody is
asked twice.  All together take no more than there is and no more than they have
capacity for.  They take as much as that exactly if nobody who is not filled up
passes on more than the later ones have capacity for.
-/

namespace MaeRtc.Base

/-- What everybody takes. -/
def shares : List Nat → Nat → List Nat
  | [], _ => []
  | capacity :: later, amount =>
    let share := min capacity (amount / (later.length + 1))
    share :: shares later (amount - share)

/-- Whoever is not filled up passes on no more than the later ones have capacity for. -/
def NothingLost : List Nat → Nat → Prop
  | [], _ => True
  | capacity :: later, amount =>
    let share := amount / (later.length + 1)
    (share < capacity → amount - share ≤ later.sum) ∧
      NothingLost later (amount - min capacity share)

/-- As long as somebody comes later, not everything is taken. -/
theorem passed_pos {amount : Nat} (positive : 0 < amount) (capacity : Nat) {others : Nat}
    (somebody : 0 < others) : 0 < amount - min capacity (amount / (others + 1)) := by
  have less : amount / (others + 1) < amount := Nat.div_lt_self positive (by omega)
  omega

theorem sum_shares_le (capacities : List Nat) (amount : Nat) :
    (shares capacities amount).sum ≤ min amount capacities.sum := by
  induction capacities generalizing amount with
  | nil => exact Nat.zero_le _
  | cons capacity later ih =>
    have rest := ih (amount - min capacity (amount / (later.length + 1)))
    have shareLe : amount / (later.length + 1) ≤ amount := Nat.div_le_self _ _
    rw [shares, List.sum_cons, List.sum_cons]
    omega

theorem sum_shares_eq_iff (capacities : List Nat) (amount : Nat) :
    (shares capacities amount).sum = min amount capacities.sum ↔
      NothingLost capacities amount := by
  induction capacities generalizing amount with
  | nil => simp [shares, NothingLost]
  | cons capacity later ih =>
    have later_le := sum_shares_le later (amount - min capacity (amount / (later.length + 1)))
    have shareLe : amount / (later.length + 1) ≤ amount := Nat.div_le_self _ _
    rw [shares, NothingLost, List.sum_cons, List.sum_cons, ← ih]
    -- a filled capacity takes its part of the whole; of the others nothing must remain
    by_cases filled : capacity ≤ amount / (later.length + 1)
    · rw [min_eq_left filled] at later_le ⊢
      omega
    · rw [min_eq_right (not_le.mp filled).le] at later_le ⊢
      omega

end MaeRtc.Base
