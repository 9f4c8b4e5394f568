import MaeRtc.Base.SeqNumUnwrapper

/-!
# Sequences recovered by unwrapping

A sequence that moves by less than half of a turn in every step is recovered from its
values modulo the number of values in use.  Whatever the inputs are, the results are
congruent to them, and move by at most half of a turn.
-/

namespace MaeRtc.Base.SeqNumUnwrapper

variable {w : Nat}

/-- The results for some values, one after the other, and the last state. -/
def unwrapAll (M : BitVec w) (unwrapper : SeqNumUnwrapper w) :
    List (BitVec w) → List Int × SeqNumUnwrapper w
  | [] => ([], unwrapper)
  | value :: rest =>
    let (unwrapped, unwrapper) := unwrap M unwrapper value
    let (others, unwrapper) := unwrapAll M unwrapper rest
    (unwrapped :: others, unwrapper)

/-- A number modulo the number of values in use. -/
def wrapped (M : BitVec w) (number : Int) : BitVec w :=
  BitVec.ofInt w (number % modulus M)

/-- Two numbers are less than half of a turn apart. -/
def Near (M : BitVec w) (one two : Int) : Prop :=
  2 * |two - one| < modulus M

theorem modulus_pos (M : BitVec w) : 0 < modulus M := by
  unfold modulus
  split_ifs with full
  · positivity
  · exact Nat.pos_of_ne_zero fun none => full (BitVec.eq_of_toNat_eq none)

theorem toNat_wrapped (M : BitVec w) (number : Int) :
    ((wrapped M number).toNat : Int) = number % modulus M := by
  have positive := modulus_pos M
  have small : modulus M ≤ 2 ^ w := by
    unfold modulus
    split_ifs
    · exact le_rfl
    · exact M.isLt.le
  have bounds := Int.emod_lt_of_pos number (show (0 : Int) < modulus M by omega)
  have nonneg := Int.emod_nonneg number (show (modulus M : Int) ≠ 0 by omega)
  rw [wrapped, BitVec.toNat_ofInt, Int.emod_eq_of_lt nonneg (by omega), Int.toNat_of_nonneg nonneg]

theorem toNat_wrapped_lt (M : BitVec w) (number : Int) : (wrapped M number).toNat < modulus M := by
  have isWrapped := toNat_wrapped M number
  have positive := modulus_pos M
  have bound := Int.emod_lt_of_pos number (show (0 : Int) < modulus M by omega)
  omega

variable {M : BitVec w} {unwrapper : SeqNumUnwrapper w}

theorem InStep.unwrap (positive : 0 < w) (inStep : unwrapper.InStep M) {value : BitVec w}
    (small : value.toNat < modulus M) : (unwrap M unwrapper value).2.InStep M :=
  ⟨value, rfl, small, (peekUnwrap_spec positive inStep small).1⟩

theorem inStep_unwrap_new {value : BitVec w} (small : value.toNat < modulus M) :
    (SeqNumUnwrapper.unwrap M {} value).2.InStep M := by
  refine ⟨value, rfl, small, ?_⟩
  change (value.toNat : Int) % modulus M = value.toNat
  exact Int.emod_eq_of_lt (by omega) (by omega)

/-- A number less than half of a turn away is recovered. -/
theorem peekUnwrap_wrapped (positive : 0 < w) (inStep : unwrapper.InStep M) {number : Int}
    (near : Near M unwrapper.lastUnwrapped number) :
    peekUnwrap M unwrapper (wrapped M number) = number := by
  obtain ⟨congruent, moved⟩ := peekUnwrap_spec positive inStep (toNat_wrapped_lt M number)
  rw [toNat_wrapped] at congruent
  -- two congruent numbers less than a turn apart are equal
  have apart : |peekUnwrap M unwrapper (wrapped M number) - number| < modulus M := by
    have triangle := abs_sub_le (peekUnwrap M unwrapper (wrapped M number))
      unwrapper.lastUnwrapped number
    rw [abs_sub_comm unwrapper.lastUnwrapped] at triangle
    unfold Near at near
    omega
  have turns : (modulus M : Int) ∣ peekUnwrap M unwrapper (wrapped M number) - number :=
    Int.ModEq.dvd congruent.symm
  exact sub_eq_zero.mp (Int.eq_zero_of_abs_lt_dvd turns apart)

/-- All numbers of a run are recovered. -/
theorem unwrapAll_wrapped (positive : 0 < w) (inStep : unwrapper.InStep M) {numbers : List Int}
    (near : (unwrapper.lastUnwrapped :: numbers).IsChain (Near M)) :
    (unwrapAll M unwrapper (numbers.map (wrapped M))).1 = numbers := by
  induction numbers generalizing unwrapper with
  | nil => rfl
  | cons number rest ih =>
    obtain ⟨first, others⟩ := List.isChain_cons_cons.mp near
    have recovered := peekUnwrap_wrapped positive inStep first
    have next := inStep.unwrap positive (toNat_wrapped_lt M number)
    have nextNear : ((SeqNumUnwrapper.unwrap M unwrapper (wrapped M number)).2.lastUnwrapped ::
        rest).IsChain (Near M) := by
      rw [SeqNumUnwrapper.unwrap, recovered]
      exact others
    rw [List.map_cons, unwrapAll]
    dsimp only
    rw [ih next nextNear, unwrap_fst, recovered]

theorem inStep_unwrapAll (positive : 0 < w) {values : List (BitVec w)} (some : values ≠ [])
    (small : ∀ value ∈ values, value.toNat < modulus M)
    (before : unwrapper = {} ∨ unwrapper.InStep M) : (unwrapAll M unwrapper values).2.InStep M := by
  induction values generalizing unwrapper with
  | nil => exact absurd rfl some
  | cons value rest ih =>
    obtain ⟨valueSmall, restSmall⟩ := List.forall_mem_cons.mp small
    have next : (SeqNumUnwrapper.unwrap M unwrapper value).2.InStep M := by
      rcases before with rfl | inStep
      · exact inStep_unwrap_new valueSmall
      · exact inStep.unwrap positive valueSmall
    cases rest with
    | nil => exact next
    | cons other others => exact ih (List.cons_ne_nil other others) restSmall (.inr next)

/--
A sequence that starts within the first turn and moves by less than half of a turn is
recovered.  After any values, the result for one more is congruent to it, and at most
half of a turn away from the one before.
-/
theorem unwrap_recovers (positive : 0 < w) (M : BitVec w) :
    (∀ (first : Int) (rest : List Int), 0 ≤ first ∧ first < modulus M →
      (first :: rest).IsChain (Near M) →
      (unwrapAll M {} ((first :: rest).map (wrapped M))).1 = first :: rest) ∧
    ∀ (before : List (BitVec w)) (value : BitVec w),
      (∀ input ∈ value :: before, input.toNat < modulus M) →
      (unwrap M (unwrapAll M {} before).2 value).1 % modulus M = value.toNat ∧
      (before ≠ [] → 2 * |(unwrap M (unwrapAll M {} before).2 value).1 -
        (unwrapAll M {} before).2.lastUnwrapped| ≤ modulus M) := by
  refine ⟨fun first rest inRange near => ?_, fun before value small => ?_⟩
  · have isFirst : ((wrapped M first).toNat : Int) = first := by
      rw [toNat_wrapped, Int.emod_eq_of_lt inRange.1 inRange.2]
    have start : (SeqNumUnwrapper.unwrap M {} (wrapped M first)).2.InStep M :=
      inStep_unwrap_new (toNat_wrapped_lt M first)
    rw [List.map_cons, unwrapAll]
    dsimp only
    rw [unwrapAll_wrapped positive start ?_]
    · exact congrArg (· :: rest) isFirst
    · change (((wrapped M first).toNat : Int) :: rest).IsChain _
      rwa [isFirst]
  · obtain ⟨valueSmall, beforeSmall⟩ := List.forall_mem_cons.mp small
    refine ⟨?_, fun some => (peekUnwrap_spec positive
      (inStep_unwrapAll positive some beforeSmall (Or.inl rfl)) valueSmall).2⟩
    cases before with
    | nil =>
      change (value.toNat : Int) % modulus M = value.toNat
      exact Int.emod_eq_of_lt (by omega) (by omega)
    | cons other others =>
      exact (peekUnwrap_spec positive (inStep_unwrapAll positive (List.cons_ne_nil other others)
        beforeSmall (Or.inl rfl)) valueSmall).1

/-- Ten values in use: a sequence that wraps forward, and goes back below zero. -/
theorem unwrap_recovers_below_zero :
    (unwrapAll 10 {} (([8, 12, 9, 5, 1, -3] : List Int).map (wrapped (10 : BitVec 8)))).1 =
      [8, 12, 9, 5, 1, -3] :=
  (unwrap_recovers (by decide) 10).1 _ _ (by decide) (by simp [Near]; decide)

end MaeRtc.Base.SeqNumUnwrapper
