import Mathlib

/-!
# Machines with preconditions and their runs

A machine reads one input at a time.  Some inputs may only be given in some
states; `pre` records that contract and `Run` is the relation of all finite
runs that respect it.  The list carried by a run is its history, so that an
invariant may speak about everything read so far.
-/

namespace MaeRtc.Base

/-- A deterministic machine whose inputs carry a precondition. -/
structure Machine (σ : Type*) (ι : Type*) where
  pre : σ → ι → Prop
  next : σ → ι → σ

namespace Machine

variable {σ ι : Type*} (M : Machine σ ι)

/-- All finite runs: each input is admissible in the state that reads it. -/
inductive Run : σ → List ι → σ → Prop where
  | nil (state : σ) : Run state [] state
  | snoc {first last : σ} {inputs : List ι} (input : ι)
      (earlier : Run first inputs last) (admissible : M.pre last input) :
      Run first (inputs ++ [input]) (M.next last input)

variable {M} {inputs : List ι} {first last : σ}

/--
Invariant rule.  A property of histories and states that holds at the start
and is kept by every admissible input holds at the end of every run.
-/
theorem Run.invariant (run : M.Run first inputs last) (Holds : List ι → σ → Prop)
    (initial : Holds [] first) (kept : ∀ history state input, M.Run first history state →
      Holds history state → M.pre state input →
      Holds (history ++ [input]) (M.next state input)) :
    Holds inputs last := by
  induction run with
  | nil => exact initial
  | snoc input earlier admissible ih =>
    exact kept _ _ input earlier ih admissible

/-- The machine without its preconditions reads every list of inputs. -/
def outcome (M : Machine σ ι) (first : σ) (inputs : List ι) : σ :=
  inputs.foldl M.next first

@[simp] theorem outcome_nil (first : σ) : M.outcome first [] = first :=
  rfl

theorem outcome_cons (first : σ) (input : ι) (rest : List ι) :
    M.outcome first (input :: rest) = M.outcome (M.next first input) rest :=
  rfl

@[simp] theorem outcome_snoc (first : σ) (inputs : List ι) (input : ι) :
    M.outcome first (inputs ++ [input]) = M.next (M.outcome first inputs) input := by
  simp [outcome]

/-- The last state of a run is the outcome of its inputs. -/
theorem Run.last_eq (run : M.Run first inputs last) : last = M.outcome first inputs := by
  induction run with
  | nil => rfl
  | snoc input earlier admissible ih => rw [outcome_snoc, ← ih]

/-- Every input of the list is admissible where the machine reads it. -/
def Admits (M : Machine σ ι) : σ → List ι → Prop
  | _, [] => True
  | state, input :: rest => M.pre state input ∧ M.Admits (M.next state input) rest

theorem admits_of_forall (always : ∀ input ∈ inputs, ∀ state, M.pre state input) (first : σ) :
    M.Admits first inputs := by
  induction inputs generalizing first with
  | nil => trivial
  | cons input rest ih =>
    obtain ⟨now, later⟩ := List.forall_mem_cons.mp always
    exact ⟨now first, ih later (M.next first input)⟩

instance decidableAdmits [∀ state input, Decidable (M.pre state input)] :
    ∀ (first : σ) (inputs : List ι), Decidable (M.Admits first inputs)
  | _, [] => isTrue trivial
  | first, input :: rest =>
    have := decidableAdmits (M.next first input) rest
    inferInstanceAs (Decidable (_ ∧ _))

/-- A run may be continued by any list the machine admits in its last state. -/
theorem Run.extend {middle : σ} (more : List ι) {first : σ} (run : M.Run first inputs middle)
    (admitted : M.Admits middle more) : M.Run first (inputs ++ more) (M.outcome middle more) := by
  induction more generalizing inputs middle with
  | nil => simpa using run
  | cons input rest ih =>
    have extended := ih (run.snoc input admitted.1) admitted.2
    simpa [outcome] using extended

/-- A list that is admitted from the start on is the history of a run. -/
theorem Admits.run {first : σ} (admitted : M.Admits first inputs) :
    M.Run first inputs (M.outcome first inputs) := by
  simpa using (Run.nil first).extend inputs admitted

/-- A machine that admits everything runs over every list. -/
theorem Run.of_always (always : ∀ state input, M.pre state input) (first : σ) (inputs : List ι) :
    M.Run first inputs (M.outcome first inputs) :=
  (admits_of_forall (fun input _ state => always state input) first).run

/-- The machine with one more condition on what it reads in which state. -/
def restrict (M : Machine σ ι) (condition : σ → ι → Prop) : Machine σ ι where
  pre state input := M.pre state input ∧ condition state input
  next := M.next

/-- Dropping the extra condition leaves a run of the machine itself. -/
theorem Run.of_restrict {condition : σ → ι → Prop}
    (run : (M.restrict condition).Run first inputs last) : M.Run first inputs last := by
  induction run with
  | nil => exact .nil _
  | snoc input _ admissible ih => exact ih.snoc input admissible.1

/-- A run with one more input is a run followed by an admissible step. -/
theorem Run.of_snoc {input : ι} (run : M.Run first (inputs ++ [input]) last) :
    ∃ middle, M.Run first inputs middle ∧ M.pre middle input ∧ last = M.next middle input := by
  generalize historyEq : inputs ++ [input] = history at run
  cases run with
  | nil => exact absurd historyEq (by simp)
  | snoc final earlier admissible =>
    obtain ⟨rfl, rfl⟩ := List.append_singleton_inj.mp historyEq
    exact ⟨_, earlier, admissible, rfl⟩

/--
Characterisation rule.  Suppose an invariant is kept by every step that meets a
condition, and that in a state with the invariant a step leads to a good state
exactly if it meets the condition.  Then the states after all beginnings of a
run are good exactly if every step of the run meets the condition.
-/
theorem Run.always_iff (run : M.Run first inputs last) {Good Holds : σ → Prop}
    {condition : σ → ι → Prop} (initialGood : Good first) (initial : Holds first)
    (good_iff : ∀ state input, Holds state → M.pre state input →
      (Good (M.next state input) ↔ condition state input))
    (kept : ∀ state input, Holds state → M.pre state input → condition state input →
      Holds (M.next state input)) :
    (∀ count, Good (M.outcome first (inputs.take count))) ↔
      (M.restrict condition).Run first inputs last := by
  have restrictedHolds : ∀ {inputs last}, (M.restrict condition).Run first inputs last →
      Holds last := by
    intro inputs last restricted
    exact restricted.invariant (fun _ state => Holds state) initial
      fun _ state input _ holds admissible =>
        kept state input holds admissible.1 admissible.2
  induction run with
  | nil => exact ⟨fun _ => .nil _, fun _ count => by simpa using initialGood⟩
  | @snoc middle earlierInputs input earlier admissible ih =>
    have beginning : ∀ count ≤ earlierInputs.length,
        (earlierInputs ++ [input]).take count = earlierInputs.take count :=
      fun count within => List.take_append_of_le_length within
    constructor
    · intro good
      have earlierGood : ∀ count, Good (M.outcome first (earlierInputs.take count)) := by
        intro count
        rw [List.take_eq_take_min, ← beginning _ (min_le_right _ _)]
        exact good _
      have restricted := ih.mp earlierGood
      refine restricted.snoc input ⟨admissible, ?_⟩
      refine (good_iff middle input (restrictedHolds restricted) admissible).mp ?_
      have final := good (earlierInputs ++ [input]).length
      rw [List.take_length, outcome_snoc, ← earlier.last_eq] at final
      exact final
    · intro restricted
      obtain ⟨other, earlierRestricted, ⟨_, meets⟩, _⟩ := restricted.of_snoc
      obtain rfl : other = middle :=
        earlierRestricted.of_restrict.last_eq.trans earlier.last_eq.symm
      intro count
      rcases le_or_gt count earlierInputs.length with within | beyond
      · rw [beginning count within]
        exact ih.mpr earlierRestricted count
      · rw [List.take_of_length_le (by simpa using beyond), outcome_snoc, ← earlier.last_eq]
        exact (good_iff other input (restrictedHolds earlierRestricted) admissible).mpr meets

end Machine

end MaeRtc.Base
