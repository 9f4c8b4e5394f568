import Mathlib

/-!
# Checked computations

A function whose source contains assertions is modelled in `Except`: a violated
assertion is an error.  `Ensures` says that such a computation returns and what
holds of its result; the rules follow the structure of the computation.
-/

namespace MaeRtc.Base

variable {ε α β : Type*}

/-- The computation returns, and its result has the property. -/
def Ensures (value : Except ε α) (Post : α → Prop) : Prop :=
  ∃ result, value = .ok result ∧ Post result

/-- The assertion of a condition. -/
def check (condition : Bool) (violation : ε) : Except ε Unit :=
  if condition then .ok () else .error violation

theorem ok_bind {α β : Type _} (result : α) (next : α → Except ε β) :
    (Except.ok result >>= next) = next result :=
  rfl

variable {Post : α → Prop}

theorem Ensures.ok {result : α} (holds : Post result) :
    Ensures (Except.ok result : Except ε α) Post :=
  ⟨result, rfl, holds⟩

theorem Ensures.bind {α β : Type _} {value : Except ε α} {next : α → Except ε β}
    {Middle : α → Prop} {Post : β → Prop} (first : Ensures value Middle)
    (second : ∀ result, Middle result → Ensures (next result) Post) :
    Ensures (value >>= next) Post := by
  obtain ⟨middle, rfl, holds⟩ := first
  exact second middle holds

theorem Ensures.ite {condition : Prop} [Decidable condition] {yes no : Except ε α}
    (whenTrue : condition → Ensures yes Post) (whenFalse : ¬condition → Ensures no Post) :
    Ensures (if condition then yes else no) Post := by
  split_ifs with holds
  · exact whenTrue holds
  · exact whenFalse holds

theorem Ensures.map {value : Except ε α} {f : α → β} {Post : β → Prop}
    (ensures : Ensures value fun result => Post (f result)) : Ensures (value.map f) Post := by
  obtain ⟨result, rfl, holds⟩ := ensures
  exact .ok holds

theorem Ensures.weaken {value : Except ε α} {Strong Weak : α → Prop}
    (ensures : Ensures value Strong) (weaker : ∀ result, Strong result → Weak result) :
    Ensures value Weak := by
  obtain ⟨result, returned, holds⟩ := ensures
  exact ⟨result, returned, weaker result holds⟩

variable {violation : ε}

/-- A condition that holds passes its assertion. -/
theorem Ensures.check {condition : Bool} (holds : condition = true) :
    Ensures (check condition violation) fun _ => True :=
  ⟨(), if_pos holds, trivial⟩

/-- What every step keeps holds at the end of a run. -/
theorem Ensures.foldlM {σ : Type _} {ι : Type*} {step : σ → ι → Except ε σ} {Holds : σ → Prop}
    (kept : ∀ state input, Holds state → Ensures (step state input) Holds) {start : σ}
    (initial : Holds start) (inputs : List ι) : Ensures (inputs.foldlM step start) Holds := by
  induction inputs generalizing start with
  | nil => exact .ok initial
  | cons input others ih =>
    exact .bind (kept start input initial) fun _ holds => ih holds

/-! ## Results, if there are any -/

/-- If the computation returns, its result has the property. -/
def Yields (value : Except ε α) (Post : α → Prop) : Prop :=
  ∀ result, value = .ok result → Post result

namespace Yields

theorem ok {result : α} (holds : Post result) : Yields (Except.ok result : Except ε α) Post := by
  rintro _ ⟨⟩
  exact holds

theorem error : Yields (Except.error violation : Except ε α) Post := by
  rintro _ ⟨⟩

theorem bind {α β : Type _} {value : Except ε α} {next : α → Except ε β} {Middle : α → Prop}
    {Post : β → Prop} (first : Yields value Middle)
    (second : ∀ result, Middle result → Yields (next result) Post) :
    Yields (value >>= next) Post := by
  cases value with
  | error violation => exact error
  | ok middle => exact second middle (first middle rfl)

theorem map {value : Except ε α} {f : α → β} {Post : β → Prop}
    (yields : Yields value fun result => Post (f result)) : Yields (value.map f) Post := by
  cases value with
  | error violation => exact error
  | ok result => exact ok (yields result rfl)

theorem weaken {value : Except ε α} {Strong Weak : α → Prop} (yields : Yields value Strong)
    (weaker : ∀ result, Strong result → Weak result) : Yields value Weak :=
  fun result returned => weaker result (yields result returned)

theorem check {condition : Bool} :
    Yields (check condition violation) fun _ => condition = true := by
  cases condition with
  | false => exact error
  | true => exact ok rfl

end Yields

end MaeRtc.Base
