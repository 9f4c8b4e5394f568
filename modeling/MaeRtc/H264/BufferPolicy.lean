import MaeRtc.Base.Checked
import MaeRtc.H264.Lifecycle

/-!
# The size of the rate control buffer

The size of the buffer is to follow a policy that depends on the mode of the codec.
It is set when a stream is opened and again with every change of the rates, by
different branches.  When the rates change, mode 5 is treated like the adaptive mode 4;
when a stream is opened, mode 3 is treated like mode 2.
-/

namespace MaeRtc.H264.H264Encoder

open MaeRtc.Base MaeRtc.Video

/-! ## The policy -/

def bufferSize (bitrateKbps : Nat) (ratio : ℚ) : Nat :=
  ⌊bitrateKbps * ratio⌋₊

/-- 4% of the bitrate in the modes 3 and 5, and in mode 4 under overuse; 50% otherwise. -/
def FollowsPolicy (mode : Int) (isOverusedForEncoder : ℚ) (params : RateParams) : Prop :=
  (mode = 3 ∨ mode = 5 → params.vbvBufferSizeKbit = bufferSize params.bitrateKbps (4 / 100)) ∧
    (mode = 4 → params.vbvBufferSizeKbit = bufferSize params.bitrateKbps
      (if isOverusedForEncoder > 2 then 4 / 100 else 1 / 2)) ∧
    (mode = 2 → params.vbvBufferSizeKbit = bufferSize params.bitrateKbps (1 / 2))

theorem bufferSize_small (bitrateKbps : Nat) : bufferSize bitrateKbps (4 / 100) = bitrateKbps / 25 := by
  have quotient : (bitrateKbps : ℚ) * (4 / 100) = bitrateKbps / (25 : Nat) := by
    ring
  rw [bufferSize, quotient, Nat.floor_div_eq_div]

theorem bufferSize_large (bitrateKbps : Nat) : bufferSize bitrateKbps (1 / 2) = bitrateKbps / 2 := by
  have quotient : (bitrateKbps : ℚ) * (1 / 2) = bitrateKbps / (2 : Nat) := by
    ring
  rw [bufferSize, quotient, Nat.floor_div_eq_div]

/-- The two sizes only agree if there is hardly any bitrate. -/
theorem bufferSize_eq_iff (bitrateKbps : Nat) :
    bufferSize bitrateKbps (1 / 2) = bufferSize bitrateKbps (4 / 100) ↔ bitrateKbps ≤ 1 := by
  rw [bufferSize_small, bufferSize_large]
  omega

/-! ## The parameters after a change of the rates -/

structure Opened (encoder : H264Encoder) : Prop where
  live : encoder.encoder = .live
  streams : encoder.configurations ≠ []

theorem getSpatialLayerSum_le_getSumBps (allocation : VideoBitrateAllocation)
    (spatialIndex : Fin maxSpatialLayers) :
    allocation.getSpatialLayerSum spatialIndex ≤ allocation.getSumBps := by
  unfold VideoBitrateAllocation.getSumBps VideoBitrateAllocation.getSpatialLayerSum
  rw [allocation.sum_eq]
  exact Finset.single_le_sum_of_canonicallyOrdered
    (f := fun layer => ∑ index, (allocation.bitrates layer index).getD 0)
    (Finset.mem_univ spatialIndex)

/-- The parameters that a change of the rates puts in place. -/
def ratedParams (mode : Int) (params : RateParams) (parameters : RateControlParameters) :
    RateParams :=
  let bitrateKbps := parameters.bitrate.getSpatialLayerSum 0 / 1000
  { params with
    bitrateKbps := bitrateKbps
    vbvMaxBitrateKbps := bitrateKbps
    vbvBufferSizeKbit :=
      bufferSize bitrateKbps (vbvRatio mode parameters.isOverusedForEncoder) }

/-- The rates are valid and give a bitrate to the stream. -/
def Rated (parameters : RateControlParameters) : Prop :=
  1 ≤ parameters.framerateFps ∧ 0 < parameters.bitrate.getSpatialLayerSum 0

instance decidableRated (parameters : RateControlParameters) : Decidable (Rated parameters) :=
  inferInstanceAs (Decidable (_ ∧ _))

theorem Opened.setRates {self : H264Encoder} (opened : Opened self)
    (parameters : RateControlParameters) :
    Ensures (self.setRates parameters) fun next =>
      Opened next ∧ next.codecChoose = self.codecChoose ∧
        next.rateParams = if Rated parameters then
          ratedParams self.codecChoose self.rateParams parameters else self.rateParams := by
  obtain ⟨config, rest, configurationsEq⟩ := List.exists_cons_of_ne_nil opened.streams
  have notNull : ¬ self.encoder = .null := by simp [opened.live]
  unfold H264Encoder.setRates
  rw [if_neg notNull]
  by_cases slow : parameters.framerateFps < 1
  · have unrated : ¬ Rated parameters := fun rated => absurd slow rated.1.not_gt
    rw [if_pos slow, if_neg unrated]
    exact .ok ⟨opened, rfl, rfl⟩
  rw [if_neg slow]
  by_cases zero : parameters.bitrate.getSumBps = 0
  · have unrated : ¬ Rated parameters := by
      intro rated
      have le := getSpatialLayerSum_le_getSumBps parameters.bitrate 0
      have positive := rated.2
      omega
    rw [if_pos zero, if_neg unrated]
    exact .ok ⟨⟨opened.live, by simpa using opened.streams⟩, rfl, rfl⟩
  rw [if_neg zero, configurationsEq]
  by_cases positive : parameters.bitrate.getSpatialLayerSum 0 = 0
  · have unrated : ¬ Rated parameters := by
      intro rated
      have given := rated.2
      omega
    rw [if_neg unrated]
    simp only [positive]
    exact .ok ⟨⟨opened.live, by simp⟩, rfl, rfl⟩
  · have rated : Rated parameters := ⟨not_lt.mp slow, Nat.pos_of_ne_zero positive⟩
    rw [if_pos rated]
    simp only [positive, opened.live, ne_eq]
    exact .ok ⟨⟨rfl, by simp⟩, rfl, rfl⟩

theorem followsPolicy_ratedParams_iff (mode : Int) (params : RateParams)
    (parameters : RateControlParameters) :
    FollowsPolicy mode parameters.isOverusedForEncoder (ratedParams mode params parameters) ↔
      (mode = 5 → 2 < parameters.isOverusedForEncoder ∨
        parameters.bitrate.getSpatialLayerSum 0 / 1000 ≤ 1) := by
  unfold FollowsPolicy ratedParams
  generalize parameters.bitrate.getSpatialLayerSum 0 / 1000 = bitrateKbps
  generalize parameters.isOverusedForEncoder = overused
  constructor
  · rintro ⟨small, -, -⟩ rfl
    by_cases exceeds : overused > 2
    · exact .inl exceeds
    · have equal := small (.inr rfl)
      rw [vbvRatio, if_pos (by norm_num), if_neg exceeds, bufferSize_eq_iff] at equal
      exact .inr equal
  · intro five
    refine ⟨?_, ?_, ?_⟩
    · rintro (rfl | rfl)
      · rfl
      · rw [vbvRatio, if_pos (by norm_num)]
        rcases five rfl with exceeds | low
        · rw [if_pos exceeds]
        · split_ifs
          · rfl
          · exact (bufferSize_eq_iff bitrateKbps).mpr low
    · rintro rfl
      rfl
    · rintro rfl
      rfl

/-- Parameters that stay follow the policy for a new signal unless mode 4 has to adapt. -/
theorem followsPolicy_kept_iff {mode : Int} {before : ℚ} {params : RateParams}
    (follows : FollowsPolicy mode before params) (after : ℚ) :
    FollowsPolicy mode after params ↔
      (mode = 4 → (2 < after ↔ 2 < before) ∨ params.bitrateKbps ≤ 1) := by
  obtain ⟨small, adaptive, large⟩ := follows
  constructor
  · rintro ⟨-, adapted, -⟩ four
    have equal := (adaptive four).symm.trans (adapted four)
    by_cases wasOver : before > 2 <;> by_cases isOver : after > 2
    · exact .inl (iff_of_true isOver wasOver)
    · rw [if_pos wasOver, if_neg isOver] at equal
      exact .inr ((bufferSize_eq_iff _).mp equal.symm)
    · rw [if_neg wasOver, if_pos isOver] at equal
      exact .inr ((bufferSize_eq_iff _).mp equal)
    · exact .inl (iff_of_false isOver wasOver)
  · intro kept
    refine ⟨small, ?_, large⟩
    intro four
    rw [adaptive four]
    rcases kept four with same | low
    · simp only [same]
    have equal := (bufferSize_eq_iff _).mpr low
    split_ifs
    · rfl
    · exact equal.symm
    · exact equal
    · rfl

/-! ## Opening the streams -/

theorem initLayer_params (codec : VideoCodec) (idx i : Nat) (structureOk : Bool)
    (self : H264Encoder) :
    Yields (initLayer codec idx i structureOk self) fun result =>
      result.2.rateParams = self.rateParams ∧ result.2.codecChoose = self.codecChoose := by
  refine .bind (fun _ _ => trivial) fun config _ => ?_
  refine .bind (fun _ _ => trivial) fun _ _ => ?_
  split_ifs
  · refine .bind (fun _ _ => trivial) fun _ _ => ?_
    exact .ok ⟨rfl, rfl⟩
  · refine .bind (fun _ _ => trivial) fun _ _ => ?_
    exact .ok ⟨rfl, rfl⟩
  · exact .ok ⟨rfl, rfl⟩

theorem initStreams_params (codec : VideoCodec) (numberOfStreams : Nat)
    (results : Nat → InitResults) (indices : List Nat) (self : H264Encoder)
    (started : indices = [] → self.rateParams = initialRateParams self.codecChoose) :
    Yields (initStreams codec numberOfStreams results indices self) fun result =>
      result.1 = true → result.2.rateParams = initialRateParams self.codecChoose ∧
        result.2.codecChoose = self.codecChoose := by
  induction indices generalizing self with
  | nil => exact .ok fun _ => ⟨started rfl, rfl⟩
  | cons i rest ih =>
    have round : Yields (initStream codec numberOfStreams i (results i) self) fun result =>
        result.1 = true → result.2.rateParams = initialRateParams self.codecChoose ∧
          result.2.codecChoose = self.codecChoose := by
      unfold initStream
      split_ifs
      · exact (initLayer_params codec _ i _ _).weaken fun _ kept _ => kept
      · exact .ok nofun
    refine .bind round fun result opened => ?_
    cases succeeded : result.1 with
    | false =>
      simp only [succeeded]
      exact .ok nofun
    | true =>
      obtain ⟨params, mode⟩ := opened succeeded
      simp only [succeeded]
      rw [← mode]
      exact ih result.2 fun _ => params.trans (by rw [mode])

/-- An initialisation that succeeds opens the encoder and then sets the first rates. -/
theorem initEncode_opens {self first : H264Encoder} {inst : Option VideoCodec}
    {results : Nat → InitResults} {startRates : RateControlParameters}
    (initialised : self.initEncode inst results startRates = .ok (.ok, first)) :
    ∃ opened, Opened opened ∧ opened.codecChoose = self.codecChoose ∧
      opened.rateParams = initialRateParams self.codecChoose ∧
      opened.setRates startRates = .ok first := by
  unfold initEncode at initialised
  cases inst with
  | none => cases initialised
  | some codec =>
    dsimp only at initialised
    split_ifs at initialised
    · cases initialised
    · cases initialised
    · have positive := numberOfSimulcastStreams_pos codec
      generalize H264.numberOfSimulcastStreams codec = streams at *
      have nonempty : List.range streams ≠ [] := by simp [positive.ne']
      have sized : Sized (self.release.resize streams) streams :=
        ⟨by simp [resize], by simp [resize], by simp [resize]⟩
      obtain ⟨succeeded, next, loopEq, onSuccess, -⟩ := initStreams_ok codec results
        (List.range streams) (fun i member => List.mem_range.mp member) sized
        fun empty => absurd empty nonempty
      have params := initStreams_params codec streams results (List.range streams)
        (self.release.resize streams) (fun empty => absurd empty nonempty) _ loopEq
      rw [loopEq, ok_bind] at initialised
      cases succeeded with
      | false => cases initialised
      | true =>
        obtain ⟨nextSized, live⟩ := onSuccess rfl
        obtain ⟨paramsEq, modeEq⟩ := params rfl
        have streamsOpen : next.configurations ≠ [] := by
          rw [← List.length_pos_iff, nextSized.configurations]
          exact positive
        refine ⟨next, ⟨live, streamsOpen⟩, modeEq, paramsEq, ?_⟩
        cases rated : next.setRates startRates with
        | error fault =>
          rw [rated] at initialised
          cases initialised
        | ok final =>
          rw [rated, ok_bind] at initialised
          cases initialised
          rfl

theorem followsPolicy_initialRateParams_iff (mode : Int) (overused : ℚ) :
    FollowsPolicy mode overused (initialRateParams mode) ↔
      mode ≠ 3 ∧ (mode = 4 → overused ≤ 2) := by
  unfold FollowsPolicy initialRateParams
  constructor
  · rintro ⟨small, adaptive, -⟩
    constructor
    · rintro rfl
      have impossible := small (.inl rfl)
      rw [if_neg (by norm_num), bufferSize_small] at impossible
      exact absurd impossible (by norm_num)
    · rintro rfl
      by_contra! exceeds
      have impossible := adaptive rfl
      rw [if_neg (by norm_num), if_pos exceeds, bufferSize_small] at impossible
      exact absurd impossible (by norm_num)
  · rintro ⟨notThree, low⟩
    refine ⟨?_, ?_, ?_⟩
    · rintro (rfl | rfl)
      · exact absurd rfl notThree
      · exact (bufferSize_small 3000).symm
    · rintro rfl
      rw [if_neg (by norm_num), if_neg (low rfl).not_gt]
      exact (bufferSize_large 3000).symm
    · rintro rfl
      exact (bufferSize_large 3000).symm

/-! ## Runs -/

structure RatedEncoder where
  encoder : H264Encoder
  isOverusedForEncoder : ℚ

/-- Changes of the rates, each with a bitrate for the stream. -/
def rateChanges : Machine RatedEncoder RateControlParameters where
  pre _ parameters := 0 < parameters.bitrate.getSpatialLayerSum 0
  next state parameters :=
    match state.encoder.setRates parameters with
    | .ok encoder => ⟨encoder, parameters.isOverusedForEncoder⟩
    | .error _ => state

namespace RatedEncoder

def Follows (state : RatedEncoder) : Prop :=
  FollowsPolicy state.encoder.codecChoose state.isOverusedForEncoder state.encoder.rateParams

/--
Rates that are applied come with overuse in mode 5.  Rates that are ignored for their
frame rate do not change the overuse in mode 4.  A bitrate below 2 kbps does not matter.
-/
def Complies (state : RatedEncoder) (parameters : RateControlParameters) : Prop :=
  (1 ≤ parameters.framerateFps → state.encoder.codecChoose = 5 →
      2 < parameters.isOverusedForEncoder ∨
        parameters.bitrate.getSpatialLayerSum 0 / 1000 ≤ 1) ∧
    (parameters.framerateFps < 1 → state.encoder.codecChoose = 4 →
      (2 < parameters.isOverusedForEncoder ↔ 2 < state.isOverusedForEncoder) ∨
        state.encoder.rateParams.bitrateKbps ≤ 1)

instance decidableComplies (state : RatedEncoder) (parameters : RateControlParameters) :
    Decidable (Complies state parameters) :=
  inferInstanceAs (Decidable (_ ∧ _))

theorem Follows.next_iff {state : RatedEncoder} (follows : state.Follows)
    (opened : Opened state.encoder) {parameters : RateControlParameters}
    (positive : 0 < parameters.bitrate.getSpatialLayerSum 0) :
    Opened (rateChanges.next state parameters).encoder ∧
      ((rateChanges.next state parameters).Follows ↔ state.Complies parameters) := by
  obtain ⟨next, returned, nextOpened, mode, params⟩ := opened.setRates parameters
  have step : rateChanges.next state parameters = ⟨next, parameters.isOverusedForEncoder⟩ := by
    simp only [rateChanges, returned]
  rw [step]
  refine ⟨nextOpened, ?_⟩
  unfold Follows at follows ⊢
  unfold Complies
  rw [mode, params]
  rcases lt_or_ge parameters.framerateFps 1 with slow | valid
  · have unrated : ¬ Rated parameters := fun rated => absurd slow rated.1.not_gt
    rw [if_neg unrated, followsPolicy_kept_iff follows]
    simp [slow]
  · rw [if_pos ⟨valid, positive⟩, followsPolicy_ratedParams_iff]
    simp [valid]

end RatedEncoder

/-- The rates an initialisation ends with, or the initial parameters, follow the policy. -/
def StartComplies (mode : Int) (startRates : RateControlParameters) : Prop :=
  (Rated startRates → mode = 5 → 2 < startRates.isOverusedForEncoder ∨
      startRates.bitrate.getSpatialLayerSum 0 / 1000 ≤ 1) ∧
    (¬ Rated startRates → mode ≠ 3 ∧ (mode = 4 → startRates.isOverusedForEncoder ≤ 2))

instance decidableStartComplies (mode : Int) (startRates : RateControlParameters) :
    Decidable (StartComplies mode startRates) :=
  inferInstanceAs (Decidable (_ ∧ _))

/--
After an initialisation and along all changes of the rates the buffer follows the policy
of the mode, exactly if the first rates and then all changes comply.
-/
theorem followsPolicy_always_iff {self first : H264Encoder} {inst : Option VideoCodec}
    {results : Nat → InitResults} {startRates : RateControlParameters}
    (initialised : self.initEncode inst results startRates = .ok (.ok, first))
    {calls : List RateControlParameters} {last : RatedEncoder}
    (run : rateChanges.Run ⟨first, startRates.isOverusedForEncoder⟩ calls last) :
    (∀ count, (rateChanges.outcome ⟨first, startRates.isOverusedForEncoder⟩
      (calls.take count)).Follows) ↔
      StartComplies self.codecChoose startRates ∧
        (rateChanges.restrict RatedEncoder.Complies).Run
          ⟨first, startRates.isOverusedForEncoder⟩ calls last := by
  obtain ⟨opened, isOpened, mode, params, rated⟩ := initEncode_opens initialised
  obtain ⟨final, returned, finalOpened, finalMode, finalParams⟩ := isOpened.setRates startRates
  obtain rfl : first = final := Except.ok.inj (rated.symm.trans returned)
  have start : RatedEncoder.Follows ⟨first, startRates.isOverusedForEncoder⟩ ↔
      StartComplies self.codecChoose startRates := by
    unfold RatedEncoder.Follows StartComplies
    rw [finalMode, finalParams, mode, params]
    by_cases applied : Rated startRates
    · rw [if_pos applied, followsPolicy_ratedParams_iff]
      simp [applied]
    · rw [if_neg applied, followsPolicy_initialRateParams_iff]
      simp [applied]
  have goodIff (state : RatedEncoder) (parameters : RateControlParameters)
      (holds : state.Follows ∧ Opened state.encoder)
      (positive : rateChanges.pre state parameters) :
      (rateChanges.next state parameters).Follows ↔ state.Complies parameters :=
    (holds.1.next_iff holds.2 positive).2
  have kept (state : RatedEncoder) (parameters : RateControlParameters)
      (holds : state.Follows ∧ Opened state.encoder)
      (positive : rateChanges.pre state parameters) (complies : state.Complies parameters) :
      (rateChanges.next state parameters).Follows ∧
        Opened (rateChanges.next state parameters).encoder :=
    ⟨(goodIff state parameters holds positive).mpr complies, (holds.1.next_iff holds.2 positive).1⟩
  have whole (follows : RatedEncoder.Follows ⟨first, startRates.isOverusedForEncoder⟩) :=
    run.always_iff follows ⟨follows, finalOpened⟩ goodIff kept
  constructor
  · intro always
    have follows : RatedEncoder.Follows ⟨first, startRates.isOverusedForEncoder⟩ := always 0
    exact ⟨start.mp follows, (whole follows).mp always⟩
  · rintro ⟨startComplies, restricted⟩
    exact (whole (start.mpr startComplies)).mpr restricted

def overusedRates (bitrateBps : Nat) (isOverusedForEncoder : ℚ) : RateControlParameters :=
  { ratesOf bitrateBps with isOverusedForEncoder := isOverusedForEncoder }

instance decidableRateChange (state : RatedEncoder) (parameters : RateControlParameters) :
    Decidable ((rateChanges.restrict RatedEncoder.Complies).pre state parameters) :=
  inferInstanceAs (Decidable (_ < _ ∧ _))

/-- An initialisation in which the library succeeds, with 300 kbps to start with. -/
def initialise (mode : Int) : Except Fault (Status × H264Encoder) :=
  (create mode false .stray).initEncode (some singleStream)
    (fun _ => ⟨true, true, true, true, true⟩) (ratesOf 300000)

def initialised (mode : Int) : H264Encoder :=
  match initialise mode with
  | .ok (_, encoder) => encoder
  | .error _ => create mode false .stray

/-- The adaptive mode shrinks the buffer under overuse and enlarges it again. -/
theorem followsPolicy_adaptive :
    initialise 4 = .ok (.ok, initialised 4) ∧
      ∀ count, (rateChanges.outcome ⟨initialised 4, 0⟩
        ([overusedRates 500000 3, overusedRates 800000 1].take count)).Follows := by
  have opens : initialise 4 = .ok (.ok, initialised 4) := rfl
  have admitted : (rateChanges.restrict RatedEncoder.Complies).Admits ⟨initialised 4, 0⟩
      [overusedRates 500000 3, overusedRates 800000 1] := by
    decide +kernel
  refine ⟨opens, ?_⟩
  exact (followsPolicy_always_iff opens admitted.run.of_restrict).mpr
    ⟨by decide +kernel, admitted.run⟩

/-- In mode 5 the first rates already enlarge the buffer to half of the bitrate. -/
theorem constantBitrate_largeBuffer :
    initialise 5 = .ok (.ok, initialised 5) ∧
      (initialised 5).rateParams.bitrateKbps = 300 ∧
      (initialised 5).rateParams.vbvBufferSizeKbit = 150 ∧
      ¬ RatedEncoder.Follows ⟨initialised 5, 0⟩ := by
  have mode : (initialised 5).codecChoose = 5 := rfl
  have rate : (initialised 5).rateParams.bitrateKbps = 300 := by decide +kernel
  have size : (initialised 5).rateParams.vbvBufferSizeKbit = 150 := by decide +kernel
  refine ⟨rfl, rate, size, ?_⟩
  intro follows
  have small := follows.1 (Or.inr mode)
  rw [size, rate, bufferSize_small] at small
  exact absurd small (by norm_num)

end MaeRtc.H264.H264Encoder
