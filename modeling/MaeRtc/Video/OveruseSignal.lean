import MaeRtc.Video.VideoStreamEncoder

/-!
# The overuse signal on its way to the encoder

Every bitrate update carries the overuse signal of the network.  The signal
reaches the encoder in a `SetRates` call, and such a call is made only if the
compared rate control parameters change.  Over whole runs the encoder knows the
latest signal exactly if no update brings a new signal with parameters that
compare equal to the remembered ones.
-/

namespace MaeRtc.Video.VideoStreamEncoder

open MaeRtc.Base

/-! ## One application of rate settings -/

section

variable (self : VideoStreamEncoder) (settings : EncoderRateSettings)

@[simp] theorem setEncoderRates_encoder :
    (self.setEncoderRates settings).encoder = self.encoder := by
  unfold setEncoderRates
  dsimp only
  split_ifs <;> rfl

@[simp] theorem setEncoderRates_last :
    (self.setEncoderRates settings).lastEncoderRateSettings = self.remember settings := by
  unfold setEncoderRates
  dsimp only
  split_ifs <;> rfl

end

variable {settings : EncoderRateSettings} {self : VideoStreamEncoder} {input : Input}
  {state : Audited}

theorem setEncoderRates_calls (present : self.encoder = true)
    (nonzero : settings.rateControl.bitrate.getSumBps ≠ 0) :
    (self.setEncoderRates settings).setRatesCalls =
      if self.rateControlChanged settings then
        settings.rateControl :: self.setRatesCalls
      else self.setRatesCalls := by
  unfold setEncoderRates
  split_ifs <;> simp_all

@[simp] theorem updateBitrateAllocation_overused (allocators : Allocators)
    (settings : EncoderRateSettings) :
    (updateBitrateAllocation allocators settings).rateControl.isOverusedForEncoder =
      settings.rateControl.isOverusedForEncoder := by
  unfold updateBitrateAllocation
  dsimp only
  split <;> rfl

theorem updateTargetBitrate_eq (self : VideoStreamEncoder) (targetBitrate : Nat)
    (cwndReduceRatio : ℚ) :
    self.updateTargetBitrate targetBitrate cwndReduceRatio =
      (targetBitrate, { self with cwndFrameDropInterval := none }) := by
  simp [updateTargetBitrate]

theorem remember_overused {signal : ℚ}
    (carries : settings.rateControl.isOverusedForEncoder = signal)
    (same : ∀ last, self.lastEncoderRateSettings = some last →
      self.rateControlChanged settings = false →
      last.rateControl.isOverusedForEncoder = signal) :
    (self.remember settings).map (·.rateControl.isOverusedForEncoder) = some signal := by
  unfold remember
  cases lastEq : self.lastEncoderRateSettings with
  | none => simp [carries]
  | some last =>
    by_cases differ : last != settings
    · simp [differ, carries]
    -- equal settings have equal parameters, so nothing counts as changed
    have unchanged : self.rateControlChanged settings = false := by
      have equal : (last == settings) = true := by simpa [bne] using differ
      have : (last.rateControl == settings.rateControl) = true :=
        (Bool.and_eq_true_iff.mp (Bool.and_eq_true_iff.mp equal).1).1
      simp [rateControlChanged, lastEq, bne, this]
    simp [differ, same last lastEq unchanged]

/-! ## Everything that applies rate settings -/

inductive Input where
  | onBitrateUpdated (allocators : Allocators) (update : BitrateUpdate)
  | maybeEncodeVideoFrame (codec : Codec) (allocators : Allocators)
      (frameInfoChanged : Bool) (inputFps : Option Nat) (nowMs : Int)
  | configureEncoder (codec : Codec) (allocators : Allocators) (frameSeen : Bool)
      (inputFps : Option Nat)

def apply (self : VideoStreamEncoder) : Input → VideoStreamEncoder
  | .onBitrateUpdated allocators update => self.onBitrateUpdated allocators update
  | .maybeEncodeVideoFrame codec allocators frameInfoChanged inputFps nowMs =>
    self.maybeEncodeVideoFrame codec allocators frameInfoChanged inputFps nowMs
  | .configureEncoder codec allocators frameSeen inputFps =>
    self.configureEncoder codec allocators frameSeen inputFps

/-- The settings an input hands to `setEncoderRates`, if it does. -/
def settingsApplied (self : VideoStreamEncoder) : Input → Option EncoderRateSettings
  | .onBitrateUpdated allocators update =>
    some (settingsOfUpdate allocators update.targetBitrate update)
  | .maybeEncodeVideoFrame codec allocators frameInfoChanged inputFps nowMs =>
    if frameInfoChanged || self.pendingEncoderReconfiguration then
      self.reconfiguredSettings codec allocators inputFps
    else if self.refreshDue nowMs then
      self.refreshedSettings allocators (self.getInputFramerateFps inputFps)
    else none
  | .configureEncoder codec allocators frameSeen inputFps =>
    if frameSeen then self.reconfiguredSettings codec allocators inputFps else none

/-- Two encoders agree on what rate control is about. -/
structure SameRates (one two : VideoStreamEncoder) : Prop where
  encoder : one.encoder = two.encoder
  last : one.lastEncoderRateSettings = two.lastEncoderRateSettings
  calls : one.setRatesCalls = two.setRatesCalls

theorem SameRates.setEncoderRates {one two : VideoStreamEncoder} (same : SameRates one two)
    (settings : EncoderRateSettings) :
    SameRates (one.setEncoderRates settings) (two.setEncoderRates settings) := by
  have remembered : one.remember settings = two.remember settings := by
    simp only [remember, same.last]
  have changed : one.rateControlChanged settings = two.rateControlChanged settings := by
    simp only [rateControlChanged, same.last]
  refine ⟨by simp [same.encoder], by simp [remembered], ?_⟩
  unfold VideoStreamEncoder.setEncoderRates
  dsimp only
  rw [changed, same.encoder]
  split_ifs <;> simp [same.calls]

/--
A reconfiguration, pending or not, applies the last settings again after
clearing the cache.
-/
theorem reconfigureEncoder_cases (self : VideoStreamEncoder) (pending : Bool)
    (codec : Codec) (allocators : Allocators) (inputFps : Option Nat) :
    (self.reconfiguredSettings codec allocators inputFps = none ∧
        SameRates (reconfigureEncoder { self with pendingEncoderReconfiguration := pending }
          codec allocators inputFps) self) ∨
      ∃ settings,
        self.reconfiguredSettings codec allocators inputFps = some settings ∧
        SameRates (reconfigureEncoder { self with pendingEncoderReconfiguration := pending }
          codec allocators inputFps)
          ({ self with lastEncoderRateSettings := none }.setEncoderRates settings) := by
  have settingsEq : reconfiguredSettings { self with pendingEncoderReconfiguration := pending }
      codec allocators inputFps = self.reconfiguredSettings codec allocators inputFps := rfl
  unfold reconfigureEncoder
  rw [settingsEq]
  cases self.reconfiguredSettings codec allocators inputFps with
  | none => exact .inl ⟨rfl, rfl, rfl, rfl⟩
  | some settings =>
    refine .inr ⟨settings, rfl, ?_⟩
    refine SameRates.setEncoderRates ?_ settings
    exact ⟨rfl, rfl, rfl⟩

/-- The overuse signal an input brings from the network. -/
def Input.signal : Input → Option ℚ
  | .onBitrateUpdated _ update => some update.isOverusedForEncoder
  | _ => none

/--
What an input does to the rates: nothing, or one application of settings to the
encoder, whose cache only a reconfiguration clears beforehand.
-/
theorem apply_cases (self : VideoStreamEncoder) (input : Input) :
    (self.settingsApplied input = none ∧ SameRates (self.apply input) self) ∨
      ∃ settings, self.settingsApplied input = some settings ∧
        (SameRates (self.apply input) (self.setEncoderRates settings) ∨
          input.signal = none ∧ SameRates (self.apply input)
            ({ self with lastEncoderRateSettings := none }.setEncoderRates settings)) := by
  cases input with
  | onBitrateUpdated allocators update =>
    refine .inr ⟨_, rfl, .inl ?_⟩
    have same : SameRates { self with cwndFrameDropInterval := none } self := ⟨rfl, rfl, rfl⟩
    obtain ⟨encoder, last, calls⟩ := same.setEncoderRates
      (settingsOfUpdate allocators update.targetBitrate update)
    simp only [apply, onBitrateUpdated, updateTargetBitrate_eq]
    exact ⟨encoder, last, calls⟩
  | maybeEncodeVideoFrame codec allocators frameInfoChanged inputFps nowMs =>
    by_cases pending : (frameInfoChanged || self.pendingEncoderReconfiguration) = true
    · have applied : self.apply
          (.maybeEncodeVideoFrame codec allocators frameInfoChanged inputFps nowMs) =
          { reconfigureEncoder { self with pendingEncoderReconfiguration := true }
              codec allocators inputFps with lastParametersUpdateMs := some nowMs } := by
        unfold apply maybeEncodeVideoFrame
        cases frameInfoChanged with
        | true => simp
        | false =>
          have already : self.pendingEncoderReconfiguration = true := by simpa using pending
          have unchanged : { self with pendingEncoderReconfiguration := true } = self := by
            rw [← already]
          simp [already, unchanged]
      have settingsEq : self.settingsApplied
          (.maybeEncodeVideoFrame codec allocators frameInfoChanged inputFps nowMs) =
          self.reconfiguredSettings codec allocators inputFps := if_pos pending
      rw [applied, settingsEq]
      rcases reconfigureEncoder_cases self true codec allocators inputFps with
        ⟨noSettings, same⟩ | ⟨settings, applied, same⟩
      · exact .inl ⟨noSettings, same.encoder, same.last, same.calls⟩
      · exact .inr ⟨settings, applied, .inr ⟨rfl, same.encoder, same.last, same.calls⟩⟩
    · obtain ⟨rfl, notPending⟩ : frameInfoChanged = false ∧
          self.pendingEncoderReconfiguration = false := by simpa using pending
      by_cases due : self.refreshDue nowMs = true
      · simp only [apply, settingsApplied, maybeEncodeVideoFrame, notPending, due,
          refreshRates, Bool.false_eq_true, if_false]
        cases self.refreshedSettings allocators (self.getInputFramerateFps inputFps) with
        | none => exact .inl ⟨rfl, rfl, rfl, rfl⟩
        | some settings => exact .inr ⟨settings, rfl, .inl ⟨rfl, rfl, rfl⟩⟩
      · refine .inl ⟨by simp [settingsApplied, notPending, due], ?_⟩
        simp only [apply, maybeEncodeVideoFrame, notPending, due, Bool.false_eq_true, if_false]
        exact ⟨rfl, rfl, rfl⟩
  | configureEncoder codec allocators frameSeen inputFps =>
    cases frameSeen with
    | false => exact .inl ⟨rfl, rfl, rfl, rfl⟩
    | true =>
      rcases reconfigureEncoder_cases self true codec allocators inputFps with
        ⟨noSettings, same⟩ | ⟨settings, applied, same⟩
      · exact .inl ⟨noSettings, same⟩
      · exact .inr ⟨settings, applied, .inr ⟨rfl, same⟩⟩

/-- The settings an input applies carry its own signal or the remembered one. -/
theorem settingsApplied_overused (applied : self.settingsApplied input = some settings) :
    some settings.rateControl.isOverusedForEncoder = input.signal.or
      (self.lastEncoderRateSettings.map (·.rateControl.isOverusedForEncoder)) := by
  have refreshed : ∀ allocators framerateFps,
      self.refreshedSettings allocators framerateFps = some settings →
      some settings.rateControl.isOverusedForEncoder =
        self.lastEncoderRateSettings.map (·.rateControl.isOverusedForEncoder) := by
    intro allocators framerateFps settings
    obtain ⟨last, lastEq, rfl⟩ := Option.map_eq_some_iff.mp settings
    simp [lastEq]
  have reconfigured : ∀ codec allocators inputFps,
      self.reconfiguredSettings codec allocators inputFps = some settings →
      some settings.rateControl.isOverusedForEncoder =
        self.lastEncoderRateSettings.map (·.rateControl.isOverusedForEncoder) := by
    intro codec allocators inputFps settings
    unfold reconfiguredSettings at settings
    split at settings
    · exact refreshed _ _ settings
    · cases settings
  cases input with
  | onBitrateUpdated allocators update =>
    cases applied
    simp [settingsOfUpdate, Input.signal]
  | maybeEncodeVideoFrame codec allocators frameInfoChanged inputFps nowMs =>
    simp only [settingsApplied] at applied
    split_ifs at applied
    · exact reconfigured _ _ _ applied
    · exact refreshed _ _ applied
  | configureEncoder codec allocators frameSeen inputFps =>
    simp only [settingsApplied] at applied
    split_ifs at applied
    exact reconfigured _ _ _ applied

/-! ## Runs -/

structure Audited where
  self : VideoStreamEncoder
  latestSignal : Option ℚ

/-- The signal the encoder was told in the most recent `SetRates` call. -/
def forwardedSignal (self : VideoStreamEncoder) : Option ℚ :=
  self.setRatesCalls.head?.map (·.isOverusedForEncoder)

def InSync (state : Audited) : Prop :=
  state.self.forwardedSignal = state.latestSignal

/-- Inputs are read while an encoder is present and give it a non-zero bitrate. -/
def machine : Machine Audited Input where
  pre state input :=
    state.self.encoder = true ∧ ∀ settings ∈ state.self.settingsApplied input,
      settings.rateControl.bitrate.getSumBps ≠ 0
  next state input :=
    { self := state.self.apply input
      latestSignal := input.signal.or state.latestSignal }

/-- A bitrate update changes the compared parameters or repeats the latest signal. -/
def SignalGetsThrough (state : Audited) : Input → Prop
  | .onBitrateUpdated allocators update =>
    state.self.rateControlChanged
        (settingsOfUpdate allocators update.targetBitrate update) = true ∨
      state.latestSignal = some update.isOverusedForEncoder
  | _ => True

/-- An encoder to which no rates were applied yet. -/
structure Fresh (state : Audited) : Prop where
  noSettings : state.self.lastEncoderRateSettings = none
  noCalls : state.self.setRatesCalls = []
  noSignal : state.latestSignal = none

/-- Both the encoder and the remembered settings know the latest signal. -/
structure Agreed (state : Audited) : Prop where
  inSync : InSync state
  remembered : state.self.lastEncoderRateSettings.map
    (·.rateControl.isOverusedForEncoder) = state.latestSignal

theorem signalGetsThrough_iff (applied : state.self.settingsApplied input = some settings) :
    SignalGetsThrough state input ↔ input.signal = none ∨
      state.self.rateControlChanged settings = true ∨
      state.latestSignal = input.signal.or state.latestSignal := by
  cases input with
  | onBitrateUpdated allocators update =>
    cases applied
    simp [SignalGetsThrough, Input.signal]
  | _ => simp [SignalGetsThrough, Input.signal]

theorem SameRates.forwardedSignal_eq {one two : VideoStreamEncoder}
    (same : SameRates one two) : one.forwardedSignal = two.forwardedSignal := by
  unfold forwardedSignal
  rw [same.calls]

/-- An application of settings tells the encoder their signal if they changed. -/
theorem forwardedSignal_setEncoderRates (present : self.encoder = true)
    (nonzero : settings.rateControl.bitrate.getSumBps ≠ 0) :
    (self.setEncoderRates settings).forwardedSignal =
      if self.rateControlChanged settings then
        some settings.rateControl.isOverusedForEncoder
      else self.forwardedSignal := by
  unfold forwardedSignal
  rw [setEncoderRates_calls present nonzero]
  split_ifs <;> rfl

/-- One step: the encoder is told the latest signal exactly under the condition. -/
theorem Agreed.inSync_next_iff (agreed : Agreed state) (admissible : machine.pre state input) :
    InSync (machine.next state input) ↔ SignalGetsThrough state input := by
  obtain ⟨present, nonzero⟩ := admissible
  have known : state.self.forwardedSignal = state.latestSignal := agreed.inSync
  change (state.self.apply input).forwardedSignal = input.signal.or state.latestSignal ↔ _
  rcases apply_cases state.self input with ⟨noSettings, same⟩ | ⟨settings, applied, cases⟩
  · rw [same.forwardedSignal_eq, known]
    cases input with
    | onBitrateUpdated allocators update => exact absurd noSettings (by simp [settingsApplied])
    | _ => simp [Input.signal, SignalGetsThrough]
  · have carried := settingsApplied_overused applied
    rw [agreed.remembered] at carried
    rw [signalGetsThrough_iff applied]
    rcases cases with same | ⟨noSignal, same⟩
    · rw [same.forwardedSignal_eq,
        forwardedSignal_setEncoderRates present (nonzero _ applied), carried, known]
      cases changed : state.self.rateControlChanged settings with
      | true => simp
      | false => cases signalEq : input.signal <;> simp
    · have cleared : ({ state.self with lastEncoderRateSettings := none } :
          VideoStreamEncoder).encoder = true := present
      rw [same.forwardedSignal_eq,
        forwardedSignal_setEncoderRates cleared (nonzero _ applied), carried]
      simp [rateControlChanged, noSignal]

theorem Agreed.next (agreed : Agreed state) (admissible : machine.pre state input)
    (through : SignalGetsThrough state input) : Agreed (machine.next state input) := by
  refine ⟨(agreed.inSync_next_iff admissible).mpr through, ?_⟩
  change (state.self.apply input).lastEncoderRateSettings.map _ = input.signal.or state.latestSignal
  rcases apply_cases state.self input with ⟨noSettings, same⟩ | ⟨settings, applied, cases⟩
  · rw [same.last, agreed.remembered]
    cases input with
    | onBitrateUpdated allocators update => exact absurd noSettings (by simp [settingsApplied])
    | _ => simp [Input.signal]
  · have carried := settingsApplied_overused applied
    rw [agreed.remembered] at carried
    rw [← carried]
    rcases cases with same | ⟨_, same⟩
    · rw [same.last, setEncoderRates_last]
      refine remember_overused rfl ?_
      intro last lastEq unchanged
      have remembered := agreed.remembered
      rw [lastEq, Option.map_some] at remembered
      have repeated : state.latestSignal = input.signal.or state.latestSignal := by
        rcases (signalGetsThrough_iff applied).mp through with noSignal | changed | repeated
        · simp [noSignal]
        · rw [unchanged] at changed
          cases changed
        · exact repeated
      exact Option.some.inj (remembered.trans (repeated.trans carried.symm))
    · rw [same.last, setEncoderRates_last]
      exact remember_overused rfl fun last lastEq _ => absurd lastEq (by simp)

/--
In every run from an encoder without rates, the encoder knows the latest
overuse signal after every call exactly if each bitrate update changes the
compared parameters or repeats the latest signal.
-/
theorem inSync_always_iff (first last : Audited) (inputs : List Input)
    (fresh : Fresh first) (run : machine.Run first inputs last) :
    (∀ count, InSync (machine.outcome first (inputs.take count))) ↔
      (machine.restrict SignalGetsThrough).Run first inputs last := by
  have initial : Agreed first := by
    refine ⟨?_, ?_⟩
    · simp [InSync, forwardedSignal, fresh.noCalls, fresh.noSignal]
    · simp [fresh.noSettings, fresh.noSignal]
  exact run.always_iff initial.inSync initial
    (fun _ _ agreed admissible => agreed.inSync_next_iff admissible)
    (fun _ _ agreed admissible through => agreed.next admissible through)

def created : Audited where
  self :=
    { encoder := true
      minBitrateKbps := 30
      maxFramerate := some 30
      lastEncoderRateSettings := none
      cwndFrameDropInterval := none
      encoderTargetBitrateBps := none
      pendingEncoderReconfiguration := false
      lastParametersUpdateMs := none
      setRatesCalls := [] }
  latestSignal := none

/-- A rate allocator that gives the whole target to the first layer. -/
def singleLayer : Allocators where
  rateAllocator := some fun target _ _ =>
    (VideoBitrateAllocation.empty.setBitrate 0 0 target).2
  bitrateAdjuster := none

/-- An update of a link that is used up by the encoder. -/
def updateOf (targetBitrate : Nat) (isOverusedForEncoder : ℚ) : Input :=
  .onBitrateUpdated singleLayer
    { targetBitrate := targetBitrate
      stableTargetBitrate := targetBitrate
      linkAllocation := targetBitrate
      roundTripTimeMs := 50
      cwndReduceRatio := 0
      isOverusedForEncoder := isOverusedForEncoder }

/-- Two updates with different targets: the second signal reaches the encoder. -/
theorem inSync_always_of_new_target :
    ∃ last, machine.Run created [updateOf 300000 0, updateOf 250000 1] last ∧
      last.self.forwardedSignal = some 1 ∧
      ∀ count, InSync (machine.outcome created
        ([updateOf 300000 0, updateOf 250000 1].take count)) := by
  have restricted : (machine.restrict SignalGetsThrough).Run created
      [updateOf 300000 0, updateOf 250000 1]
      (machine.outcome created [updateOf 300000 0, updateOf 250000 1]) := by
    refine Machine.Admits.run ⟨⟨⟨rfl, ?_⟩, Or.inl rfl⟩, ⟨⟨?_, ?_⟩, Or.inl ?_⟩, trivial⟩
    · rintro _ ⟨⟩
      decide +kernel
    · decide +kernel
    · rintro _ ⟨⟩
      decide +kernel
    · decide +kernel
  refine ⟨_, restricted.of_restrict, by decide +kernel, ?_⟩
  exact (inSync_always_iff _ _ _ ⟨rfl, rfl, rfl⟩ restricted.of_restrict).mpr restricted

/--
The same target with another signal: the parameters compare equal, `SetRates`
is not called, and the encoder still holds the old signal.
-/
theorem signal_lost_with_same_target :
    ∃ last, machine.Run created [updateOf 300000 0, updateOf 300000 1] last ∧
      last.latestSignal = some 1 ∧ last.self.forwardedSignal = some 0 := by
  refine ⟨_, Machine.Admits.run ⟨⟨rfl, ?_⟩, ⟨?_, ?_⟩, trivial⟩, rfl, by decide +kernel⟩
  · rintro _ ⟨⟩
    decide +kernel
  · decide +kernel
  · rintro _ ⟨⟩
    decide +kernel

end MaeRtc.Video.VideoStreamEncoder
