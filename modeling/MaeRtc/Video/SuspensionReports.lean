import MaeRtc.Video.OveruseSignal

/-!
# Reports of a suspended video

A bitrate update reports that the video was suspended or resumed if this differs
from whether the encoder is paused.  The encoder never counts as paused, since
dropping frames is disabled.  So every update with a zero target reports a
suspension, and no update reports a resumption.
-/

namespace MaeRtc.Video

open MaeRtc.Base

namespace VideoStreamEncoder

/-- Dropping frames is disabled: the remembered target is not looked at. -/
def encoderPaused (_self : VideoStreamEncoder) : Bool :=
  false

/-- What an update with this target tells the observer of the statistics. -/
def suspendChange (self : VideoStreamEncoder) (targetBitrate : Nat) : Option Bool :=
  let videoIsSuspended := targetBitrate == 0
  let videoSuspensionChanged := videoIsSuspended != self.encoderPaused
  if videoSuspensionChanged then some videoIsSuspended else none

end VideoStreamEncoder

/-- An encoder with the notifications its observer got, the latest last. -/
structure ReportingEncoder where
  encoder : VideoStreamEncoder
  suspendChanges : List Bool

namespace ReportingEncoder

/-- A bitrate update with the notification it ends with, if any. -/
def onBitrateUpdated (self : ReportingEncoder) (allocators : Allocators)
    (update : BitrateUpdate) : ReportingEncoder :=
  let (targetBitrate, encoder) :=
    self.encoder.updateTargetBitrate update.targetBitrate update.cwndReduceRatio
  { encoder := self.encoder.onBitrateUpdated allocators update
    suspendChanges := self.suspendChanges ++ (encoder.suspendChange targetBitrate).toList }

def updates : Machine ReportingEncoder (Allocators × BitrateUpdate) where
  pre _ _ := True
  next self call := self.onBitrateUpdated call.1 call.2

def stops (call : Allocators × BitrateUpdate) : Bool :=
  call.2.targetBitrate == 0

/-- What the observer was told last; at first the video is not suspended. -/
def lastReport (self : ReportingEncoder) : Bool :=
  self.suspendChanges.getLast?.getD false

def stopped (calls : List (Allocators × BitrateUpdate)) : Bool :=
  (calls.getLast?.map stops).getD false

/-- The step: a suspension is reported whenever there is no target. -/
theorem suspendChanges_onBitrateUpdated (self : ReportingEncoder)
    (call : Allocators × BitrateUpdate) :
    (updates.next self call).suspendChanges =
      self.suspendChanges ++ List.replicate (stops call).toNat true := by
  change (self.onBitrateUpdated call.1 call.2).suspendChanges = _
  unfold onBitrateUpdated
  rw [VideoStreamEncoder.updateTargetBitrate_eq]
  unfold VideoStreamEncoder.suspendChange VideoStreamEncoder.encoderPaused stops
  dsimp only
  cases call.2.targetBitrate == 0 with
  | false => rfl
  | true => rfl

/-- The run: as many suspensions as updates without a target, and nothing else. -/
theorem suspendChanges_outcome (self : ReportingEncoder)
    (calls : List (Allocators × BitrateUpdate)) :
    (updates.outcome self calls).suspendChanges =
      self.suspendChanges ++ List.replicate (calls.countP stops) true := by
  induction calls generalizing self with
  | nil => simp
  | cons call rest ih =>
    rw [Machine.outcome_cons, ih, suspendChanges_onBitrateUpdated, List.append_assoc,
      ← List.replicate_add, List.countP_cons]
    cases stops call with
    | false => simp
    | true => simp [Nat.add_comm]

theorem isChain_replicate_iff (count : Nat) :
    (List.replicate count true).IsChain (· ≠ ·) ↔ count ≤ 1 := by
  rcases count with - | - | count
  · simp
  · simp
  · simp [List.replicate_succ]

/-- The last report says whether there is a target, and no report repeats the one before. -/
def ReportsSuspension (self : ReportingEncoder) (calls : List (Allocators × BitrateUpdate)) :
    Prop :=
  self.lastReport = stopped calls ∧ self.suspendChanges.IsChain (· ≠ ·)

/--
Starting without notifications, the suspension is reported as it should be exactly if
at most the last update has no target.
-/
theorem reportsSuspension_iff (encoder : VideoStreamEncoder)
    (calls : List (Allocators × BitrateUpdate)) :
    ReportsSuspension (updates.outcome ⟨encoder, []⟩ calls) calls ↔
      ∀ call ∈ calls.dropLast, call.2.targetBitrate ≠ 0 := by
  have changes := suspendChanges_outcome ⟨encoder, []⟩ calls
  rw [List.nil_append] at changes
  unfold ReportsSuspension lastReport
  rw [changes, isChain_replicate_iff]
  have condition : (∀ call ∈ calls.dropLast, call.2.targetBitrate ≠ 0) ↔
      calls.dropLast.countP stops = 0 := by
    simp [stops]
  rw [condition]
  rcases List.eq_nil_or_concat calls with rfl | ⟨earlier, last, rfl⟩
  · simp [stopped]
  · have total : (earlier ++ [last]).countP stops =
        earlier.countP stops + (stops last).toNat := by
      rw [List.countP_append, List.countP_singleton]
      cases stops last with
      | false => rfl
      | true => rfl
    have lastStops : stopped (earlier ++ [last]) = stops last := by simp [stopped]
    rw [List.concat_eq_append] at *
    rw [List.dropLast_concat, total, lastStops]
    cases stops last with
    | false =>
      rcases earlier.countP stops with - | count
      · simp
      · simp [List.replicate_succ']
    | true =>
      rcases earlier.countP stops with - | count
      · simp
      · simp

def unconfigured : VideoStreamEncoder where
  encoder := false
  minBitrateKbps := 0
  maxFramerate := none
  lastEncoderRateSettings := none
  cwndFrameDropInterval := none
  encoderTargetBitrateBps := none
  pendingEncoderReconfiguration := false
  lastParametersUpdateMs := none
  setRatesCalls := []

def updateTo (targetBitrate : Nat) : Allocators × BitrateUpdate :=
  (⟨none, none⟩, ⟨targetBitrate, targetBitrate, targetBitrate, 0, 0, 0⟩)

/-- A video that is resumed stays reported as suspended. -/
theorem resumption_not_reported :
    let calls := [updateTo 0, updateTo 100000]
    (updates.outcome ⟨unconfigured, []⟩ calls).lastReport = true ∧ stopped calls = false ∧
      ¬ ReportsSuspension (updates.outcome ⟨unconfigured, []⟩ calls) calls := by
  intro calls
  have told : (updates.outcome ⟨unconfigured, []⟩ calls).lastReport = true := by
    unfold lastReport
    rw [suspendChanges_outcome]
    rfl
  have running : stopped calls = false := rfl
  refine ⟨told, running, ?_⟩
  intro reports
  have same := reports.1
  rw [told, running] at same
  cases same

end ReportingEncoder

end MaeRtc.Video
