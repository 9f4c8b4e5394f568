import MaeRtc.H264.Encoder

/-!
# Lifecycle of the H.264 encoder

`Release`, a failed `Encode` and a failed `InitEncode` leave the encoder without
a handle but with `inited` set.  `Encode` checks `inited` only.  The vectors and
the handle are consistent in every state, so that a run is free of faults
exactly if `Encode` is not reached without an open handle.
-/

namespace MaeRtc.H264.H264Encoder

open MaeRtc.Base MaeRtc.Video

/-- The vectors have the same size, and an open handle comes with streams. -/
structure Consistent (encoder : H264Encoder) : Prop where
  images : encoder.encodedImages.length = encoder.configurations.length
  controllers : encoder.svcControllers.length = encoder.configurations.length
  live : encoder.encoder = .live → encoder.configurations ≠ []
  stray : encoder.encoder = .stray → encoder.configurations = []

theorem access_of_lt {α : Type} {entries : List α} {index : Nat}
    (inRange : index < entries.length) (fault : Fault) :
    ∃ entry, entries[index]? = some entry ∧ access entries index fault = .ok entry := by
  refine ⟨entries[index], List.getElem?_eq_getElem inRange, ?_⟩
  simp [access, List.getElem?_eq_getElem inRange]

@[simp] theorem access_cons_zero {α : Type} (entry : α) (rest : List α) (fault : Fault) :
    access (entry :: rest) 0 fault = .ok entry :=
  rfl

theorem release_consistent (self : H264Encoder) : Consistent self.release :=
  ⟨rfl, rfl, fun live => absurd live (by simp [release]), fun _ => rfl⟩

variable {self : H264Encoder}

theorem Consistent.set_first (consistent : Consistent self) (isLive : self.encoder = .live)
    (config : LayerConfig) (params : RateParams) :
    Consistent { self with
      encoder := .live
      configurations := self.configurations.set 0 config
      rateParams := params } := by
  refine ⟨?_, ?_, ?_, nofun⟩
  · simpa using consistent.images
  · simpa using consistent.controllers
  · simpa using consistent.live isLive

/-- A call is free of faults exactly under a condition, and its result then has a property. -/
inductive Settles {α : Type} (value : Except Fault α) (Safe : Prop) (Holds : α → Prop) : Prop where
  | ok (result : α) (returned : value = .ok result) (safe : Safe) (holds : Holds result)
  | fault (fault : Fault) (raised : value = .error fault) (notSafe : ¬ Safe)

theorem Settles.map {α β : Type} {value : Except Fault α} {Safe : Prop} {Holds : β → Prop}
    {f : α → β} (settles : Settles value Safe fun result => Holds (f result)) :
    Settles (value.map f) Safe Holds := by
  cases settles with
  | ok result returned safe holds => exact .ok (f result) (by rw [returned]; rfl) safe holds
  | fault fault raised notSafe => exact .fault fault (by rw [raised]; rfl) notSafe

/-- Rates keep the encoder consistent, unless they reach an uninitialised handle: that indexes
an empty vector. -/
theorem setRates_settles (consistent : Consistent self) (parameters : RateControlParameters) :
    Settles (self.setRates parameters)
      (self.encoder = .stray → parameters.framerateFps < 1 ∨ parameters.bitrate.getSumBps = 0)
      (fun next => Consistent next ∧ next.encoder = self.encoder) := by
  unfold setRates
  by_cases isNull : self.encoder = .null
  · rw [if_pos isNull]
    exact .ok self rfl (by simp [isNull]) ⟨consistent, rfl⟩
  rw [if_neg isNull]
  by_cases slow : parameters.framerateFps < 1
  · rw [if_pos slow]
    exact .ok self rfl (fun _ => .inl slow) ⟨consistent, rfl⟩
  rw [if_neg slow]
  by_cases zero : parameters.bitrate.getSumBps = 0
  · rw [if_pos zero]
    refine .ok _ rfl (fun _ => .inr zero) ⟨⟨?_, ?_, ?_, ?_⟩, rfl⟩
    · simpa using consistent.images
    · simpa using consistent.controllers
    · simpa using consistent.live
    · simpa using consistent.stray
  rw [if_neg zero]
  cases handle : self.encoder with
  | null => exact absurd handle isNull
  | live =>
    obtain ⟨config, _, accessed⟩ := access_of_lt
      (List.length_pos_iff.mpr (consistent.live handle)) Fault.configurations
    simp only [accessed, ne_eq, not_true_eq_false, if_false]
    split_ifs
    · exact .ok _ rfl nofun ⟨consistent.set_first handle _ _, rfl⟩
    · exact .ok _ rfl nofun ⟨consistent.set_first handle _ _, rfl⟩
  | stray =>
    refine .fault .configurations ?_ (by simp [slow, zero])
    simp [consistent.stray handle, access, bind, Except.bind]

/-! ## Initialisation -/

structure Sized (encoder : H264Encoder) (numberOfStreams : Nat) : Prop where
  configurations : encoder.configurations.length = numberOfStreams
  images : encoder.encodedImages.length = numberOfStreams
  controllers : encoder.svcControllers.length = numberOfStreams

variable {numberOfStreams : Nat}

theorem Sized.consistent (sized : Sized self numberOfStreams)
    (positive : 0 < numberOfStreams) (initialised : self.encoder ≠ .stray) : Consistent self := by
  refine ⟨?_, ?_, fun _ => ?_, fun isStray => absurd isStray initialised⟩
  · rw [sized.images, sized.configurations]
  · rw [sized.controllers, sized.configurations]
  · exact List.length_pos_iff.mp (by rw [sized.configurations]; exact positive)

theorem initStream_ok {i : Nat} (sized : Sized self numberOfStreams)
    (inRange : i < numberOfStreams) (codec : VideoCodec) (results : InitResults) :
    ∃ succeeded next, initStream codec numberOfStreams i results self = .ok (succeeded, next) ∧
      (succeeded = true → Sized next numberOfStreams ∧ next.encoder = .live) ∧
      (succeeded = false → Consistent next ∧ next.encoder = .null) := by
  obtain ⟨configurations, images, controllers⟩ := sized
  obtain ⟨config, _, configAccessed⟩ :=
    access_of_lt (configurations.symm ▸ inRange) Fault.configurations
  obtain ⟨image, _, imageAccessed⟩ := access_of_lt (images.symm ▸ inRange) Fault.encodedImages
  obtain ⟨controller, _, controllerAccessed⟩ :=
    access_of_lt (controllers.symm ▸ inRange) Fault.svcControllers
  unfold initStream
  split_ifs with opened
  · unfold initLayer
    simp only [configAccessed, imageAccessed, controllerAccessed, bind, Except.bind]
    split_ifs
    · refine ⟨true, _, rfl, fun _ => ⟨⟨?_, ?_, ?_⟩, rfl⟩, nofun⟩
      all_goals simpa
    · exact ⟨false, _, rfl, nofun, fun _ => ⟨release_consistent _, rfl⟩⟩
    · refine ⟨true, _, rfl, fun _ => ⟨⟨?_, ?_, ?_⟩, rfl⟩, nofun⟩
      all_goals simpa
  · refine ⟨false, _, rfl, nofun, fun _ => ⟨?_, rfl⟩⟩
    exact ⟨images.trans configurations.symm, controllers.trans configurations.symm, nofun, nofun⟩

theorem initStreams_ok (codec : VideoCodec) (results : Nat → InitResults)
    (indices : List Nat) (inRange : ∀ i ∈ indices, i < numberOfStreams)
    (sized : Sized self numberOfStreams) (started : indices = [] → self.encoder = .live) :
    ∃ succeeded next,
      initStreams codec numberOfStreams results indices self = .ok (succeeded, next) ∧
      (succeeded = true → Sized next numberOfStreams ∧ next.encoder = .live) ∧
      (succeeded = false → Consistent next ∧ next.encoder = .null) := by
  induction indices generalizing self with
  | nil => exact ⟨true, self, rfl, fun _ => ⟨sized, started rfl⟩, nofun⟩
  | cons i rest ih =>
    obtain ⟨succeeded, middle, roundEq, onSuccess, onFailure⟩ :=
      initStream_ok sized (inRange i List.mem_cons_self) codec (results i)
    unfold initStreams
    simp only [roundEq]
    cases succeeded with
    | true =>
      obtain ⟨middleSized, live⟩ := onSuccess rfl
      exact ih (fun j member => inRange j (List.mem_cons_of_mem i member)) middleSized
        fun _ => live
    | false =>
      exact ⟨false, middle, rfl, nofun, onFailure⟩

theorem numberOfSimulcastStreams_pos (codec : VideoCodec) :
    0 < H264.numberOfSimulcastStreams codec := by
  unfold H264.numberOfSimulcastStreams
  dsimp only
  split_ifs <;> omega

/-- Initialisation never faults; if it succeeds the handle is open. -/
theorem initEncode_ok (consistent : Consistent self) (inst : Option VideoCodec)
    (results : Nat → InitResults) (startRates : RateControlParameters) :
    ∃ status next, self.initEncode inst results startRates = .ok (status, next) ∧
      Consistent next ∧ (status = .ok → next.encoder = .live) := by
  have rejected : ∀ status, status ≠ Status.ok → ∀ next, Consistent next →
      ∃ status' next', (Except.ok (status, next) : Except Fault (Status × H264Encoder)) =
        .ok (status', next') ∧ Consistent next' ∧ (status' = .ok → next'.encoder = .live) :=
    fun status notOk next nextConsistent =>
      ⟨status, next, rfl, nextConsistent, fun isOk => absurd isOk notOk⟩
  unfold initEncode
  cases inst with
  | none => exact rejected _ (by simp) _ consistent
  | some codec =>
    dsimp only
    split_ifs
    · exact rejected _ (by simp) _ consistent
    · exact rejected _ (by simp) _ (release_consistent self)
    · have positive := numberOfSimulcastStreams_pos codec
      have sized : Sized (self.release.resize (H264.numberOfSimulcastStreams codec))
          (H264.numberOfSimulcastStreams codec) := ⟨by simp [resize], by simp [resize], by simp [resize]⟩
      obtain ⟨succeeded, next, loopEq, onSuccess, onFailure⟩ := initStreams_ok codec results
        (List.range (H264.numberOfSimulcastStreams codec)) (fun i member => List.mem_range.mp member)
        sized (fun empty => absurd empty (by simp [positive.ne']))
      simp only [loopEq, bind, Except.bind]
      cases succeeded with
      | false => exact rejected _ (by simp) _ (onFailure rfl).1
      | true =>
        obtain ⟨nextSized, live⟩ := onSuccess rfl
        have initialised : next.encoder ≠ .stray := by simp [live]
        cases setRates_settles (nextSized.consistent positive initialised) startRates with
        | ok final ratesEq _ kept =>
          simp only [ratesEq]
          exact ⟨.ok, final, rfl, kept.1, fun _ => kept.2.trans live⟩
        | fault _ _ notSafe => exact absurd (fun stray => absurd stray initialised) notSafe

/-! ## Encoding -/

/-- A call that passes the entry checks finds a stream, and an open handle if it encodes. -/
def EncodesSafely (self : H264Encoder) (call : EncodeCall) : Prop :=
  self.inited = true → self.callbackSet = true → call.convertible = true →
    ∃ config rest, self.configurations = config :: rest ∧
      (config.sending = true → skipsFrame call = false → self.encoder = .live)

/-- With an open handle a frame is encoded: the handle is lost, or an image is filled. -/
theorem encodeFrame_ok (consistent : Consistent self) (isLive : self.encoder = .live)
    (config : LayerConfig) (controller sendKeyFrame : Bool) (call : EncodeCall) :
    ∃ status frame next,
      self.encodeFrame config controller sendKeyFrame call = .ok (status, frame, next) ∧
      Consistent next ∧ (status ≠ .error → next.encoder = self.encoder) := by
  have imagesNonempty : 0 < self.encodedImages.length := by
    rw [consistent.images]
    exact List.length_pos_iff.mpr (consistent.live isLive)
  obtain ⟨image, _, accessed⟩ := access_of_lt imagesNonempty Fault.encodedImages
  have filled : ∀ size, Consistent { self with encodedImages := self.encodedImages.set 0 size } :=
    fun size => ⟨by simpa using consistent.images, consistent.controllers, consistent.live,
      consistent.stray⟩
  unfold encodeFrame
  simp only [isLive, accessed, ne_eq, not_true_eq_false, if_false]
  split_ifs
  · refine ⟨_, _, _, rfl, ⟨consistent.images, consistent.controllers, ?_, ?_⟩, absurd rfl⟩
    · exact nofun
    · exact nofun
  · exact ⟨_, _, _, rfl, isLive ▸ filled _, fun _ => rfl⟩
  · exact ⟨_, _, _, rfl, isLive ▸ filled _, fun _ => rfl⟩
  · exact ⟨_, _, _, rfl, isLive ▸ filled _, fun _ => rfl⟩

theorem encode_settles (consistent : Consistent self) (call : EncodeCall) :
    Settles (self.encode call) (EncodesSafely self call) (fun result =>
      Consistent result.2.2 ∧ (result.1 ≠ .error → result.2.2.encoder = self.encoder)) := by
  unfold encode EncodesSafely
  cases isInited : self.inited with
  | false => exact .ok _ rfl (by simp) ⟨consistent, fun _ => rfl⟩
  | true =>
  cases hasCallback : self.callbackSet with
  | false => exact .ok _ rfl (by simp) ⟨consistent, fun _ => rfl⟩
  | true =>
  cases isConvertible : call.convertible with
  | false => exact .ok _ rfl (by simp) ⟨consistent, fun _ => rfl⟩
  | true =>
  cases configurationsEq : self.configurations with
  | nil => exact .fault .configurations rfl (by simp)
  | cons config rest =>
    have controllers : 0 < self.svcControllers.length := by
      rw [consistent.controllers, configurationsEq]
      exact Nat.succ_pos _
    obtain ⟨controller, _, controllerAccessed⟩ := access_of_lt controllers Fault.svcControllers
    simp only [controllerAccessed, access_cons_zero, bind, Except.bind]
    cases isSending : config.sending with
    | false => exact .ok _ rfl (by simp [isSending]) ⟨consistent, fun _ => rfl⟩
    | true =>
    cases skips : skipsFrame call with
    | true => exact .ok _ rfl (by simp) ⟨consistent, fun _ => rfl⟩
    | false =>
    by_cases isLive : self.encoder = .live
    · obtain ⟨status, frame, next, encoded, kept⟩ := encodeFrame_ok consistent
        isLive config controller ((config :: rest).any (fun config =>
          config.keyFrameRequest && config.sending) || explicitKey config call) call
      exact .ok _ encoded (fun _ _ _ => ⟨config, rest, rfl, fun _ _ => isLive⟩) kept
    · refine .fault .encodeHandle ?_ (by simp [isLive, isSending])
      simp [encodeFrame, isLive]

/-! ## Runs -/

/-- The calls a user makes; those that reach the library carry its results. -/
inductive Input where
  | initEncode (inst : Option VideoCodec) (results : Nat → InitResults)
      (startRates : RateControlParameters)
  | registerEncodeCompleteCallback (callbackSet : Bool)
  | setRates (parameters : RateControlParameters)
  | encode (call : EncodeCall)
  | release

def apply (self : H264Encoder) : Input → Except Fault H264Encoder
  | .initEncode inst results startRates =>
    (self.initEncode inst results startRates).map fun result => result.2
  | .registerEncodeCompleteCallback callbackSet =>
    .ok (self.registerEncodeCompleteCallback callbackSet)
  | .setRates parameters => self.setRates parameters
  | .encode call => (self.encode call).map fun result => result.2.2
  | .release => .ok self.release

/-- Whether the results of the calls so far say that the encoder is open: it was initialised,
and neither was released nor failed since. -/
def opened (self : H264Encoder) (before : Bool) : Input → Bool
  | .initEncode inst results startRates =>
    (self.initEncode inst results startRates).toOption.any fun result => result.1 = .ok
  | .encode call => before && (self.encode call).toOption.any fun result => result.1 ≠ .error
  | .release => false
  | _ => before

/-- The condition on each call under which it is free of faults. -/
def CallsSafely (self : H264Encoder) : Input → Prop
  | .setRates parameters => self.encoder = .stray →
      parameters.framerateFps < 1 ∨ parameters.bitrate.getSumBps = 0
  | .encode call => EncodesSafely self call
  | _ => True

/-- What a call leaves: a consistent encoder, which is open if the results say so. -/
structure Kept (encoder : H264Encoder) (input : Input) (next : H264Encoder) : Prop where
  consistent : Consistent next
  live : ∀ before, (before = true → encoder.encoder = .live) →
    encoder.opened before input = true → next.encoder = .live

/-- One call: it is free of faults, and keeps the encoder consistent, under the condition. -/
theorem apply_settles (consistent : Consistent self) (input : Input) :
    Settles (self.apply input) (CallsSafely self input) (Kept self input) := by
  cases input with
  | initEncode inst results startRates =>
    obtain ⟨status, next, initialised, nextConsistent, live⟩ :=
      initEncode_ok consistent inst results startRates
    refine Settles.map (.ok _ initialised trivial ⟨nextConsistent, fun _ _ isOpened => ?_⟩)
    exact live (by simpa [opened, initialised, Except.toOption] using isOpened)
  | registerEncodeCompleteCallback callbackSet =>
    refine .ok _ rfl trivial ⟨?_, fun _ live => live⟩
    exact ⟨consistent.images, consistent.controllers, consistent.live, consistent.stray⟩
  | setRates parameters =>
    cases setRates_settles consistent parameters with
    | ok next returned safe kept =>
      exact .ok next returned safe ⟨kept.1, fun _ live isOpened => kept.2.trans (live isOpened)⟩
    | fault fault raised notSafe => exact .fault fault raised notSafe
  | encode call =>
    cases encode_settles consistent call with
    | ok result returned safe kept =>
      refine Settles.map (.ok result returned safe ⟨kept.1, fun before live isOpened => ?_⟩)
      obtain ⟨wasOpened, notError⟩ := Bool.and_eq_true_iff.mp isOpened
      refine (kept.2 ?_).trans (live wasOpened)
      simpa [returned, Except.toOption] using notError
    | fault fault raised notSafe => exact Settles.map (.fault fault raised notSafe)
  | release => exact .ok _ rfl trivial ⟨release_consistent self, nofun⟩

structure Audited where
  self : H264Encoder
  fault : Option Fault

/-- Any calls in any order; after a fault nothing is known any more. -/
def machine : Machine Audited Input where
  pre _ _ := True
  next state input :=
    match state.fault, state.self.apply input with
    | none, .ok next => ⟨next, none⟩
    | none, .error fault => ⟨state.self, some fault⟩
    | some fault, _ => ⟨state.self, some fault⟩

def NoFault (state : Audited) : Prop :=
  state.fault = none

structure Sound (state : Audited) : Prop where
  noFault : NoFault state
  consistent : Consistent state.self

/-- One step: it meets no fault exactly under the condition, and then stays sound. -/
theorem Sound.next_settles {state : Audited} (sound : Sound state) (input : Input) :
    CallsSafely state.self input ∧ Sound (machine.next state input) ∧
        Kept state.self input (machine.next state input).self ∨
      ¬ CallsSafely state.self input ∧ ¬ NoFault (machine.next state input) := by
  obtain ⟨noFault, consistent⟩ := sound
  unfold NoFault at noFault ⊢
  cases apply_settles consistent input with
  | ok next returned safe kept =>
    refine .inl ⟨safe, ?_⟩
    simp only [machine, noFault, returned]
    exact ⟨⟨rfl, kept.consistent⟩, kept⟩
  | fault fault raised notSafe =>
    refine .inr ⟨notSafe, ?_⟩
    simp [machine, noFault, raised]

theorem create_sound (codecChoose : Int) (inited : Bool) (encoder : Handle)
    (closed : encoder ≠ .live) : Sound ⟨create codecChoose inited encoder, none⟩ :=
  ⟨rfl, rfl, rfl, fun live => absurd live closed, fun _ => rfl⟩

/--
In every run from a new encoder, no vector is indexed out of range and no
handle is used that is not open, exactly if every `SetRates` call on an
uninitialised handle returns early and every `Encode` call that passes the
entry checks finds a stream, and an open handle if the stream is sending and
the frame is not skipped.
-/
theorem noFault_always_iff (codecChoose : Int) (inited : Bool) (encoder : Handle)
    (closed : encoder ≠ .live) (inputs : List Input) (last : Audited)
    (run : machine.Run ⟨create codecChoose inited encoder, none⟩ inputs last) :
    (∀ count, NoFault (machine.outcome ⟨create codecChoose inited encoder, none⟩
        (inputs.take count))) ↔
      (machine.restrict fun state input => CallsSafely state.self input).Run
        ⟨create codecChoose inited encoder, none⟩ inputs last := by
  refine run.always_iff rfl (create_sound codecChoose inited encoder closed) ?_ ?_
  · intro state input sound _
    rcases sound.next_settles input with ⟨safe, nextSound, _⟩ | ⟨notSafe, faulty⟩
    · exact ⟨fun _ => safe, fun _ => nextSound.noFault⟩
    · exact ⟨fun noFault => absurd noFault faulty, fun safe => absurd safe notSafe⟩
  · intro state input sound _ safe
    rcases sound.next_settles input with ⟨_, nextSound, _⟩ | ⟨notSafe, _⟩
    · exact nextSound
    · exact absurd safe notSafe

/-- An encoder whose user looks at the results of the calls. -/
structure Followed extends Audited where
  isOpened : Bool

/-- Rates and frames only for an encoder that is open by the results of the calls so far. -/
def followResults : Machine Followed Input where
  pre state
    | .setRates _ | .encode _ => state.isOpened = true
    | _ => True
  next state input :=
    { toAudited := machine.next state.toAudited input
      isOpened := state.self.opened state.isOpened input }

/-- In terms of the history: no rates and no frame after a `Release` or a failed call until
`InitEncode` succeeds. -/
theorem noFault_of_followResults {codecChoose : Int} {inited : Bool} {encoder : Handle}
    (closed : encoder ≠ .live) {inputs : List Input} {last : Followed}
    (run : followResults.Run ⟨⟨create codecChoose inited encoder, none⟩, false⟩ inputs last) :
    NoFault last.toAudited := by
  refine (run.invariant (fun _ state => Sound state.toAudited ∧
    (state.isOpened = true → state.self.encoder = .live))
    ⟨create_sound codecChoose inited encoder closed, nofun⟩ ?_).1.noFault
  rintro _ state input _ ⟨sound, live⟩ admissible
  have safe : CallsSafely state.self input := by
    cases input with
    | setRates parameters => simp [CallsSafely, live admissible]
    | encode call =>
      intro _ _ _
      obtain ⟨config, rest, isCons⟩ :=
        List.exists_cons_of_ne_nil (sound.consistent.live (live admissible))
      exact ⟨config, rest, isCons, fun _ _ => live admissible⟩
    | _ => trivial
  rcases sound.next_settles input with ⟨_, nextSound, kept⟩ | ⟨notSafe, _⟩
  · exact ⟨nextSound, kept.live _ live⟩
  · exact absurd safe notSafe

def singleStream : VideoCodec where
  isH264 := true
  width := 640
  height := 360
  maxFramerate := 30
  startBitrateKbps := 300
  maxBitrateKbps := 2000
  numberOfTemporalLayers := 1
  numberOfSimulcastStreams := 0
  simulcastStream _ := ⟨0, 0, 0, 0, 0⟩
  streams_le := Nat.zero_le _

def ratesOf (bitrateBps : Nat) : RateControlParameters where
  targetBitrate := (VideoBitrateAllocation.empty.setBitrate 0 0 bitrateBps).2
  bitrate := (VideoBitrateAllocation.empty.setBitrate 0 0 bitrateBps).2
  framerateFps := 30
  bandwidthAllocation := bitrateBps
  currentRtt := 0
  isOverusedForEncoder := 0

/-- A successful initialisation followed by the registration of a callback. -/
def initialisation : List Input :=
  [.initEncode (some singleStream) (fun _ => ⟨true, true, true, true, true⟩) (ratesOf 300000),
    .registerEncodeCompleteCallback true]

/-- A delta frame for which the library returns the given size. -/
def deltaFrame (frameSize : Int) : EncodeCall where
  convertible := true
  frameTypes := some [.delta]
  frameSize := frameSize
  nalSizes := [frameSize.toNat]
  layerTemporalId := 0

def pausedCall : List Input :=
  initialisation ++
    [.encode (deltaFrame 1200), .setRates (ratesOf 0), .encode (deltaFrame 900)]

theorem noFault_always_of_paused_call :
    machine.Admits ⟨create 4 false .stray, none⟩ pausedCall ∧
    ∀ count, NoFault (machine.outcome ⟨create 4 false .stray, none⟩
      (pausedCall.take count)) := by
  have admitted : (machine.restrict fun state input => CallsSafely state.self input).Admits
      ⟨create 4 false .stray, none⟩ pausedCall := by
    refine ⟨⟨trivial, trivial⟩, ⟨trivial, trivial⟩, ⟨trivial, ?_⟩, ⟨trivial, ?_⟩,
      ⟨trivial, ?_⟩, trivial⟩
    · exact fun _ _ _ => ⟨_, _, rfl, fun _ _ => by decide +kernel⟩
    · exact fun stray => absurd stray (by decide +kernel)
    · exact fun _ _ _ => ⟨_, _, rfl, fun _ _ => by decide +kernel⟩
  exact ⟨⟨trivial, trivial, trivial, trivial, trivial, trivial⟩,
    (noFault_always_iff 4 false .stray (by decide) _ _ admitted.run.of_restrict).mpr
      admitted.run⟩

/--
`inited` outlives the handle and the streams.  After `Release` a frame indexes
an empty vector, and after a failed frame the next one uses a null handle.
-/
theorem faults_after_release_or_failure :
    (machine.outcome ⟨create 4 false .stray, none⟩
        (initialisation ++ [.release, .encode (deltaFrame 1200)])).fault =
      some .configurations ∧
    (machine.outcome ⟨create 4 false .stray, none⟩
        (initialisation ++ [.encode (deltaFrame (-1)), .encode (deltaFrame 1200)])).fault =
      some .encodeHandle := by
  decide +kernel

end MaeRtc.H264.H264Encoder
