import MaeRtc.H264.Lifecycle

/-!
# Key frame requests of the H.264 encoder

A stream that starts sending requests a key frame.  `Encode` reads the request
but never takes it back, so that a stream that sends always has a request and
every frame it delivers is flagged as a key frame.
-/

namespace MaeRtc.H264.H264Encoder

open MaeRtc.Base MaeRtc.Video

/-- Every stream that sends has a request for a key frame. -/
def Requesting (self : H264Encoder) : Prop :=
  ∀ config ∈ self.configurations, config.sending = true → config.keyFrameRequest = true

/-- A bound computation that succeeds runs both of its parts. -/
theorem bind_ok {α β : Type} {value : Except Fault α} {next : α → Except Fault β} {result : β}
    (succeeded : value >>= next = .ok result) :
    ∃ middle, value = .ok middle ∧ next middle = .ok result := by
  cases value with
  | error fault => exact absurd succeeded (by simp [bind, Except.bind])
  | ok middle => exact ⟨middle, rfl, succeeded⟩

theorem access_ok {α : Type} {entries : List α} {index : Nat} {fault : Fault} {entry : α}
    (accessed : access entries index fault = .ok entry) : entries[index]? = some entry := by
  unfold access at accessed
  cases found : entries[index]? with
  | none => simp [found] at accessed
  | some other => simpa [found] using accessed

/-! ## Rates -/

theorem setStreamState_requesting {config : LayerConfig} (sendStream : Bool)
    (requesting : config.sending = true → config.keyFrameRequest = true)
    (sends : (config.setStreamState sendStream).sending = true) :
    (config.setStreamState sendStream).keyFrameRequest = true := by
  obtain rfl : sendStream = true := sends
  cases wasSending : config.sending with
  | true => simp [LayerConfig.setStreamState, requesting wasSending]
  | false => simp [LayerConfig.setStreamState, wasSending]

variable {self next : H264Encoder} {call : EncodeCall} {status : Status}

/-- What `SetRates` does to the streams. -/
theorem setRates_cases {parameters : RateControlParameters}
    (set : self.setRates parameters = .ok next) :
    next.configurations = self.configurations ∨
      next.configurations = self.configurations.map (·.setStreamState false) ∨
      ∃ config ∈ self.configurations, ∃ sendStream, next.configurations =
        self.configurations.set 0 (LayerConfig.setStreamState { config with
          targetBps := parameters.bitrate.getSpatialLayerSum 0
          maxFrameRate := parameters.framerateFps } sendStream) := by
  unfold setRates at set
  split at set
  · cases set
    exact .inl rfl
  split at set
  · cases set
    exact .inl rfl
  split at set
  · cases set
    exact .inr (.inl rfl)
  obtain ⟨config, accessed, set⟩ := bind_ok set
  refine .inr (.inr ⟨config, List.mem_of_getElem? (access_ok accessed), ?_⟩)
  dsimp only at set
  split_ifs at set
  · cases set
    exact ⟨true, rfl⟩
  · cases set
    exact ⟨false, rfl⟩

theorem setRates_requesting {parameters : RateControlParameters} (requesting : Requesting self)
    (set : self.setRates parameters = .ok next) : Requesting next := by
  unfold Requesting
  rcases setRates_cases set with same | paused | ⟨config, member, sendStream, changed⟩
  · rw [same]
    exact requesting
  · rw [paused]
    intro config member sends
    obtain ⟨before, _, rfl⟩ := List.mem_map.mp member
    exact absurd sends (by simp [LayerConfig.setStreamState])
  · rw [changed]
    intro other otherMember
    rcases List.mem_or_eq_of_mem_set otherMember with old | rfl
    · exact requesting other old
    · refine setStreamState_requesting sendStream ?_
      exact requesting config member

/-! ## Initialisation -/

/-- The stream with the given index exists only without sending. -/
def SilentAt (self : H264Encoder) (index : Nat) : Prop :=
  ∀ config, self.configurations[index]? = some config → config.sending = false

theorem initStream_silentAt {codec : VideoCodec} {numberOfStreams i : Nat} {results : InitResults}
    (initialised : initStream codec numberOfStreams i results self = .ok (true, next)) (j : Nat)
    (silent : j = i ∨ SilentAt self j) : SilentAt next j := by
  unfold initStream at initialised
  split_ifs at initialised
  · obtain ⟨config, accessed, initialised⟩ := bind_ok initialised
    obtain ⟨image, _, initialised⟩ := bind_ok initialised
    have configurationsEq : next.configurations = self.configurations.set i
        (configureLayer codec (numberOfStreams - 1 - i) config) := by
      split_ifs at initialised
      · obtain ⟨controller, _, ⟨⟩⟩ := bind_ok initialised
        rfl
      · obtain ⟨controller, _, initialised⟩ := bind_ok initialised
        cases initialised
      · cases initialised
        rfl
    intro found foundEq
    rw [configurationsEq] at foundEq
    by_cases same : i = j
    · rw [List.getElem?_set, if_pos same] at foundEq
      split_ifs at foundEq
      cases foundEq
      rfl
    · rw [List.getElem?_set_ne same] at foundEq
      exact (silent.resolve_left (Ne.symm same)) found foundEq
  · cases initialised

theorem initStreams_silentAt {codec : VideoCodec} {numberOfStreams : Nat}
    {results : Nat → InitResults} {indices : List Nat}
    (initialised : initStreams codec numberOfStreams results indices self = .ok (true, next))
    (j : Nat) (silent : j ∈ indices ∨ SilentAt self j) : SilentAt next j := by
  induction indices generalizing self with
  | nil =>
    cases initialised
    exact silent.resolve_left (by simp)
  | cons i rest ih =>
    obtain ⟨⟨succeeded, middle⟩, round, initialised⟩ := bind_ok initialised
    cases succeeded with
    | false => cases initialised
    | true =>
      refine ih initialised ?_
      rcases silent with inside | silent
      · rcases List.mem_cons.mp inside with here | later
        · exact .inr (initStream_silentAt round j (.inl here))
        · exact .inl later
      · exact .inr (initStream_silentAt round j (.inr silent))

theorem initEncode_requesting {inst : Option VideoCodec} {results : Nat → InitResults}
    {startRates : RateControlParameters}
    (initialised : self.initEncode inst results startRates = .ok (.ok, next)) :
    Requesting next := by
  unfold initEncode at initialised
  cases inst with
  | none => cases initialised
  | some codec =>
    dsimp only at initialised
    split at initialised
    · cases initialised
    split at initialised
    · cases initialised
    obtain ⟨⟨succeeded, opened⟩, rounds, initialised⟩ := bind_ok initialised
    cases succeeded with
    | false => cases initialised
    | true =>
      obtain ⟨final, set, ⟨⟩⟩ := bind_ok initialised
      refine setRates_requesting ?_ set
      intro config member sends
      obtain ⟨j, found⟩ := List.mem_iff_getElem?.mp member
      have silent : SilentAt opened j := by
        refine initStreams_silentAt rounds j ?_
        rcases lt_or_ge j (H264.numberOfSimulcastStreams codec) with inside | outside
        · exact .inl (List.mem_range.mpr inside)
        · refine .inr fun config found => ?_
          rw [List.getElem?_eq_none (by simpa [resize] using outside)] at found
          cases found
      exact absurd sends (by simp [silent config found])

/-! ## Encoding -/

theorem encodeFrame_cases {config : LayerConfig} {controller sendKeyFrame : Bool}
    {frame : Option DeliveredFrame}
    (encoded : self.encodeFrame config controller sendKeyFrame call = .ok (status, frame, next)) :
    next.configurations = self.configurations ∧
      ∀ delivered ∈ frame, delivered.idrFrame = sendKeyFrame := by
  unfold encodeFrame at encoded
  split at encoded
  · cases encoded
  split at encoded
  · obtain ⟨-, rfl, rfl⟩ := by simpa using encoded
    simp
  obtain ⟨image, _, encoded⟩ := bind_ok encoded
  dsimp only at encoded
  split_ifs at encoded
  all_goals
    obtain ⟨-, rfl, rfl⟩ := by simpa using encoded
    simp

/-- What `Encode` does to the streams, and what it delivers. -/
theorem encode_cases {frame : Option DeliveredFrame}
    (encoded : self.encode call = .ok (status, frame, next)) :
    next.configurations = self.configurations ∧
      ∀ delivered ∈ frame, ∃ config ∈ self.configurations.head?, config.sending = true ∧
        delivered.idrFrame =
          (self.configurations.any (fun config => config.keyFrameRequest && config.sending) ||
            explicitKey config call) := by
  unfold encode at encoded
  split at encoded
  · obtain ⟨-, rfl, rfl⟩ := by simpa using encoded
    simp
  split at encoded
  · obtain ⟨-, rfl, rfl⟩ := by simpa using encoded
    simp
  split at encoded
  · obtain ⟨-, rfl, rfl⟩ := by simpa using encoded
    simp
  obtain ⟨config, accessed, encoded⟩ := bind_ok encoded
  split at encoded
  · obtain ⟨-, rfl, rfl⟩ := by simpa using encoded
    simp
  rename_i sends
  split at encoded
  · obtain ⟨-, rfl, rfl⟩ := by simpa using encoded
    simp
  obtain ⟨controller, _, encoded⟩ := bind_ok encoded
  obtain ⟨same, flagged⟩ := encodeFrame_cases encoded
  refine ⟨same, fun delivered member => ⟨config, ?_, by simpa using sends, flagged _ member⟩⟩
  rw [List.head?_eq_getElem?]
  exact access_ok accessed

/-- Every frame a requesting encoder delivers is flagged as a key frame. -/
theorem delivered_idrFrame (requesting : Requesting self) {delivered : DeliveredFrame}
    (encoded : self.encode call = .ok (status, some delivered, next)) :
    delivered.idrFrame = true := by
  obtain ⟨config, first, sends, flag⟩ := (encode_cases encoded).2 delivered rfl
  have member : config ∈ self.configurations := List.mem_of_mem_head? first
  have needed : (self.configurations.any fun config =>
      config.keyFrameRequest && config.sending) = true := by
    refine List.any_eq_true.mpr ⟨config, member, ?_⟩
    simp [sends, requesting config member sends]
  rw [flag, needed, Bool.true_or]

end MaeRtc.H264.H264Encoder

namespace MaeRtc.H264.KeyFrames

open MaeRtc.Base MaeRtc.Video H264Encoder

/-! ## Runs -/

inductive Input where
  | setRates (parameters : RateControlParameters)
  | encode (call : EncodeCall)

/-- A delivered frame: its flag, and what may have called for a key frame. -/
structure Delivery where
  keyFrame : Bool
  requested : Bool
  first : Bool
  deriving DecidableEq

/--
An encoder together with what a user observes: whether no frame was encoded
since the stream started sending, and the frame the latest call delivered.
-/
structure Audited where
  self : H264Encoder
  fresh : Bool
  delivery : Option Delivery

def sends (self : H264Encoder) : Bool :=
  self.configurations.head?.any (·.sending)

def requests (self : H264Encoder) (call : EncodeCall) : Bool :=
  self.configurations.head?.any (explicitKey · call)

def encodesFrame (self : H264Encoder) (call : EncodeCall) : Bool :=
  self.inited && self.callbackSet && call.convertible && sends self && !skipsFrame call

def delivers (self : H264Encoder) (call : EncodeCall) : Bool :=
  encodesFrame self call && self.encoder == .live && !decide (call.frameSize < 0) &&
    call.nalSizes.sum != 0 && !self.encodedImages.isEmpty &&
    self.svcControllers.head?.any fun controller =>
      self.configurations.head?.any fun config => !wrongLayer config controller call

/-- A frame that reaches the library is delivered exactly under these conditions. -/
theorem encodeFrame_delivers_iff (self : H264Encoder) (config : LayerConfig)
    (controller sendKeyFrame : Bool) (call : EncodeCall) :
    (∃ status delivered next, self.encodeFrame config controller sendKeyFrame call =
        .ok (status, some delivered, next)) ↔
      self.encoder = .live ∧ ¬ call.frameSize < 0 ∧ call.nalSizes.sum ≠ 0 ∧
        self.encodedImages ≠ [] ∧ wrongLayer config controller call = false := by
  unfold encodeFrame
  by_cases isLive : self.encoder = .live
  · by_cases failed : call.frameSize < 0
    · simp [isLive, failed]
    cases images : self.encodedImages with
    | nil => simp [isLive, failed, access, bind, Except.bind]
    | cons image rest =>
      by_cases dropped : call.nalSizes.sum = 0
      · simp [isLive, failed, dropped, bind, Except.bind]
      · cases wrongLayer config controller call <;>
          simp [isLive, failed, dropped, bind, Except.bind]
  · simp [isLive]

theorem delivers_iff (self : H264Encoder) (call : EncodeCall) :
    delivers self call = true ↔
      ∃ status delivered next, self.encode call = .ok (status, some delivered, next) := by
  unfold delivers encodesFrame sends encode
  cases isInited : self.inited with
  | false => simp
  | true =>
  cases hasCallback : self.callbackSet with
  | false => simp
  | true =>
  cases isConvertible : call.convertible with
  | false => simp
  | true =>
  cases configurationsEq : self.configurations with
  | nil => simp [access, bind, Except.bind]
  | cons config rest =>
  cases isSending : config.sending with
  | false => simp [isSending, bind, Except.bind]
  | true =>
  cases skips : skipsFrame call with
  | true => simp [bind, Except.bind]
  | false =>
  cases controllersEq : self.svcControllers with
  | nil => simp [isSending, access, bind, Except.bind]
  | cons controller moreControllers =>
    have delivered := encodeFrame_delivers_iff self config controller
      ((config :: rest).any (fun config => config.keyFrameRequest && config.sending) ||
        explicitKey config call) call
    simp only [isSending, access_cons_zero, bind, Except.bind]
    simp only [Bool.not_true, Bool.false_eq_true, if_false]
    rw [delivered]
    simp [isSending, and_assoc]

/-- Calls in any order; one that does not return delivers nothing. -/
def machine : Machine Audited Input where
  pre _ _ := True
  next state
    | .setRates parameters =>
      match state.self.setRates parameters with
      | .ok next =>
        { self := next
          fresh := state.fresh || !sends state.self && sends next
          delivery := none }
      | .error _ => { state with delivery := none }
    | .encode call =>
      match state.self.encode call with
      | .ok (_, frame, next) =>
        { self := next
          fresh := state.fresh && !encodesFrame state.self call
          delivery := frame.map fun delivered =>
            ⟨delivered.idrFrame, requests state.self call, state.fresh⟩ }
      | .error _ => { state with delivery := none }

/-- A key frame was asked for, or is the first frame since the stream started sending. -/
def Justified (state : Audited) : Prop :=
  ∀ delivery ∈ state.delivery, delivery.keyFrame = true →
    delivery.requested = true ∨ delivery.first = true

/-- A frame that is delivered is one that may be a key frame. -/
def CallsForKeyFrame (state : Audited) : Input → Prop
  | .setRates _ => True
  | .encode call => delivers state.self call = true →
      requests state.self call = true ∨ state.fresh = true

structure Initialised (state : Audited) : Prop where
  initialised : ∃ before inst results startRates,
    H264Encoder.initEncode before inst results startRates = .ok (.ok, state.self)
  fresh : state.fresh = sends state.self
  noDelivery : state.delivery = none

def StreamsRequest (state : Audited) : Prop :=
  Requesting state.self

theorem next_streamsRequest {state : Audited} (requesting : StreamsRequest state)
    (input : Input) : StreamsRequest (machine.next state input) := by
  unfold StreamsRequest at requesting ⊢
  cases input with
  | setRates parameters =>
    cases set : state.self.setRates parameters with
    | error fault => simpa [machine, set] using requesting
    | ok next => simpa [machine, set] using setRates_requesting requesting set
  | encode call =>
    cases encoded : state.self.encode call with
    | error fault => simpa [machine, encoded] using requesting
    | ok result =>
      simp only [machine, encoded, Requesting, (encode_cases encoded).1]
      exact requesting

/-- One step: a delivery is justified exactly if the call may deliver a key frame. -/
theorem justified_next_iff {state : Audited} (requesting : StreamsRequest state)
    (input : Input) : Justified (machine.next state input) ↔ CallsForKeyFrame state input := by
  cases input with
  | setRates parameters =>
    cases set : state.self.setRates parameters <;>
      simp [machine, set, Justified, CallsForKeyFrame]
  | encode call =>
    unfold Justified CallsForKeyFrame
    cases encoded : state.self.encode call with
    | error fault => simp [machine, encoded, delivers_iff]
    | ok result =>
      obtain ⟨status, _ | delivered, next⟩ := result
      · simp [machine, encoded, delivers_iff]
      · simp [machine, encoded, delivers_iff, delivered_idrFrame requesting encoded]

/--
In every run of `SetRates` and `Encode` calls on an initialised encoder, each
frame flagged as a key frame was asked for or is the first one since the stream
started sending, exactly if every frame that is delivered at all is such a one.
-/
theorem justified_always_iff (first last : Audited) (inputs : List Input)
    (initialised : Initialised first) (run : machine.Run first inputs last) :
    (∀ count, Justified (machine.outcome first (inputs.take count))) ↔
      (machine.restrict CallsForKeyFrame).Run first inputs last := by
  obtain ⟨before, inst, results, startRates, succeeded⟩ := initialised.initialised
  have initial : StreamsRequest first := initEncode_requesting succeeded
  refine run.always_iff ?_ initial ?_ ?_
  · simp [Justified, initialised.noDelivery]
  · exact fun state input requesting _ => justified_next_iff requesting input
  · exact fun state input requesting _ _ => next_streamsRequest requesting input

/-- An encoder with a callback whose initialisation succeeded. -/
def started : Audited :=
  match ((create 4 false .stray).registerEncodeCompleteCallback true).initEncode
      (some singleStream) (fun _ => ⟨true, true, true, true, true⟩) (ratesOf 300000) with
  | .ok (_, self) => ⟨self, sends self, none⟩
  | .error _ => ⟨create 4 false .stray, false, none⟩

theorem started_initialised : Initialised started :=
  ⟨⟨(create 4 false .stray).registerEncodeCompleteCallback true, some singleStream,
    fun _ => ⟨true, true, true, true, true⟩, ratesOf 300000, rfl⟩, rfl, rfl⟩

/-- The first frame, a pause, the first frame after it and a frame that is asked for. -/
def requestedFrames : List Input :=
  [.encode (deltaFrame 1200), .setRates (ratesOf 0), .setRates (ratesOf 200000),
    .encode (deltaFrame 900), .encode { deltaFrame 900 with frameTypes := some [.key] }]

/-- Each of these frames may be a key frame, and each of them is one. -/
theorem justified_always_of_requested_frames :
    (machine.outcome started requestedFrames).delivery = some ⟨true, true, false⟩ ∧
      ∀ count, Justified (machine.outcome started (requestedFrames.take count)) := by
  have admitted : (machine.restrict CallsForKeyFrame).Admits started requestedFrames := by
    refine ⟨⟨trivial, fun _ => Or.inr ?_⟩, ⟨trivial, trivial⟩, ⟨trivial, trivial⟩,
      ⟨trivial, fun _ => Or.inr ?_⟩, ⟨trivial, fun _ => Or.inl ?_⟩, trivial⟩
    all_goals decide +kernel
  exact ⟨by decide +kernel, (justified_always_iff started _ requestedFrames started_initialised
    admitted.run.of_restrict).mpr admitted.run⟩

/-- The second of two delta frames is flagged as well: the request is still there. -/
theorem second_delta_frame_flagged :
    (machine.outcome started [.encode (deltaFrame 1200), .encode (deltaFrame 900)]).delivery =
      some ⟨true, false, false⟩ := by
  decide +kernel

end MaeRtc.H264.KeyFrames
