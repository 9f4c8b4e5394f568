import MaeRtc.Call.RtpDemuxer

/-!
# Ids remembered after their sinks are gone

`ResolveSink` remembers the ids of a source, and removing a sink does not forget them.  A
later packet without ids is routed by what is remembered for its source first, and dropped
if that is a media id which no sink has any more.
-/

namespace MaeRtc.Call

open Base RtpDemuxerCriteria

namespace RtpDemuxer

variable {σ : Type} {demuxer : RtpDemuxer σ}

/-- What a packet whose media id is known makes of the remembered ids. -/
theorem find_latched (demuxer : RtpDemuxer σ) (packet : DemuxPacket) (mid : Option Name)
    (ssrc : BitVec 32) :
    FlatMap.find (demuxer.latched packet mid).midBySsrc ssrc =
      (if packet.ssrc = ssrc then mid else none).or (FlatMap.find demuxer.midBySsrc ssrc) ∧
    FlatMap.find (demuxer.latched packet mid).rsidBySsrc ssrc =
      (if packet.ssrc = ssrc then packet.repairedRsid.or packet.rsid else none).or
        (FlatMap.find demuxer.rsidBySsrc ssrc) := by
  unfold latched
  generalize packet.repairedRsid.or packet.rsid = rsid
  -- each table gets at most one entry
  cases mid <;> cases rsid <;> by_cases same : packet.ssrc = ssrc <;>
    simp [latchMid, latchRsid, FlatMap.find_assign, same]

/-- Where the ids remembered for a source lead.  A media id decides, even if it has no sink;
a stream id alone decides only if it has one. -/
def remembered (demuxer : RtpDemuxer σ) (ssrc : BitVec 32) : Option (Option σ) :=
  let rsid := FlatMap.find demuxer.rsidBySsrc ssrc
  match FlatMap.find demuxer.midBySsrc ssrc with
  | some mid => some ((FlatMap.find demuxer.sinkByMid mid).or
      (rsid.bind fun rsid => FlatMap.find demuxer.sinkByMidAndRsid (mid, rsid)))
  | none => (rsid.bind (FlatMap.find demuxer.sinkByRsid)).map some

end RtpDemuxer

/-! ## Runs -/

/-- A demuxer with the packets it heard, the latest one first: those it did not drop because
no registered sink named their media id. -/
structure HearingDemuxer (σ : Type) extends WatchedDemuxer σ where
  heard : List DemuxPacket := []
  deriving DecidableEq, Repr

namespace HearingDemuxer

variable {σ : Type}

/-- The media id of a packet counts if a registered sink names it. -/
def hears (state : HearingDemuxer σ) (packet : DemuxPacket) : Bool :=
  !state.demuxer.useMid || packet.mid.all fun mid =>
    mid ≠ [] && state.registered.any fun entry => entry.1.mid = mid

end HearingDemuxer

/-- The last id of some kind among the packets of a source, the latest of which comes first. -/
def lastOf (id : DemuxPacket → Option Name) (heard : List DemuxPacket) (ssrc : BitVec 32) :
    Option Name :=
  heard.findSome? fun packet => if packet.ssrc = ssrc then id packet else none

def lastMid (useMid : Bool) : List DemuxPacket → BitVec 32 → Option Name :=
  lastOf fun packet => if useMid then packet.mid else none

def lastRsid : List DemuxPacket → BitVec 32 → Option Name :=
  lastOf fun packet => packet.repairedRsid.or packet.rsid

theorem lastOf_cons (id : DemuxPacket → Option Name) (packet : DemuxPacket)
    (heard : List DemuxPacket) (ssrc : BitVec 32) :
    lastOf id (packet :: heard) ssrc =
      (if packet.ssrc = ssrc then id packet else none).or (lastOf id heard ssrc) := by
  rw [lastOf, List.findSome?_cons]
  split <;> rename_i isHere <;> rw [isHere] <;> rfl

def hearPackets (σ : Type) [DecidableEq σ] : Machine (HearingDemuxer σ) (DemuxCall σ) where
  pre _ _ := True
  next state call :=
    { toWatchedDemuxer := (routePackets σ).next state.toWatchedDemuxer call
      heard := match call with
        | .onRtpPacket packet =>
          if state.hears packet then packet :: state.heard else state.heard
        | _ => state.heard }

namespace HearingDemuxer

variable {σ : Type} [DecidableEq σ] {useMid : Bool} {state last : HearingDemuxer σ}

/-- What is remembered for a source is what was heard last. -/
structure Recalls (useMid : Bool) (state : HearingDemuxer σ) : Prop where
  inStep : state.toWatchedDemuxer.InStep useMid
  mids : ∀ ssrc, FlatMap.find state.demuxer.midBySsrc ssrc = lastMid useMid state.heard ssrc
  rsids : ∀ ssrc, FlatMap.find state.demuxer.rsidBySsrc ssrc = lastRsid state.heard ssrc

omit [DecidableEq σ] in
theorem hears_iff (inStep : state.toWatchedDemuxer.InStep useMid) (packet : DemuxPacket) :
    state.hears packet = true ↔ ∀ mid ∈ (if state.demuxer.useMid then packet.mid else none),
      mid ∈ state.demuxer.knownMids := by
  unfold hears
  cases state.demuxer.useMid with
  | false => simp
  | true => cases packet.mid <;> simp [inStep.known_iff]

theorem Recalls.onRtpPacket (recalls : Recalls useMid state) (packet : DemuxPacket) :
    Recalls useMid ((hearPackets σ).next state (.onRtpPacket packet)) := by
  have inStep := recalls.inStep.next (.onRtpPacket packet)
  have isNext : (hearPackets σ).next state (.onRtpPacket packet) =
      { demuxer := (state.demuxer.resolveSink packet).2
        registered := state.registered
        heard := if state.hears packet then packet :: state.heard else state.heard } := rfl
  rw [isNext]
  rcases RtpDemuxer.resolveSink_cases state.demuxer packet with
    ⟨⟨mid, isMid, unknown⟩, dropped⟩ | ⟨known, -, sources, -, learned⟩
  · have notHeard : ¬ state.hears packet = true :=
      fun heard => unknown ((hears_iff recalls.inStep packet).mp heard mid isMid)
    rw [if_neg notHeard, dropped]
    exact recalls
  · have found := RtpDemuxer.find_latched state.demuxer packet
      (if state.demuxer.useMid then packet.mid else none)
    rw [if_pos ((hears_iff recalls.inStep packet).mpr known)]
    refine ⟨inStep, fun ssrc => ?_, fun ssrc => ?_⟩
    · rw [learned, (found ssrc).1, recalls.mids, recalls.inStep.uses, lastMid,
        lastOf_cons]
    · rw [learned, (found ssrc).2, recalls.rsids, lastRsid, lastOf_cons]

theorem Recalls.next (recalls : Recalls useMid state) (call : DemuxCall σ) :
    Recalls useMid ((hearPackets σ).next state call) := by
  have inStep := recalls.inStep.next call
  cases call with
  | addSink criteria sink =>
    have same : (state.demuxer.addSink criteria sink).2.midBySsrc = state.demuxer.midBySsrc ∧
        (state.demuxer.addSink criteria sink).2.rsidBySsrc = state.demuxer.rsidBySsrc := by
      unfold RtpDemuxer.addSink RtpDemuxer.addNames
      split_ifs <;> exact ⟨rfl, rfl⟩
    exact ⟨inStep, fun ssrc => same.1 ▸ recalls.mids ssrc,
      fun ssrc => same.2 ▸ recalls.rsids ssrc⟩
  | removeSink sink => exact ⟨inStep, recalls.mids, recalls.rsids⟩
  | onRtpPacket packet => exact recalls.onRtpPacket packet

end HearingDemuxer

end MaeRtc.Call
