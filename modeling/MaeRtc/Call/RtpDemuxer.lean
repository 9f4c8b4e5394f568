import MaeRtc.Base.BigEndian
import MaeRtc.Base.FlatMap
import MaeRtc.Base.Machine

/-!
# Routing of packets to sinks

`RtpDemuxer` of `rtp_demuxer.cc`.  A sink is added with criteria: a media id, a stream id,
both, sources or payload types.  A packet goes to the sink of its ids; which ids and which
sink belong to a source is learned from packets.  A name is the list of its octets, the
empty one stands for no name.
-/

namespace MaeRtc.Call

open Base

abbrev Name := List Octet

/-- `BaseRtpStringExtension::kMaxValueSizeBytes`. -/
def kMaxValueSizeBytes : Nat := 16

def kMaxSsrcBindings : Nat := 1000

def checkMidLength (mid : Name) : Name :=
  if mid.length > kMaxValueSizeBytes then mid.take kMaxValueSizeBytes else mid

structure RtpDemuxerCriteria where
  mid : Name := []
  rsid : Name := []
  ssrcs : List (BitVec 32) := []
  payloadTypes : List (BitVec 8) := []
  deriving DecidableEq, Repr

namespace RtpDemuxerCriteria

def ofNames (mid rsid : Name) : RtpDemuxerCriteria :=
  { mid := checkMidLength mid, rsid }

end RtpDemuxerCriteria

/-- What a packet says about its stream; a name that it carries is not empty. -/
structure DemuxPacket where
  ssrc : BitVec 32
  payloadType : BitVec 8
  mid : Option Name := none
  rsid : Option Name := none
  repairedRsid : Option Name := none
  deriving DecidableEq, Repr

structure RtpDemuxer (σ : Type) where
  sinkByMid : List (Name × σ) := []
  sinkBySsrc : List (BitVec 32 × σ) := []
  sinksByPt : List (BitVec 8 × σ) := []
  sinkByMidAndRsid : List ((Name × Name) × σ) := []
  sinkByRsid : List (Name × σ) := []
  knownMids : List Name := []
  midBySsrc : List (BitVec 32 × Name) := []
  rsidBySsrc : List (BitVec 32 × Name) := []
  useMid : Bool := true
  deriving DecidableEq, Repr

namespace RtpDemuxer

variable {σ : Type}

/-! ## Adding and removing sinks -/

/-- The part of `CriteriaWouldConflict` for names. -/
def namesWouldConflict (demuxer : RtpDemuxer σ) (criteria : RtpDemuxerCriteria) : Bool :=
  if criteria.mid ≠ [] then
    if criteria.rsid = [] then criteria.mid ∈ demuxer.knownMids
    else
      (FlatMap.find demuxer.sinkByMidAndRsid (criteria.mid, criteria.rsid)).isSome ||
        (FlatMap.find demuxer.sinkByMid criteria.mid).isSome
  else false

def criteriaWouldConflict (demuxer : RtpDemuxer σ) (criteria : RtpDemuxerCriteria) : Bool :=
  demuxer.namesWouldConflict criteria ||
    criteria.ssrcs.any fun ssrc => (FlatMap.find demuxer.sinkBySsrc ssrc).isSome

def refreshKnownMids (demuxer : RtpDemuxer σ) : RtpDemuxer σ :=
  { demuxer with
    knownMids := demuxer.sinkByMid.map Prod.fst ++
      demuxer.sinkByMidAndRsid.map fun entry => entry.1.1 }

def addNames (demuxer : RtpDemuxer σ) (criteria : RtpDemuxerCriteria) (sink : σ) :
    RtpDemuxer σ :=
  if criteria.mid ≠ [] then
    if criteria.rsid = [] then
      { demuxer with sinkByMid := FlatMap.emplace demuxer.sinkByMid criteria.mid sink }
    else
      { demuxer with
        sinkByMidAndRsid := FlatMap.emplace demuxer.sinkByMidAndRsid
          (criteria.mid, criteria.rsid) sink }
  else if criteria.rsid ≠ [] then
    { demuxer with sinkByRsid := FlatMap.emplace demuxer.sinkByRsid criteria.rsid sink }
  else demuxer

def addSsrcs (demuxer : RtpDemuxer σ) (ssrcs : List (BitVec 32)) (sink : σ) : RtpDemuxer σ :=
  { demuxer with
    sinkBySsrc := ssrcs.foldl (fun map ssrc => FlatMap.emplace map ssrc sink) demuxer.sinkBySsrc }

def addPayloadTypes (demuxer : RtpDemuxer σ) (payloadTypes : List (BitVec 8)) (sink : σ) :
    RtpDemuxer σ :=
  { demuxer with sinksByPt := demuxer.sinksByPt ++ payloadTypes.map fun type => (type, sink) }

def addSink (demuxer : RtpDemuxer σ) (criteria : RtpDemuxerCriteria) (sink : σ) :
    Bool × RtpDemuxer σ :=
  if demuxer.criteriaWouldConflict criteria then (false, demuxer)
  else
    let demuxer := demuxer.addNames criteria sink
    let demuxer := demuxer.addSsrcs criteria.ssrcs sink
    let demuxer := demuxer.addPayloadTypes criteria.payloadTypes sink
    (true, demuxer.refreshKnownMids)

def withoutSink {κ : Type} [DecidableEq σ] (map : List (κ × σ)) (sink : σ) : List (κ × σ) :=
  map.filter fun entry => entry.2 ≠ sink

def removeSink [DecidableEq σ] (demuxer : RtpDemuxer σ) (sink : σ) : Bool × RtpDemuxer σ :=
  let numRemoved := (demuxer.sinkByMid.filter fun entry => entry.2 = sink).length +
    (demuxer.sinkBySsrc.filter fun entry => entry.2 = sink).length +
    (demuxer.sinksByPt.filter fun entry => entry.2 = sink).length +
    (demuxer.sinkByMidAndRsid.filter fun entry => entry.2 = sink).length +
    (demuxer.sinkByRsid.filter fun entry => entry.2 = sink).length
  (decide (numRemoved > 0), refreshKnownMids { demuxer with
    sinkByMid := withoutSink demuxer.sinkByMid sink
    sinkBySsrc := withoutSink demuxer.sinkBySsrc sink
    sinksByPt := withoutSink demuxer.sinksByPt sink
    sinkByMidAndRsid := withoutSink demuxer.sinkByMidAndRsid sink
    sinkByRsid := withoutSink demuxer.sinkByRsid sink })

/-! ## Packets -/

def addSsrcSinkBinding (demuxer : RtpDemuxer σ) (ssrc : BitVec 32) (sink : σ) : RtpDemuxer σ :=
  if demuxer.sinkBySsrc.length ≥ kMaxSsrcBindings then demuxer
  else { demuxer with sinkBySsrc := FlatMap.assign demuxer.sinkBySsrc ssrc sink }

/-- The sink that was found for a name, which is bound to the source. -/
def bindFound (demuxer : RtpDemuxer σ) (ssrc : BitVec 32) : Option σ → Option σ × RtpDemuxer σ
  | none => (none, demuxer)
  | some sink => (some sink, demuxer.addSsrcSinkBinding ssrc sink)

def resolveSinkByMid (demuxer : RtpDemuxer σ) (mid : Name) (ssrc : BitVec 32) :
    Option σ × RtpDemuxer σ :=
  demuxer.bindFound ssrc (FlatMap.find demuxer.sinkByMid mid)

def resolveSinkByMidRsid (demuxer : RtpDemuxer σ) (mid rsid : Name) (ssrc : BitVec 32) :
    Option σ × RtpDemuxer σ :=
  demuxer.bindFound ssrc (FlatMap.find demuxer.sinkByMidAndRsid (mid, rsid))

def resolveSinkByRsid (demuxer : RtpDemuxer σ) (rsid : Name) (ssrc : BitVec 32) :
    Option σ × RtpDemuxer σ :=
  demuxer.bindFound ssrc (FlatMap.find demuxer.sinkByRsid rsid)

/-- The sink for a payload type, if there is exactly one. -/
def resolveSinkByPayloadType (demuxer : RtpDemuxer σ) (payloadType : BitVec 8)
    (ssrc : BitVec 32) : Option σ × RtpDemuxer σ :=
  match demuxer.sinksByPt.filter fun entry => entry.1 = payloadType with
  | [entry] => demuxer.bindFound ssrc (some entry.2)
  | _ => (none, demuxer)

/-- The media id of a packet or of its source, which is remembered. -/
def latchMid (demuxer : RtpDemuxer σ) (ssrc : BitVec 32) :
    Option Name → Option Name × RtpDemuxer σ
  | some mid => (some mid, { demuxer with midBySsrc := FlatMap.assign demuxer.midBySsrc ssrc mid })
  | none => (FlatMap.find demuxer.midBySsrc ssrc, demuxer)

def latchRsid (demuxer : RtpDemuxer σ) (ssrc : BitVec 32) :
    Option Name → Option Name × RtpDemuxer σ
  | some rsid =>
    (some rsid, { demuxer with rsidBySsrc := FlatMap.assign demuxer.rsidBySsrc ssrc rsid })
  | none => (FlatMap.find demuxer.rsidBySsrc ssrc, demuxer)

/-- Another search, if the first one finds nothing. -/
def orElse (result : Option σ × RtpDemuxer σ) (next : RtpDemuxer σ → Option σ × RtpDemuxer σ) :
    Option σ × RtpDemuxer σ :=
  match result with
  | (some sink, demuxer) => (some sink, demuxer)
  | (none, demuxer) => next demuxer

/-- The part of `ResolveSink` for a packet with a media id. -/
def resolveWithMid (demuxer : RtpDemuxer σ) (mid : Name) (rsid : Option Name)
    (ssrc : BitVec 32) : Option σ × RtpDemuxer σ :=
  orElse (demuxer.resolveSinkByMid mid ssrc) fun demuxer =>
    match rsid with
    | some rsid => demuxer.resolveSinkByMidRsid mid rsid ssrc
    | none => (none, demuxer)

/-- The source of the packet is trusted more than its payload type. -/
def resolveBySource (demuxer : RtpDemuxer σ) (ssrc : BitVec 32) (payloadType : BitVec 8) :
    Option σ × RtpDemuxer σ :=
  match FlatMap.find demuxer.sinkBySsrc ssrc with
  | some sink => (some sink, demuxer)
  | none => demuxer.resolveSinkByPayloadType payloadType ssrc

/-- The part for a packet without one. -/
def resolveWithoutMid (demuxer : RtpDemuxer σ) (rsid : Option Name) (ssrc : BitVec 32)
    (payloadType : BitVec 8) : Option σ × RtpDemuxer σ :=
  match rsid with
  | none => demuxer.resolveBySource ssrc payloadType
  | some rsid =>
    orElse (demuxer.resolveSinkByRsid rsid ssrc) fun demuxer =>
      demuxer.resolveBySource ssrc payloadType

def resolveSink (demuxer : RtpDemuxer σ) (packet : DemuxPacket) : Option σ × RtpDemuxer σ :=
  let packetMid := if demuxer.useMid then packet.mid else none
  let packetRsid := packet.repairedRsid.or packet.rsid
  if packetMid.any fun mid => mid ∉ demuxer.knownMids then (none, demuxer)
  else
    let (mid, demuxer) := demuxer.latchMid packet.ssrc packetMid
    let (rsid, demuxer) := demuxer.latchRsid packet.ssrc packetRsid
    match mid with
    | some mid => demuxer.resolveWithMid mid rsid packet.ssrc
    | none => demuxer.resolveWithoutMid rsid packet.ssrc packet.payloadType

/-! ## What a packet changes -/

def sinks (demuxer : RtpDemuxer σ) : List σ :=
  FlatMap.values demuxer.sinkByMid ++ FlatMap.values demuxer.sinkBySsrc ++
    FlatMap.values demuxer.sinksByPt ++ FlatMap.values demuxer.sinkByMidAndRsid ++
    FlatMap.values demuxer.sinkByRsid

/-- A search only binds sources, to sinks that are there. -/
def Learned (before after : RtpDemuxer σ) : Prop :=
  ∃ sources, FlatMap.values sources ⊆ before.sinks ∧ after = { before with sinkBySsrc := sources }

theorem Learned.refl (demuxer : RtpDemuxer σ) : Learned demuxer demuxer :=
  ⟨demuxer.sinkBySsrc, fun _ bySsrc => by simp [sinks, bySsrc], rfl⟩

/-- What is there after a search was there before. -/
theorem Learned.sinks {before after : RtpDemuxer σ} (learned : Learned before after) :
    after.sinks ⊆ before.sinks := by
  obtain ⟨sources, known, rfl⟩ := learned
  intro sink member
  simp only [RtpDemuxer.sinks, List.mem_append] at member
  rcases member with (((byMid | bySsrc) | byPt) | byBoth) | byRsid
  · simp [RtpDemuxer.sinks, byMid]
  · exact known bySsrc
  · simp [RtpDemuxer.sinks, byPt]
  · simp [RtpDemuxer.sinks, byBoth]
  · simp [RtpDemuxer.sinks, byRsid]

theorem Learned.trans {one two three : RtpDemuxer σ} (first : Learned one two)
    (second : Learned two three) : Learned one three := by
  obtain ⟨sources, known, rfl⟩ := second
  refine ⟨sources, List.Subset.trans known first.sinks, ?_⟩
  obtain ⟨_, -, rfl⟩ := first
  rfl

/-- What a part of the search returns: a sink that is there, and what was learned. -/
def Resolves (demuxer : RtpDemuxer σ) (result : Option σ × RtpDemuxer σ) : Prop :=
  (∀ sink ∈ result.1, sink ∈ demuxer.sinks) ∧ Learned demuxer result.2

section

variable {demuxer after : RtpDemuxer σ} {result : Option σ × RtpDemuxer σ}

theorem Resolves.of_learned (learned : Learned demuxer after) (resolves : after.Resolves result) :
    demuxer.Resolves result :=
  ⟨fun sink isSink => learned.sinks (resolves.1 sink isSink), learned.trans resolves.2⟩

theorem resolves_bindFound {found : Option σ} (isThere : ∀ sink ∈ found, sink ∈ demuxer.sinks)
    (ssrc : BitVec 32) : demuxer.Resolves (demuxer.bindFound ssrc found) := by
  cases found with
  | none => exact ⟨nofun, .refl _⟩
  | some sink =>
    refine ⟨isThere, ?_⟩
    dsimp only [bindFound, addSsrcSinkBinding]
    split_ifs
    · exact .refl _
    · refine ⟨_, List.Subset.trans FlatMap.values_assign
        (List.cons_subset.mpr ⟨isThere sink rfl, ?_⟩), rfl⟩
      exact fun _ bySsrc => by simp [sinks, bySsrc]

theorem resolves_byMid (mid : Name) (ssrc : BitVec 32) :
    demuxer.Resolves (demuxer.resolveSinkByMid mid ssrc) :=
  resolves_bindFound (fun _ found => by simp [sinks, FlatMap.mem_values_of_find found]) ssrc

theorem resolves_byMidRsid (mid rsid : Name) (ssrc : BitVec 32) :
    demuxer.Resolves (demuxer.resolveSinkByMidRsid mid rsid ssrc) :=
  resolves_bindFound (fun _ found => by simp [sinks, FlatMap.mem_values_of_find found]) ssrc

theorem resolves_byRsid (rsid : Name) (ssrc : BitVec 32) :
    demuxer.Resolves (demuxer.resolveSinkByRsid rsid ssrc) :=
  resolves_bindFound (fun _ found => by simp [sinks, FlatMap.mem_values_of_find found]) ssrc

theorem resolves_byPayloadType (payloadType : BitVec 8) (ssrc : BitVec 32) :
    demuxer.Resolves (demuxer.resolveSinkByPayloadType payloadType ssrc) := by
  unfold resolveSinkByPayloadType
  split
  next entry isOnly =>
    have member : entry ∈ demuxer.sinksByPt := by
      refine @List.mem_of_mem_filter _ (fun entry => entry.1 = payloadType) _ _ ?_
      rw [isOnly]
      exact List.mem_singleton_self _
    have byPt : entry.2 ∈ FlatMap.values demuxer.sinksByPt := List.mem_map_of_mem member
    refine resolves_bindFound ?_ ssrc
    rintro _ ⟨⟩
    simp [sinks, byPt]
  · exact ⟨nofun, .refl _⟩

theorem resolves_bySource (ssrc : BitVec 32) (payloadType : BitVec 8) :
    demuxer.Resolves (demuxer.resolveBySource ssrc payloadType) := by
  unfold resolveBySource
  cases found : FlatMap.find demuxer.sinkBySsrc ssrc with
  | none => exact resolves_byPayloadType payloadType ssrc
  | some sink =>
    refine ⟨?_, .refl _⟩
    rintro _ ⟨⟩
    simp [sinks, FlatMap.mem_values_of_find found]

theorem Resolves.orElse {next : RtpDemuxer σ → Option σ × RtpDemuxer σ}
    (first : demuxer.Resolves result) (second : ∀ after : RtpDemuxer σ, after.Resolves (next after)) :
    demuxer.Resolves (RtpDemuxer.orElse result next) := by
  obtain ⟨found, after⟩ := result
  cases found with
  | none => exact (second after).of_learned first.2
  | some sink => exact first

theorem resolves_withMid (mid : Name) (rsid : Option Name) (ssrc : BitVec 32) :
    demuxer.Resolves (demuxer.resolveWithMid mid rsid ssrc) := by
  refine (resolves_byMid mid ssrc).orElse fun after => ?_
  cases rsid with
  | none => exact ⟨nofun, .refl _⟩
  | some rsid => exact resolves_byMidRsid mid rsid ssrc

theorem resolves_withoutMid (rsid : Option Name) (ssrc : BitVec 32) (payloadType : BitVec 8) :
    demuxer.Resolves (demuxer.resolveWithoutMid rsid ssrc payloadType) := by
  cases rsid with
  | none => exact resolves_bySource ssrc payloadType
  | some rsid =>
    exact (resolves_byRsid rsid ssrc).orElse fun _ => resolves_bySource ssrc payloadType

/-- The demuxer that remembers the ids of a packet. -/
def latched (demuxer : RtpDemuxer σ) (packet : DemuxPacket) (mid : Option Name) : RtpDemuxer σ :=
  ((demuxer.latchMid packet.ssrc mid).2.latchRsid packet.ssrc
    (packet.repairedRsid.or packet.rsid)).2

theorem latched_eq (demuxer : RtpDemuxer σ) (packet : DemuxPacket) (mid : Option Name) :
    demuxer.latched packet mid = { demuxer with
      midBySsrc := (demuxer.latchMid packet.ssrc mid).2.midBySsrc
      rsidBySsrc := (demuxer.latchRsid packet.ssrc
        (packet.repairedRsid.or packet.rsid)).2.rsidBySsrc } := by
  unfold latched
  cases mid <;> cases packet.repairedRsid.or packet.rsid <;> rfl

/-- A packet is dropped because of its media id, or its ids are remembered before the search. -/
theorem resolveSink_cases (demuxer : RtpDemuxer σ) (packet : DemuxPacket) :
    let mid := if demuxer.useMid then packet.mid else none
    ((∃ name ∈ mid, name ∉ demuxer.knownMids) ∧ demuxer.resolveSink packet = (none, demuxer)) ∨
      (∀ name ∈ mid, name ∈ demuxer.knownMids) ∧
        (demuxer.latched packet mid).Resolves (demuxer.resolveSink packet) := by
  intro mid
  unfold resolveSink
  dsimp only
  change (_ ∧ (if (mid.any fun name => name ∉ demuxer.knownMids) = true then _ else _) = _) ∨ _
  by_cases unknown : (mid.any fun name => name ∉ demuxer.knownMids) = true
  · rw [if_pos unknown]
    refine .inl ⟨?_, rfl⟩
    obtain ⟨name, isName, notKnown⟩ := (Option.any_eq_true ..).mp unknown
    exact ⟨name, isName, of_decide_eq_true notKnown⟩
  · refine .inr ⟨?_, ?_⟩
    · intro name isName
      by_contra notKnown
      exact unknown ((Option.any_eq_true ..).mpr ⟨name, isName, decide_eq_true notKnown⟩)
    · rw [if_neg unknown]
      split
      · exact resolves_withMid _ _ _
      · exact resolves_withoutMid _ _ _

/-- A packet only changes what is known of sources. -/
theorem learned_resolveSink (demuxer : RtpDemuxer σ) (packet : DemuxPacket) :
    (∀ sink ∈ (demuxer.resolveSink packet).1, sink ∈ demuxer.sinks) ∧
      ∃ mids rsids, Learned { demuxer with midBySsrc := mids, rsidBySsrc := rsids }
        (demuxer.resolveSink packet).2 := by
  rcases resolveSink_cases demuxer packet with ⟨-, dropped⟩ | ⟨-, resolves⟩
  · rw [dropped]
    exact ⟨nofun, _, _, .refl _⟩
  · rw [latched_eq] at resolves
    exact ⟨resolves.1, _, _, resolves.2⟩

variable {packet : DemuxPacket} {mid : Name} (uses : demuxer.useMid = true)
  (isMid : packet.mid = some mid)
include uses isMid

theorem resolveSink_unknown (unknown : mid ∉ demuxer.knownMids) :
    demuxer.resolveSink packet = (none, demuxer) := by
  unfold resolveSink
  rw [if_pos uses, isMid, if_pos (by simpa using unknown)]

theorem resolveSink_known {sink : σ} (known : mid ∈ demuxer.knownMids)
    (found : FlatMap.find demuxer.sinkByMid mid = some sink) :
    (demuxer.resolveSink packet).1 = some sink := by
  have sameMap : (demuxer.latched packet (some mid)).sinkByMid = demuxer.sinkByMid := by
    rw [latched_eq]
  unfold resolveSink
  dsimp only
  rw [if_pos uses, isMid, if_neg (by simpa using known)]
  change (resolveWithMid (demuxer.latched packet (some mid)) mid _ _).1 = some sink
  rw [resolveWithMid, resolveSinkByMid, sameMap, found]
  rfl

end

end RtpDemuxer

/-! ## Runs -/

inductive DemuxCall (σ : Type) where
  | addSink (criteria : RtpDemuxerCriteria) (sink : σ)
  | removeSink (sink : σ)
  | onRtpPacket (packet : DemuxPacket)
  deriving DecidableEq, Repr

structure WatchedDemuxer (σ : Type) where
  demuxer : RtpDemuxer σ := {}
  /-- The sinks that were added and not removed since, with their criteria. -/
  registered : List (RtpDemuxerCriteria × σ) := []
  deriving DecidableEq, Repr

def routePackets (σ : Type) [DecidableEq σ] : Machine (WatchedDemuxer σ) (DemuxCall σ) where
  pre _ _ := True
  next state
    | .addSink criteria sink =>
      let (added, demuxer) := state.demuxer.addSink criteria sink
      { demuxer
        registered := if added then state.registered ++ [(criteria, sink)]
          else state.registered }
    | .removeSink sink =>
      { demuxer := (state.demuxer.removeSink sink).2
        registered := state.registered.filter fun entry => entry.2 ≠ sink }
    | .onRtpPacket packet => { state with demuxer := (state.demuxer.resolveSink packet).2 }

namespace RtpDemuxerCriteria

variable {σ : Type}

/-- The criteria ask for a media id without a stream id. -/
def BareMid (criteria : RtpDemuxerCriteria) (mid : Name) : Prop :=
  mid ≠ [] ∧ criteria.mid = mid ∧ criteria.rsid = []

def bareMid (entry : RtpDemuxerCriteria × σ) : Option (Name × σ) :=
  if entry.1.mid ≠ [] ∧ entry.1.rsid = [] then some (entry.1.mid, entry.2) else none

def midAndRsid (entry : RtpDemuxerCriteria × σ) : Option ((Name × Name) × σ) :=
  if entry.1.mid ≠ [] ∧ entry.1.rsid ≠ [] then some ((entry.1.mid, entry.1.rsid), entry.2)
  else none

end RtpDemuxerCriteria

namespace WatchedDemuxer

open RtpDemuxerCriteria

variable {σ : Type}

/-- The maps of media ids are those of the registered criteria, and no other sinks are in
any map. -/
structure InStep (useMid : Bool) (state : WatchedDemuxer σ) : Prop where
  uses : state.demuxer.useMid = useMid
  byMid : state.demuxer.sinkByMid = state.registered.filterMap bareMid
  byBoth : state.demuxer.sinkByMidAndRsid = state.registered.filterMap midAndRsid
  known : state.demuxer.knownMids = state.demuxer.sinkByMid.map Prod.fst ++
    state.demuxer.sinkByMidAndRsid.map fun entry => entry.1.1
  distinct : (state.demuxer.sinkByMid.map Prod.fst).Nodup
  sinks : state.demuxer.sinks ⊆ FlatMap.values state.registered

variable {useMid : Bool} {state : WatchedDemuxer σ}

theorem inStep_new (useMid : Bool) : InStep useMid ({ demuxer := { useMid } } : WatchedDemuxer σ) where
  uses := rfl
  byMid := rfl
  byBoth := rfl
  known := rfl
  distinct := List.nodup_nil
  sinks := List.nil_subset _

theorem values_ssrcs (ssrcs : List (BitVec 32)) (map : List (BitVec 32 × σ)) (sink : σ) :
    FlatMap.values (ssrcs.foldl (fun map ssrc => FlatMap.emplace map ssrc sink) map) ⊆
      sink :: FlatMap.values map := by
  induction ssrcs generalizing map with
  | nil => exact List.subset_cons_self _ _
  | cons ssrc others ih =>
    refine List.Subset.trans (ih _) (List.cons_subset.mpr ⟨List.mem_cons_self, ?_⟩)
    exact FlatMap.values_emplace

variable {criteria : RtpDemuxerCriteria}

/-- Five maps that each get at most one new sink. -/
theorem sinks_subset {before after : RtpDemuxer σ} {sink : σ}
    (byMid : FlatMap.values after.sinkByMid ⊆ sink :: FlatMap.values before.sinkByMid)
    (bySsrc : FlatMap.values after.sinkBySsrc ⊆ sink :: FlatMap.values before.sinkBySsrc)
    (byPt : FlatMap.values after.sinksByPt ⊆ sink :: FlatMap.values before.sinksByPt)
    (byBoth : FlatMap.values after.sinkByMidAndRsid ⊆
      sink :: FlatMap.values before.sinkByMidAndRsid)
    (byRsid : FlatMap.values after.sinkByRsid ⊆ sink :: FlatMap.values before.sinkByRsid) :
    after.sinks ⊆ sink :: before.sinks := by
  unfold RtpDemuxer.sinks
  grind

theorem sinks_addSink (demuxer : RtpDemuxer σ) (criteria : RtpDemuxerCriteria) (sink : σ) :
    (demuxer.addSink criteria sink).2.sinks ⊆ sink :: demuxer.sinks := by
  have bySsrc := values_ssrcs criteria.ssrcs demuxer.sinkBySsrc sink
  have byPt : FlatMap.values (demuxer.sinksByPt ++ criteria.payloadTypes.map fun type =>
      (type, sink)) ⊆ sink :: FlatMap.values demuxer.sinksByPt := by
    unfold FlatMap.values
    grind
  have same {κ : Type} (map : List (κ × σ)) : FlatMap.values map ⊆ sink :: FlatMap.values map :=
    List.subset_cons_self _ _
  unfold RtpDemuxer.addSink RtpDemuxer.addNames
  split_ifs
  · exact List.subset_cons_self _ _
  · exact sinks_subset FlatMap.values_emplace bySsrc byPt (same _) (same _)
  · exact sinks_subset (same _) bySsrc byPt FlatMap.values_emplace (same _)
  · exact sinks_subset (same _) bySsrc byPt (same _) FlatMap.values_emplace
  · exact sinks_subset (same _) bySsrc byPt (same _) (same _)

/-- What adding a sink makes of the maps of media ids. -/
theorem InStep.addNames (inStep : InStep useMid state) (sink : σ)
    (noConflict : state.demuxer.namesWouldConflict criteria = false) :
    (state.demuxer.addNames criteria sink).sinkByMid =
      (state.registered ++ [(criteria, sink)]).filterMap bareMid ∧
    (state.demuxer.addNames criteria sink).sinkByMidAndRsid =
      (state.registered ++ [(criteria, sink)]).filterMap midAndRsid ∧
    ((state.demuxer.addNames criteria sink).sinkByMid.map Prod.fst).Nodup := by
  rw [List.filterMap_append, List.filterMap_append, ← inStep.byMid, ← inStep.byBoth]
  unfold RtpDemuxer.namesWouldConflict at noConflict
  unfold RtpDemuxer.addNames
  by_cases hasMid : criteria.mid ≠ []
  · rw [if_pos hasMid] at noConflict ⊢
    by_cases noRsid : criteria.rsid = []
    · rw [if_pos noRsid] at noConflict ⊢
      have isNew : criteria.mid ∉ state.demuxer.sinkByMid.map Prod.fst := by
        intro member
        refine absurd ?_ (of_decide_eq_false noConflict)
        rw [inStep.known]
        exact List.mem_append_left _ member
      have notFound : FlatMap.find state.demuxer.sinkByMid criteria.mid = none := by
        rw [FlatMap.find_eq_none_iff]
        exact fun entry member same => isNew (same ▸ List.mem_map_of_mem member)
      have isBare : [(criteria, sink)].filterMap bareMid = [(criteria.mid, sink)] := by
        simp [bareMid, hasMid, noRsid]
      have notBoth : [(criteria, sink)].filterMap midAndRsid = [] := by
        simp [midAndRsid, noRsid]
      rw [FlatMap.emplace_of_new notFound, isBare, notBoth, List.append_nil]
      refine ⟨rfl, rfl, ?_⟩
      rw [List.map_append, List.nodup_append]
      refine ⟨inStep.distinct, List.nodup_singleton _, ?_⟩
      rintro mid isOld _ isLast rfl
      rw [List.map_singleton, List.mem_singleton] at isLast
      have isMid : mid = criteria.mid := isLast
      exact isNew (isMid ▸ isOld)
    · rw [if_neg noRsid] at noConflict ⊢
      rw [Bool.or_eq_false_iff, Option.isSome_eq_false_iff, Option.isNone_iff_eq_none] at noConflict
      have notBare : [(criteria, sink)].filterMap bareMid = [] := by
        simp [bareMid, noRsid]
      have isBoth : [(criteria, sink)].filterMap midAndRsid =
          [((criteria.mid, criteria.rsid), sink)] := by
        simp [midAndRsid, hasMid, noRsid]
      rw [FlatMap.emplace_of_new noConflict.1, notBare, isBoth, List.append_nil]
      exact ⟨rfl, rfl, inStep.distinct⟩
  · have notBare : [(criteria, sink)].filterMap bareMid = [] := by
      simp [bareMid, not_not.mp hasMid]
    have notBoth : [(criteria, sink)].filterMap midAndRsid = [] := by
      simp [midAndRsid, not_not.mp hasMid]
    rw [if_neg hasMid, notBare, notBoth, List.append_nil, List.append_nil]
    split_ifs <;> exact ⟨rfl, rfl, inStep.distinct⟩

variable [DecidableEq σ]

theorem InStep.addSink (inStep : InStep useMid state) (criteria : RtpDemuxerCriteria) (sink : σ) :
    InStep useMid ((routePackets σ).next state (.addSink criteria sink)) := by
  have isNext : (routePackets σ).next state (.addSink criteria sink) =
      { demuxer := (state.demuxer.addSink criteria sink).2
        registered := if (state.demuxer.addSink criteria sink).1 then
          state.registered ++ [(criteria, sink)] else state.registered } := rfl
  have sinks := List.Subset.trans (sinks_addSink state.demuxer criteria sink)
    (List.cons_subset_cons sink inStep.sinks)
  rw [isNext]
  unfold RtpDemuxer.addSink at sinks ⊢
  by_cases conflict : state.demuxer.criteriaWouldConflict criteria = true
  · rw [if_pos conflict]
    exact ⟨inStep.uses, inStep.byMid, inStep.byBoth, inStep.known, inStep.distinct, inStep.sinks⟩
  rw [if_neg conflict] at sinks ⊢
  rw [RtpDemuxer.criteriaWouldConflict, Bool.or_eq_true, not_or, Bool.not_eq_true] at conflict
  obtain ⟨byMid, byBoth, distinct⟩ := inStep.addNames sink conflict.1
  refine ⟨?_, byMid, byBoth, rfl, distinct, List.Subset.trans sinks ?_⟩
  · rw [← inStep.uses]
    unfold RtpDemuxer.addNames
    split_ifs <;> rfl
  · simp [FlatMap.values]

omit [DecidableEq σ] in
/-- Removing a sink from the criteria or from a map that they give is the same. -/
theorem filterMap_filter_sink {κ : Type} {part : RtpDemuxerCriteria × σ → Option (κ × σ)}
    (keeps : ∀ entry, ∀ found ∈ part entry, found.2 = entry.2) (test : σ → Bool)
    (registered : List (RtpDemuxerCriteria × σ)) :
    (registered.filter fun entry => test entry.2).filterMap part =
      (registered.filterMap part).filter fun entry => test entry.2 := by
  rw [List.filterMap_filter, List.filter_filterMap]
  refine List.filterMap_congr fun entry _ => ?_
  cases isPart : part entry with
  | none => simp
  | some found => simp [keeps entry found isPart, Option.filter]

theorem InStep.removeSink (inStep : InStep useMid state) (sink : σ) :
    InStep useMid ((routePackets σ).next state (.removeSink sink)) := by
  have kept : ∀ {κ : Type} (map : List (κ × σ)), FlatMap.values (RtpDemuxer.withoutSink map sink) =
      (FlatMap.values map).filter (· ≠ sink) := fun map => by
    unfold FlatMap.values RtpDemuxer.withoutSink
    rw [List.filter_map]
    rfl
  refine ⟨inStep.uses, ?_, ?_, rfl, ?_, ?_⟩
  · refine (congrArg (RtpDemuxer.withoutSink · sink) inStep.byMid).trans ?_
    refine (filterMap_filter_sink ?_ (fun other => other ≠ sink) state.registered).symm
    intro entry found isFound
    unfold bareMid at isFound
    split_ifs at isFound <;> cases isFound
    rfl
  · refine (congrArg (RtpDemuxer.withoutSink · sink) inStep.byBoth).trans ?_
    refine (filterMap_filter_sink ?_ (fun other => other ≠ sink) state.registered).symm
    intro entry found isFound
    unfold midAndRsid at isFound
    split_ifs at isFound <;> cases isFound
    rfl
  · exact (List.Sublist.map Prod.fst List.filter_sublist).nodup inStep.distinct
  · have remain : state.demuxer.sinks.filter (· ≠ sink) ⊆
        (FlatMap.values state.registered).filter (· ≠ sink) :=
      List.filter_subset _ inStep.sinks
    simp only [RtpDemuxer.sinks, List.filter_append, ← kept] at remain
    exact remain

theorem InStep.onRtpPacket (inStep : InStep useMid state) (packet : DemuxPacket) :
    InStep useMid ((routePackets σ).next state (.onRtpPacket packet)) := by
  obtain ⟨-, _, _, learned⟩ := RtpDemuxer.learned_resolveSink state.demuxer packet
  have sinks := List.Subset.trans learned.sinks inStep.sinks
  obtain ⟨_, -, isNext⟩ := learned
  change InStep useMid { state with demuxer := (state.demuxer.resolveSink packet).2 }
  rw [isNext] at sinks ⊢
  exact ⟨inStep.uses, inStep.byMid, inStep.byBoth, inStep.known, inStep.distinct, sinks⟩

omit [DecidableEq σ] in
/-- The known media ids are those that registered criteria name. -/
theorem InStep.known_iff (inStep : InStep useMid state) (mid : Name) :
    mid ∈ state.demuxer.knownMids ↔ mid ≠ [] ∧ ∃ entry ∈ state.registered, entry.1.mid = mid := by
  rw [inStep.known, inStep.byMid, inStep.byBoth, List.mem_append, List.mem_map, List.mem_map]
  simp only [List.mem_filterMap, bareMid, midAndRsid]
  constructor
  · rintro (⟨found, ⟨entry, member, isPart⟩, rfl⟩ | ⟨found, ⟨entry, member, isPart⟩, rfl⟩)
    all_goals
      split_ifs at isPart with named
      cases isPart
      exact ⟨named.1, entry, member, rfl⟩
  · rintro ⟨nonempty, entry, member, rfl⟩
    by_cases noRsid : entry.1.rsid = []
    · exact .inl ⟨_, ⟨entry, member, if_pos ⟨nonempty, noRsid⟩⟩, rfl⟩
    · exact .inr ⟨_, ⟨entry, member, if_pos ⟨nonempty, noRsid⟩⟩, rfl⟩

theorem InStep.next (inStep : InStep useMid state) (call : DemuxCall σ) :
    InStep useMid ((routePackets σ).next state call) := by
  cases call with
  | addSink criteria sink => exact inStep.addSink criteria sink
  | removeSink sink => exact inStep.removeSink sink
  | onRtpPacket packet => exact inStep.onRtpPacket packet

theorem inStep_of_run {calls : List (DemuxCall σ)} {last : WatchedDemuxer σ}
    (run : (routePackets σ).Run { demuxer := { useMid } } calls last) : InStep useMid last :=
  run.invariant (fun _ state => InStep useMid state) (inStep_new useMid)
    fun _ _ call _ inStep _ => inStep.next call

theorem registered_next {call : DemuxCall σ} {entry : RtpDemuxerCriteria × σ}
    (member : entry ∈ ((routePackets σ).next state call).registered) :
    entry ∈ state.registered ∨ call = .addSink entry.1 entry.2 := by
  cases call with
  | addSink criteria sink =>
    change entry ∈ (if _ then _ else _) at member
    split_ifs at member
    · rcases List.mem_append.mp member with isOld | isNew
      · exact .inl isOld
      · rw [List.mem_singleton.mp isNew]
        exact .inr rfl
    · exact .inl member
  | removeSink sink => exact .inl (List.mem_of_mem_filter member)
  | onRtpPacket packet => exact .inl member

/-- A sink that was removed and not added again is not registered. -/
theorem not_registered_of_run {first last : WatchedDemuxer σ} {calls : List (DemuxCall σ)}
    (run : (routePackets σ).Run first calls last) {earlier later : List (DemuxCall σ)} {sink : σ}
    (split : calls = earlier ++ .removeSink sink :: later)
    (notAdded : ∀ criteria, .addSink criteria sink ∉ later) (criteria : RtpDemuxerCriteria) :
    (criteria, sink) ∉ last.registered := by
  induction run generalizing later with
  | nil => exact absurd split (by simp)
  | @snoc middle inputs input before admissible ih =>
    intro member
    rcases List.eq_nil_or_concat later with rfl | ⟨init, final, rfl⟩
    · obtain ⟨rfl, isLast⟩ := List.append_singleton_inj.mp split
      rw [isLast] at member
      exact of_decide_eq_true (List.mem_filter.mp member).2 rfl
    rw [List.concat_eq_append, ← List.cons_append, ← List.append_assoc] at split
    obtain ⟨isEarlier, rfl⟩ := List.append_singleton_inj.mp split
    rw [List.concat_eq_append] at notAdded
    rcases registered_next member with isOld | isAdded
    · exact ih isEarlier (fun criteria inInit =>
        notAdded criteria (List.mem_append_left _ inInit)) isOld
    · exact notAdded criteria (List.mem_append_right _ (by simp [isAdded]))

end WatchedDemuxer

/--
After every run a packet goes to at most one sink, which is registered.  If the demuxer uses
media ids, it is dropped if it carries one that no registered criteria name, and goes to the
sink that is registered for the bare media id if there is one.  A sink that was removed gets
no packets until it is added again, and refusing a sink changes nothing.
-/
theorem routes_of_run {σ : Type} [DecidableEq σ] (useMid : Bool) (calls : List (DemuxCall σ))
    (last : WatchedDemuxer σ) (run : (routePackets σ).Run { demuxer := { useMid } } calls last)
    (packet : DemuxPacket) :
    (∀ sink ∈ (last.demuxer.resolveSink packet).1, ∃ criteria, (criteria, sink) ∈ last.registered) ∧
    (useMid = true →
      (∀ mid, packet.mid = some mid → (∀ entry ∈ last.registered, entry.1.mid ≠ mid) →
        (last.demuxer.resolveSink packet).1 = none) ∧
      ∀ mid criteria sink, packet.mid = some mid → (criteria, sink) ∈ last.registered →
        criteria.BareMid mid → (last.demuxer.resolveSink packet).1 = some sink) ∧
    (∀ earlier sink later, calls = earlier ++ .removeSink sink :: later →
      (∀ criteria, .addSink criteria sink ∉ later) →
      (last.demuxer.resolveSink packet).1 ≠ some sink) ∧
    ∀ criteria sink, (last.demuxer.addSink criteria sink).1 = false →
      (last.demuxer.addSink criteria sink).2 = last.demuxer := by
  have inStep := WatchedDemuxer.inStep_of_run run
  have registered : ∀ sink ∈ (last.demuxer.resolveSink packet).1,
      ∃ criteria, (criteria, sink) ∈ last.registered := by
    intro sink delivered
    obtain ⟨⟨criteria, _⟩, member, rfl⟩ := List.mem_map.mp (inStep.sinks
      ((RtpDemuxer.learned_resolveSink last.demuxer packet).1 sink delivered))
    exact ⟨criteria, member⟩
  refine ⟨registered, fun uses => ⟨?_, ?_⟩, ?_, ?_⟩
  · intro mid isMid unnamed
    have unknown : mid ∉ last.demuxer.knownMids := by
      intro isKnown
      obtain ⟨-, entry, member, isNamed⟩ := (inStep.known_iff mid).mp isKnown
      exact unnamed entry member isNamed
    rw [RtpDemuxer.resolveSink_unknown (inStep.uses.trans uses) isMid unknown]
  · rintro mid criteria sink isMid member ⟨nonempty, isBare, noRsid⟩
    have isEntry : (mid, sink) ∈ last.demuxer.sinkByMid := by
      rw [inStep.byMid, List.mem_filterMap]
      refine ⟨(criteria, sink), member, ?_⟩
      rw [RtpDemuxerCriteria.bareMid, if_pos ⟨isBare ▸ nonempty, noRsid⟩, isBare]
    refine RtpDemuxer.resolveSink_known (inStep.uses.trans uses) isMid ?_
      (FlatMap.find_of_mem inStep.distinct isEntry)
    rw [inStep.known]
    exact List.mem_append_left _ (List.mem_map_of_mem isEntry)
  · intro earlier sink later split notAdded delivered
    obtain ⟨criteria, member⟩ := registered sink delivered
    exact WatchedDemuxer.not_registered_of_run run split notAdded criteria member
  · intro criteria sink refused
    unfold RtpDemuxer.addSink at refused ⊢
    split_ifs at refused ⊢
    rfl

/-- Sinks for a media id, for a source and for a media id with a stream id, one of which is
removed. -/
def sampleCalls : List (DemuxCall Nat) :=
  [.addSink (.ofNames [65] []) 1, .addSink { ssrcs := [7] } 2, .addSink (.ofNames [66] [1]) 3,
    .onRtpPacket { ssrc := 9, payloadType := 96, mid := some [65] }, .removeSink 2,
    .addSink (.ofNames [65] [1]) 4]

theorem routes_sample : ∃ last, (routePackets Nat).Run {} sampleCalls last ∧
    (last.demuxer.resolveSink { ssrc := 7, payloadType := 0, mid := some [65] }).1 = some 1 := by
  have admitted : (routePackets Nat).Admits {} sampleCalls :=
    Machine.admits_of_forall (fun _ _ _ => trivial) _
  refine ⟨_, admitted.run, ?_⟩
  obtain ⟨_, byMid, _, _⟩ := routes_of_run true _ _ admitted.run
    { ssrc := 7, payloadType := 0, mid := some [65] }
  have member : (RtpDemuxerCriteria.ofNames [65] [], 1) ∈
      ((routePackets Nat).outcome {} sampleCalls).registered := by decide
  exact (byMid rfl).2 [65] _ 1 rfl member ⟨by decide, rfl, rfl⟩

def unusedMidCalls : List (DemuxCall Nat) :=
  [.addSink (.ofNames [65] []) 1, .addSink { ssrcs := [7] } 2]

/-- A demuxer that does not use media ids routes packets with unknown ones, and those with the
media id of a sink to another sink. -/
theorem routes_unusedMid : ∃ last,
    (routePackets Nat).Run { demuxer := { useMid := false } } unusedMidCalls last ∧
    (∀ entry ∈ last.registered, entry.1.mid ≠ [66]) ∧
    (last.demuxer.resolveSink { ssrc := 7, payloadType := 0, mid := some [66] }).1 = some 2 ∧
    (last.demuxer.resolveSink { ssrc := 7, payloadType := 0, mid := some [65] }).1 = some 2 := by
  have admitted : (routePackets Nat).Admits { demuxer := { useMid := false } } unusedMidCalls :=
    Machine.admits_of_forall (fun _ _ _ => trivial) _
  refine ⟨_, admitted.run, ?_⟩
  decide

end MaeRtc.Call
