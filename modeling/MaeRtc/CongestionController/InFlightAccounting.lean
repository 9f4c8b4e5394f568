import MaeRtc.CongestionController.TransportFeedbackAdapter

/-!
# Data in flight

The tracker holds, for every route, the bytes of the packets of the history that were
reported as sent and are not yet covered by an acknowledgement.  Routes are compared as the
tracker's map compares its keys.
-/

namespace MaeRtc.CongestionController

open Base Std Base.OrderedMap

/-! ## Keys -/

/-- One level of a lexicographic comparison. -/
theorem not_before_iff {α : Type*} [DecidableEq α] [LT α] [DecidableLT α]
    [trichotomous : Std.Trichotomous (α := α) (· < ·)]
    {x y : α} {before after : Bool} :
    ((!if x ≠ y then decide (x < y) else before) &&
        !if y ≠ x then decide (y < x) else after) = true ↔
      x = y ∧ (!before && !after) = true := by
  by_cases same : x = y
  · simp [same]
  have ordered : x < y ∨ y < x := by
    by_contra neither
    rw [not_or] at neither
    exact same (trichotomous.trichotomous x y neither.1 neither.2)
  rcases ordered with less | greater
  · simp [same, less]
  · simp [same, Ne.symm same, greater]

/-- The parts of a route that the comparison looks at. -/
theorem sameKey_iff {a b : NetworkRoute} :
    sameKey a b = true ↔
      a.localEnd.networkId = b.localEnd.networkId ∧
      a.remoteEnd.networkId = b.remoteEnd.networkId ∧
      a.localEnd.adapterId = b.localEnd.adapterId ∧
      a.remoteEnd.adapterId = b.remoteEnd.adapterId ∧
      a.localEnd.usesTurn = b.localEnd.usesTurn ∧
      a.remoteEnd.usesTurn = b.remoteEnd.usesTurn ∧ a.connected = b.connected := by
  unfold sameKey networkRouteComparator
  rw [not_before_iff, not_before_iff, not_before_iff, not_before_iff, not_before_iff,
    not_before_iff]
  cases a.connected <;> cases b.connected <;> simp

theorem sameKey_refl (route : NetworkRoute) : sameKey route route = true :=
  sameKey_iff.mpr ⟨rfl, rfl, rfl, rfl, rfl, rfl, rfl⟩

theorem sameKey_comm (a b : NetworkRoute) : sameKey a b = sameKey b a :=
  Bool.and_comm _ _

theorem sameKey_congr {a b : NetworkRoute} (same : sameKey a b = true) (route : NetworkRoute) :
    sameKey a route = sameKey b route := by
  obtain ⟨one, two, three, four, five, six, seven⟩ := sameKey_iff.mp same
  rw [Bool.eq_iff_iff, sameKey_iff, sameKey_iff, one, two, three, four, five, six, seven]

/-! ## The tracker -/

/-- The bytes a packet counts for on a route, once it was sent. -/
def onRoute (route : NetworkRoute) (packet : PacketFeedback) : Nat :=
  if sameKey packet.networkRoute route && packet.sent.sendTime.isFinite then packet.sent.size
  else 0

variable {packet : PacketFeedback}

theorem onRoute_of_infinite (unsent : packet.sent.sendTime.isFinite = false)
    (route : NetworkRoute) : onRoute route packet = 0 := by
  simp [onRoute, unsent]

/-- The tracker holds the given number of bytes for each route. -/
structure Tracks (tracker : InFlightBytesTracker) (bytes : NetworkRoute → Nat) : Prop where
  respects : ∀ a b, sameKey a b = true → tracker.inFlightData a = tracker.inFlightData b
  holds : ∀ route, tracker.getOutstandingData route = bytes route

namespace Tracks

variable {tracker : InFlightBytesTracker} {bytes : NetworkRoute → Nat} {packet : PacketFeedback}

section

variable (tracks : Tracks tracker bytes)
include tracks

theorem congr {other : NetworkRoute → Nat} (same : ∀ route, bytes route = other route) :
    Tracks tracker other :=
  ⟨tracks.respects, fun route => (tracks.holds route).trans (same route)⟩

/-- The entry of a route is replaced. -/
theorem set (route : NetworkRoute) (entry : Option Nat) :
    Tracks (tracker.set route entry) fun other =>
      if sameKey other route then entry.getD 0 else bytes other where
  respects := by
    intro a b same
    simp only [InFlightBytesTracker.set, sameKey_congr same route, tracks.respects a b same]
  holds := by
    intro other
    simp only [InFlightBytesTracker.getOutstandingData, InFlightBytesTracker.set]
    split
    · rfl
    · exact tracks.holds other

/-- What the tracker holds for the route of a packet, under any name of the route. -/
theorem holds_of_sameKey {route other : NetworkRoute} (same : sameKey other route = true) :
    bytes other = (tracker.inFlightData route).getD 0 := by
  rw [← tracks.respects other route same]
  exact (tracks.holds other).symm

theorem add (sent : packet.sent.sendTime.isFinite = true) :
    Ensures (tracker.addInFlightPacketBytes packet) fun after =>
      Tracks after fun route => bytes route + onRoute route packet := by
  refine (Ensures.check sent).bind fun _ _ => ?_
  have counted : ∀ entry : Nat, entry = (tracker.inFlightData packet.networkRoute).getD 0 +
      packet.sent.size → ∀ other,
      (if sameKey other packet.networkRoute = true then (some entry).getD 0 else bytes other) =
        bytes other + onRoute other packet := by
    rintro _ rfl other
    unfold onRoute
    rw [sameKey_comm packet.networkRoute, sent, Bool.and_true]
    split
    next same => rw [tracks.holds_of_sameKey same, Option.getD_some]
    next => rw [Nat.add_zero]
  split
  next held found =>
    exact .ok ((tracks.set _ _).congr (counted _ (by rw [found, Option.getD_some])))
  next missing =>
    exact .ok ((tracks.set _ _).congr (counted _ (by rw [missing, Option.getD_none, Nat.zero_add])))

end

/-- A packet that is counted can be taken out. -/
theorem remove {rest : NetworkRoute → Nat}
    (tracks : Tracks tracker fun route => rest route + onRoute route packet) :
    Ensures (tracker.removeInFlightPacketBytes packet) fun after => Tracks after rest := by
  unfold InFlightBytesTracker.removeInFlightPacketBytes UnitBase.isInfinite
  by_cases sent : packet.sent.sendTime.isFinite = true
  · rw [sent, Bool.not_true, if_neg (by simp)]
    have counted : ∀ other, sameKey other packet.networkRoute = true →
        rest other + packet.sent.size = (tracker.inFlightData packet.networkRoute).getD 0 := by
      intro other same
      rw [← tracks.holds_of_sameKey same, onRoute, sameKey_comm packet.networkRoute, same, sent]
      rfl
    have uncounted : ∀ other, ¬ sameKey other packet.networkRoute = true →
        rest other + onRoute other packet = rest other := by
      intro other differ
      rw [onRoute, sameKey_comm packet.networkRoute, if_neg (by simp [differ]), Nat.add_zero]
    have own := counted packet.networkRoute (sameKey_refl _)
    split
    next held found =>
      rw [found, Option.getD_some] at own
      refine (Ensures.check (by simpa using by omega)).bind fun _ _ => ?_
      refine .ok ((tracks.set _ _).congr fun other => ?_)
      split
      next same =>
        have total := counted other same
        rw [found, Option.getD_some] at total
        split_ifs <;> simp only [Option.getD_some, Option.getD_none] <;> omega
      next differ => exact uncounted other differ
    next missing =>
      rw [missing, Option.getD_none] at own
      refine .ok (tracks.congr fun other => ?_)
      by_cases same : sameKey other packet.networkRoute = true
      · have nothing : onRoute other packet ≤ packet.sent.size := by
          unfold onRoute
          split <;> omega
        omega
      · exact uncounted other same
  · rw [Bool.not_eq_true] at sent
    rw [sent, Bool.not_false, if_pos rfl]
    exact .ok (tracks.congr fun route => by rw [onRoute_of_infinite sent, Nat.add_zero])

/-- Packets are taken out one after the other. -/
theorem removeAll {rest : NetworkRoute → Nat} (entries : List (Int × PacketFeedback))
    (tracks : Tracks tracker fun route =>
      rest route + (entries.map fun entry => onRoute route entry.2).sum) :
    Ensures (entries.foldlM
        (fun inFlight entry => inFlight.removeInFlightPacketBytes entry.2) tracker)
      fun after => Tracks after rest := by
  induction entries generalizing tracker with
  | nil => exact .ok (tracks.congr fun route => by simp)
  | cons entry others ih =>
    have first : Tracks tracker fun route =>
        (rest route + (others.map fun entry => onRoute route entry.2).sum) +
          onRoute route entry.2 := by
      refine tracks.congr fun route => ?_
      rw [List.map_cons, List.sum_cons]
      omega
    exact first.remove.bind fun after removed => ih removed

end Tracks

/-! ## The history -/

/-- The bytes a packet of the history counts for on a route. -/
def unacknowledged (lastAckSeqNum : Int) (route : NetworkRoute) (packet : PacketFeedback) : Nat :=
  if lastAckSeqNum < packet.sent.sequenceNumber then onRoute route packet else 0

/-- A sum is split along a part of the list. -/
theorem sum_map_split {α : Type*} (items : List α) {whole rest part : α → Nat} {wanted : α → Bool}
    (split : ∀ item ∈ items, whole item = rest item + if wanted item then part item else 0) :
    (items.map whole).sum = (items.map rest).sum + ((items.filter wanted).map part).sum := by
  induction items with
  | nil => rfl
  | cons item others ih =>
    have later := ih fun other member => split other (List.mem_cons_of_mem _ member)
    have here := split item List.mem_cons_self
    rw [List.filter_cons]
    split at here
    next isWanted =>
      rw [if_pos isWanted]
      simp only [List.map_cons, List.sum_cons]
      omega
    next unwanted =>
      rw [if_neg unwanted]
      simp only [List.map_cons, List.sum_cons]
      omega

namespace TransportFeedbackAdapter

structure Accounts (adapter : TransportFeedbackAdapter) : Prop where
  keys : ∀ (key : Int) (packet : PacketFeedback), adapter.history[key]? = some packet →
    packet.sent.sequenceNumber = key
  tracks : Tracks adapter.inFlight fun route =>
    total (unacknowledged adapter.lastAckSeqNum route) adapter.history

variable {adapter : TransportFeedbackAdapter}

theorem accounts_new : Accounts {} where
  keys := by simp
  tracks := ⟨fun _ _ _ => rfl, fun _ => rfl⟩

variable {key : Int}

/-- Erasing an entry takes its bytes out of the sum. -/
theorem total_erase (weight : PacketFeedback → Nat) {history : ExtTreeMap Int PacketFeedback}
    (found : history[key]? = some packet) :
    total weight history = total weight (history.erase key) + weight packet := by
  have differ := @total_update _ _ _ _ _ _ weight history (history.erase key) key
    fun other differs => by simp [weightAt, lookup_erase, Ne.symm differs]
  have here : weightAt weight history key = weight packet := by simp [weightAt, found]
  have gone : weightAt weight (history.erase key) key = 0 := by simp [weightAt]
  omega

section

variable (accounts : adapter.Accounts)
include accounts

theorem Accounts.keys_erase {erased : Int}
    (found : (adapter.history.erase erased)[key]? = some packet) :
    packet.sent.sequenceNumber = key := by
  rw [lookup_erase] at found
  split at found
  · cases found
  · exact accounts.keys key packet found

/-- A packet that expires is taken out of the tracker if it is still counted. -/
theorem Accounts.expire (found : adapter.history[key]? = some packet) :
    Ensures (adapter.removeExpired packet) fun inFlight =>
      Accounts { adapter with inFlight, history := adapter.history.erase key } := by
  have tracks := accounts.tracks.congr fun route =>
    total_erase (unacknowledged adapter.lastAckSeqNum route) found
  unfold unacknowledged at tracks
  unfold removeExpired
  split
  next counted =>
    simp only [if_pos counted] at tracks
    exact tracks.remove.weaken fun inFlight removed =>
      ⟨fun _ _ => accounts.keys_erase, removed⟩
  next acknowledged =>
    simp only [if_neg acknowledged] at tracks
    exact .ok ⟨fun _ _ => accounts.keys_erase, tracks⟩

theorem Accounts.eraseExpired (creationTime : Timestamp) {entries : List (Int × PacketFeedback)}
    (ordered : entries.Pairwise fun one two => one.1 < two.1)
    (found : ∀ entry ∈ entries, adapter.history[entry.1]? = some entry.2) :
    Ensures (eraseExpired creationTime entries adapter) Accounts := by
  induction entries generalizing adapter with
  | nil => exact .ok accounts
  | cons entry others ih =>
    obtain ⟨key, packet⟩ := entry
    obtain ⟨first, orderedOthers⟩ := List.pairwise_cons.mp ordered
    rw [TransportFeedbackAdapter.eraseExpired]
    split
    · refine (accounts.expire (found _ List.mem_cons_self)).bind fun inFlight expired => ?_
      refine ih expired orderedOthers fun other member => ?_
      have differs : key ≠ other.1 := (first other member).ne
      rw [lookup_erase, if_neg differs]
      exact found other (List.mem_cons_of_mem _ member)
    · exact .ok accounts

/-- A packet that was not sent yet adds nothing. -/
theorem Accounts.addPacket (packetInfo : RtpPacketSendInfo) (overheadBytes : Nat)
    (creationTime : Timestamp) :
    Ensures (adapter.addPacket packetInfo overheadBytes creationTime) Accounts := by
  have unwrapped : Accounts { adapter with
      seqNumUnwrapper := (adapter.seqNumUnwrapper.unwrap 0
        packetInfo.transportSequenceNumber).2 } := ⟨accounts.keys, accounts.tracks⟩
  refine (unwrapped.eraseExpired creationTime (toList_pairwise_lt adapter.history)
    fun entry member => ExtTreeMap.mem_toList_iff_getElem?_eq_some.mp member).bind ?_
  intro expired holds
  refine .ok ⟨fun other packet found => ?_, holds.tracks.congr fun route => total_congr ?_⟩
  · rw [lookup_insertIfNew] at found
    split at found
    next new =>
      cases found
      exact new.1
    next => exact holds.keys other packet found
  · intro other
    unfold weightAt
    rw [lookup_insertIfNew]
    split
    next new =>
      rw [← new.1, new.2]
      simp [unacknowledged, onRoute, UnitBase.isFinite]
    next => rfl

end

/-- A packet of the history is marked as sent. -/
structure MarkedSent (packet marked : PacketFeedback) : Prop where
  number : marked.sent.sequenceNumber = packet.sent.sequenceNumber
  size : marked.sent.size = packet.sent.size
  route : marked.networkRoute = packet.networkRoute
  sent : marked.sent.sendTime.isFinite = true

theorem Accounts.keys_insert (accounts : adapter.Accounts) {marked : PacketFeedback}
    (found : adapter.history[key]? = some packet) (isMarked : MarkedSent packet marked)
    {other : Int} {entry : PacketFeedback}
    (stored : (adapter.history.insert key marked)[other]? = some entry) :
    entry.sent.sequenceNumber = other := by
  rw [lookup_insert] at stored
  split at stored
  next here =>
    cases stored
    rw [isMarked.number, accounts.keys key packet found, here]
  next => exact accounts.keys other entry stored

/-- What a marked packet counts for replaces what it counted for before. -/
theorem total_markSent {history : ExtTreeMap Int PacketFeedback} {marked : PacketFeedback}
    (found : history[key]? = some packet) (weight : PacketFeedback → Nat) :
    total weight (history.insert key marked) + weight packet =
      total weight history + weight marked := by
  have change := total_insert weight history key marked
  have before : weightAt weight history key = weight packet := by simp [weightAt, found]
  rwa [before] at change

section

variable {key : Int} {packet marked : PacketFeedback} (accounts : adapter.Accounts)
  (found : adapter.history[key]? = some packet) (isMarked : MarkedSent packet marked)
include accounts found isMarked

/-- Sending a packet again changes nothing. -/
theorem Accounts.resend (sent : packet.sent.sendTime.isFinite = true) :
    Accounts { adapter with history := adapter.history.insert key marked } where
  keys := fun _ _ => accounts.keys_insert found isMarked
  tracks := by
    refine accounts.tracks.congr fun route => ?_
    have change := @total_markSent _ _ _ marked found
      (unacknowledged adapter.lastAckSeqNum route)
    have same : unacknowledged adapter.lastAckSeqNum route marked =
        unacknowledged adapter.lastAckSeqNum route packet := by
      rw [unacknowledged, onRoute, isMarked.number, isMarked.size, isMarked.route, isMarked.sent,
        unacknowledged, onRoute, sent]
    dsimp only
    omega

/-- A packet that is sent for the first time enters the tracker. -/
theorem Accounts.send (unsent : packet.sent.sendTime.isFinite = false) :
    Ensures (adapter.addSent marked) fun inFlight => ∀ final, MarkedSent marked final →
      Accounts { adapter with inFlight, history := adapter.history.insert key final } := by
  have change : ∀ final route, MarkedSent marked final →
      total (unacknowledged adapter.lastAckSeqNum route) adapter.history +
          unacknowledged adapter.lastAckSeqNum route marked =
        total (unacknowledged adapter.lastAckSeqNum route) (adapter.history.insert key final) := by
    intro final route again
    have inserted := @total_markSent _ _ _ final found
      (unacknowledged adapter.lastAckSeqNum route)
    have before : unacknowledged adapter.lastAckSeqNum route packet = 0 := by
      simp [unacknowledged, onRoute_of_infinite unsent]
    have same : unacknowledged adapter.lastAckSeqNum route final =
        unacknowledged adapter.lastAckSeqNum route marked := by
      rw [unacknowledged, onRoute, again.number, again.size, again.route, again.sent,
        unacknowledged, onRoute, isMarked.sent]
    omega
  have keys : ∀ final, MarkedSent marked final → ∀ (other : Int) (entry : PacketFeedback),
      (adapter.history.insert key final)[other]? = some entry →
        entry.sent.sequenceNumber = other := by
    intro final again other entry
    exact accounts.keys_insert found ⟨again.number.trans isMarked.number,
      again.size.trans isMarked.size, again.route.trans isMarked.route, again.sent⟩
  unfold addSent
  split
  next counted =>
    refine (accounts.tracks.add isMarked.sent).weaken fun inFlight added final again => ?_
    refine ⟨keys final again, added.congr fun route => ?_⟩
    rw [← change final route again, unacknowledged, if_pos counted]
  next acknowledged =>
    refine .ok fun final again => ⟨keys final again, accounts.tracks.congr fun route => ?_⟩
    have total := change final route again
    rw [unacknowledged, if_neg acknowledged, Nat.add_zero] at total
    exact total

end

section

variable (accounts : adapter.Accounts)
include accounts

theorem Accounts.processSentPacket (sentPacket : SentNotification) :
    Ensures (adapter.processSentPacket sentPacket) fun result => result.2.Accounts := by
  unfold TransportFeedbackAdapter.processSentPacket
  dsimp only
  have unwrapped : ∀ seqNumUnwrapper, Accounts { adapter with seqNumUnwrapper } :=
    fun _ => ⟨accounts.keys, accounts.tracks⟩
  split
  · split
    next packet found =>
      have marked : ∀ priorUnackedData dataInFlight, MarkedSent packet { packet with
          sent := { packet.sent with
            sendTime := .finite (sentPacket.sendTimeMs * 1000)
            priorUnackedData, dataInFlight } } := fun _ _ => ⟨rfl, rfl, rfl, rfl⟩
      have prepared : ∀ seqNumUnwrapper lastSendTime, Accounts { adapter with
          seqNumUnwrapper, lastSendTime, pendingUntrackedSize := 0 } :=
        fun _ _ => ⟨accounts.keys, accounts.tracks⟩
      unfold TransportFeedbackAdapter.markSent
      dsimp only
      split
      next resent => exact .ok ((prepared _ _).resend found (marked _ _) resent)
      next first =>
        refine ((prepared _ _).send found (marked _ _) (by simpa using first)).bind ?_
        exact fun inFlight sent => .ok (sent _ ⟨rfl, rfl, rfl, rfl⟩)
    next => exact .ok (unwrapped _)
  · split
    · exact .ok ⟨accounts.keys, accounts.tracks⟩
    · exact .ok accounts

/-- An acknowledgement takes out the packets it passes. -/
theorem Accounts.acknowledge (seqNum : Int) :
    Ensures (adapter.acknowledge seqNum) fun after =>
      after.Accounts ∧ seqNum ≤ after.lastAckSeqNum := by
  unfold TransportFeedbackAdapter.acknowledge
  split
  next newer =>
    have split : ∀ route, total (unacknowledged adapter.lastAckSeqNum route) adapter.history =
        total (unacknowledged seqNum route) adapter.history +
          ((adapter.history.toList.filter fun entry =>
            decide (adapter.lastAckSeqNum < entry.1 ∧ entry.1 ≤ seqNum)).map
              fun entry => onRoute route entry.2).sum := by
      intro route
      refine sum_map_split _ fun entry member => ?_
      have number := accounts.keys entry.1 entry.2
        (ExtTreeMap.mem_toList_iff_getElem?_eq_some.mp member)
      unfold unacknowledged
      simp only [decide_eq_true_eq]
      split_ifs <;> omega
    refine (accounts.tracks.congr split).removeAll.bind fun inFlight removed => .ok ?_
    exact ⟨⟨accounts.keys, removed⟩, le_rfl⟩
  next older => exact .ok ⟨accounts, by omega⟩

theorem Accounts.processPacket (sequenceNumber : SeqNum) (deltaSinceBase : Option Int) :
    Ensures (adapter.processPacket sequenceNumber deltaSinceBase) fun result =>
      result.2.Accounts := by
  unfold TransportFeedbackAdapter.processPacket
  dsimp only
  have unwrapped : ∀ seqNumUnwrapper, Accounts { adapter with seqNumUnwrapper } :=
    fun _ => ⟨accounts.keys, accounts.tracks⟩
  refine ((unwrapped _).acknowledge _).bind ?_
  rintro after ⟨holds, covered⟩
  split
  · exact .ok holds
  next packet found =>
    split
    · exact .ok holds
    -- an acknowledged packet does not count any more, so erasing it changes no sum
    have erased : Accounts { after with
        history := after.history.erase
          (adapter.seqNumUnwrapper.unwrap 0 sequenceNumber).1 } := by
      refine ⟨fun _ _ => holds.keys_erase, holds.tracks.congr fun route => ?_⟩
      have number := holds.keys _ packet found
      rw [total_erase _ found, unacknowledged, if_neg (by omega)]
      rfl
    cases deltaSinceBase with
    | none =>
      split
      · exact .ok holds
      · exact .ok holds
    | some delta =>
      split
      · exact .ok erased
      · exact .ok erased

theorem Accounts.processPackets (calls : List (SeqNum × Option Int)) (results : List PacketResult) :
    Ensures (processPackets calls results adapter) fun result => result.2.Accounts := by
  induction calls generalizing adapter results with
  | nil => exact .ok accounts
  | cons call others ih =>
    obtain ⟨sequenceNumber, deltaSinceBase⟩ := call
    exact (accounts.processPacket sequenceNumber deltaSinceBase).bind
      fun result holds => ih holds _

theorem Accounts.processTransportFeedback (feedback : Rtcp.TransportFeedback)
    (feedbackReceiveTime : Timestamp) :
    Ensures (adapter.processTransportFeedback feedback feedbackReceiveTime) fun result =>
      result.2.Accounts := by
  have moved : (adapter.updateOffset feedback feedbackReceiveTime).Accounts :=
    ⟨accounts.keys, accounts.tracks⟩
  unfold TransportFeedbackAdapter.processTransportFeedback
  split
  · exact .ok accounts
  · refine (moved.processPackets _ []).bind fun result holds => ?_
    dsimp only
    split
    · exact .ok holds
    · exact .ok holds

theorem Accounts.step (call : AdapterCall) : Ensures (adapter.step call) Accounts := by
  cases call with
  | addPacket packetInfo overheadBytes creationTime =>
    exact accounts.addPacket packetInfo overheadBytes creationTime
  | processSentPacket sentPacket => exact (accounts.processSentPacket sentPacket).map
  | setNetworkRoute route => exact .ok ⟨accounts.keys, accounts.tracks⟩
  | processTransportFeedback feedback feedbackReceiveTime =>
    exact (accounts.processTransportFeedback feedback feedbackReceiveTime).map

end

/-- The bytes of the packets of the history that satisfy a condition. -/
def bytesOf (wanted : PacketFeedback → Bool) (history : ExtTreeMap Int PacketFeedback) : Nat :=
  total (fun packet => if wanted packet then packet.sent.size else 0) history

/--
In every run, no assertion of the tracker fails, and for every route the outstanding data
is the sum of the sizes of the packets in the history that are on this route, were
reported as sent and have a number above the last acknowledged one.  Routes count as the
same if the tracker's map does not distinguish them.
-/
theorem run_outstandingData (calls : List AdapterCall) :
    Ensures (run calls) fun adapter => ∀ route,
      adapter.inFlight.getOutstandingData route =
        bytesOf (fun packet => sameKey packet.networkRoute route && packet.sent.sendTime.isFinite &&
          decide (packet.sent.sequenceNumber > adapter.lastAckSeqNum)) adapter.history := by
  have accounted : Ensures (run calls) Accounts :=
    .foldlM (fun _ call accounts => accounts.step call) accounts_new calls
  refine accounted.weaken fun adapter accounts route => ?_
  rw [accounts.tracks.holds route, bytesOf]
  congr 1
  funext packet
  unfold unacknowledged onRoute
  by_cases newer : packet.sent.sequenceNumber > adapter.lastAckSeqNum
  · rw [if_pos newer, decide_eq_true newer, Bool.and_true]
  · rw [if_neg newer, decide_eq_false newer, Bool.and_false, if_neg (by simp)]

/-- A packet is sent, then the overhead of the route is set. -/
def overheadChange : List AdapterCall :=
  [.addPacket { transportSequenceNumber := 1, length := 100 } 0 (.finite 0),
    .processSentPacket { packetId := 1, sendTimeMs := 0 },
    .setNetworkRoute { packetOverhead := 28 }]

/--
The map does not look at the overhead of a route, so the data of the earlier route is
reported for the new one, on which no packet was sent.
-/
theorem outstandingData_overheadChange :
    Ensures (run overheadChange) fun adapter =>
      adapter.getOutstandingData = 100 ∧
      bytesOf (fun packet => decide (packet.networkRoute = adapter.networkRoute) &&
        packet.sent.sendTime.isFinite &&
        decide (packet.sent.sequenceNumber > adapter.lastAckSeqNum)) adapter.history = 0 := by
  refine ⟨_, rfl, ?_⟩
  decide +kernel

end TransportFeedbackAdapter

end MaeRtc.CongestionController
