import MaeRtc.Base.EvenShares
import MaeRtc.Call.AllocationBounds

/-!
# How much an even distribution gives away

The tracks are visited once, in the order of their maximal rates.  What a track
cannot take is carried over to the tracks behind it, never to those before it.
So the order of the maximal rates alone does not make the distribution complete:
it depends on the room the tracks have left.
-/

namespace MaeRtc.Call

open MaeRtc.Base AllocatableTrack

variable {Observer : Type*}

def headroom (factor : Nat) (allocation : Allocation Observer)
    (track : AllocatableTrack Observer) : Nat :=
  (limit factor track - allocation track.observer).toNat

/-- The room of the participants in the order in which they are visited. -/
def roomsInOrder (tracks : List (AllocatableTrack Observer)) (includeZero : Bool)
    (factor : Nat) (allocation : Allocation Observer) : List Nat :=
  (listMaxBitrates tracks includeZero allocation).map (headroom factor allocation)

/-- A track that is not above its limit, and for which no unsigned sum wraps. -/
def NoWrap (factor bitrate : Nat) (allocation : Allocation Observer)
    (track : AllocatableTrack Observer) : Prop :=
  0 ≤ allocation track.observer ∧ allocation track.observer ≤ limit factor track ∧
    limit factor track < 2 ^ 32 ∧ allocation track.observer + bitrate < 2 ^ 32

/-- The tracks end with rates that fit in an `int`. -/
def SharesFit (before : Allocation Observer) (items : List (AllocatableTrack Observer))
    (given : List Nat) : Prop :=
  List.Forall₂ (fun track (share : Nat) => before track.observer + share < 2 ^ 31) items given

structure Visited (factor : Nat) (before after : Allocation Observer)
    (track : AllocatableTrack Observer) (share : Nat) : Prop where
  stored : after track.observer = int32 (before track.observer + share)
  within : before track.observer + share ≤ limit factor track

/-- No track loses, and none is raised above its limit. -/
def KeepsWithin (tracks : List (AllocatableTrack Observer)) (factor : Nat)
    (before after : Allocation Observer) : Prop :=
  ∀ track ∈ tracks, before track.observer ≤ after track.observer ∧
    after track.observer ≤ limit factor track

def increase (tracks : List (AllocatableTrack Observer)) (before after : Allocation Observer) :
    Int :=
  keyedSum (tracks.map observer) after - keyedSum (tracks.map observer) before

section Visits

variable {factor : Nat} {items : List (AllocatableTrack Observer)} {given : List Nat}
  {before after : Allocation Observer}

variable (visited : List.Forall₂ (Visited factor before after) items given)
include visited

/-- A rate that does not fit becomes negative. -/
theorem sharesFit_of_kept
    (kept : ∀ track ∈ items, 0 ≤ after track.observer ∧ limit factor track < 2 ^ 32 ∧
      0 ≤ before track.observer) :
    SharesFit before items given := by
  refine List.Forall₂.imp ?_ ((List.forall₂_and_left _ _).mpr ⟨kept, visited⟩)
  rintro track share ⟨⟨keptHere, limitedHere, nonnegHere⟩, stored, within⟩
  rw [stored, int32, Int.bmod_def] at keptHere
  split_ifs at keptHere <;> omega

variable (fit : SharesFit before items given) (nonneg : ∀ track ∈ items, 0 ≤ before track.observer)
include fit nonneg

/-- Rates that fit are kept, and so is their sum. -/
theorem keyedSum_of_visited :
    keyedSum (items.map observer) after = keyedSum (items.map observer) before + given.sum := by
  induction visited with
  | nil => rfl
  | @cons track share rest shares one _ ih =>
    obtain ⟨below, restFit⟩ := List.forall₂_cons.mp fit
    have trackNonneg := nonneg track List.mem_cons_self
    have later := ih restFit fun other member => nonneg other (List.mem_cons_of_mem track member)
    have kept := one.stored
    rw [Words.int32_of_small (by omega) below] at kept
    rw [List.map_cons, keyedSum_cons, keyedSum_cons, List.sum_cons, kept, later]
    push_cast
    ring

theorem keeps_of_visited : KeepsWithin items factor before after := by
  induction visited with
  | nil => exact fun _ member => absurd member List.not_mem_nil
  | @cons track share rest shares one _ ih =>
    obtain ⟨below, restFit⟩ := List.forall₂_cons.mp fit
    have trackNonneg := nonneg track List.mem_cons_self
    intro other member
    rcases List.mem_cons.mp member with rfl | restMember
    · have within := one.within
      rw [one.stored, Words.int32_of_small (by omega) below]
      omega
    · exact ih restFit (fun other member => nonneg other (List.mem_cons_of_mem track member)) other
        restMember

end Visits

variable [DecidableEq Observer]

section Rounds

variable {factor : Nat} {track : AllocatableTrack Observer}
  {rest items : List (AllocatableTrack Observer)} (rounds : EvenRounds Observer)

theorem evenRound_of_noWrap (fits : NoWrap factor rounds.bitrate rounds.allocation track)
    (others : Nat) :
    let share := min (headroom factor rounds.allocation track)
      (rounds.bitrate / (others + 1))
    evenRound factor track others rounds =
      ⟨rounds.bitrate - share,
        store rounds.allocation track.observer (rounds.allocation track.observer + share),
        rounds.asserted && decide (rounds.bitrate > 0)⟩ := by
  obtain ⟨nonneg, within, limited, small⟩ := fits
  have shareEq : roundShare factor track others rounds =
      (min (headroom factor rounds.allocation track) (rounds.bitrate / (others + 1)) : Nat) := by
    rw [roundShare, headroom, Nat.cast_min, Int.toNat_of_nonneg (by omega)]
  rw [evenRound_eq limited nonneg small, shareEq]
  refine congrArg (EvenRounds.mk · _ _) ?_
  omega

theorem noWrap_behind (absent : track.observer ∉ rest.map observer) (rate : Int) {left : Nat}
    (less : left ≤ rounds.bitrate)
    (fits : ∀ other ∈ rest, NoWrap factor rounds.bitrate rounds.allocation other) :
    ∀ other ∈ rest, NoWrap factor left (store rounds.allocation track.observer rate)
      other := by
  intro other member
  have otherFits := fits other member
  unfold NoWrap at otherFits ⊢
  rw [store, update_behind absent _ _ other member]
  omega

variable (nodup : (items.map observer).Nodup)
  (fits : ∀ track ∈ items, NoWrap factor rounds.bitrate rounds.allocation track)
include nodup fits

theorem asserted_distributeEvenlyLoop (positive : 0 < rounds.bitrate) :
    (distributeEvenlyLoop factor items rounds).asserted = rounds.asserted := by
  induction items generalizing rounds with
  | nil => rfl
  | cons track rest ih =>
    obtain ⟨absent, restNodup⟩ := List.nodup_cons.mp nodup
    have round := evenRound_of_noWrap rounds (fits track List.mem_cons_self) rest.length
    rw [decide_eq_true positive, Bool.and_true] at round
    rw [distributeEvenlyLoop, round]
    cases rest with
    | nil => rfl
    | cons second others =>
      refine ih _ restNodup ?_ (passed_pos positive _ (Nat.succ_pos _))
      exact noWrap_behind rounds absent _ (Nat.sub_le _ _)
        fun other member => fits other (List.mem_cons_of_mem track member)

theorem distributeEvenlyLoop_visits :
    List.Forall₂
      (Visited factor rounds.allocation
        (distributeEvenlyLoop factor items rounds).allocation) items
      (shares (items.map (headroom factor rounds.allocation)) rounds.bitrate) := by
  induction items generalizing rounds with
  | nil => exact .nil
  | cons track rest ih =>
    obtain ⟨absent, restNodup⟩ := List.nodup_cons.mp nodup
    have trackFits := fits track List.mem_cons_self
    have round := evenRound_of_noWrap rounds trackFits rest.length
    rw [List.map_cons, shares, List.length_map, distributeEvenlyLoop, round]
    let share := min (headroom factor rounds.allocation track)
      (rounds.bitrate / (rest.length + 1))
    let next : EvenRounds Observer := ⟨rounds.bitrate - share,
      store rounds.allocation track.observer (rounds.allocation track.observer + share),
      rounds.asserted && decide (rounds.bitrate > 0)⟩
    have unvisited : ∀ other ∈ rest, next.allocation other.observer =
        rounds.allocation other.observer := update_behind absent _ _
    have later := ih next restNodup
      (noWrap_behind rounds absent _ (Nat.sub_le _ _)
        fun other member => fits other (List.mem_cons_of_mem track member))
    have rooms : rest.map (headroom factor next.allocation) =
        rest.map (headroom factor rounds.allocation) :=
      List.map_congr_left fun other member => by rw [headroom, headroom, unvisited other member]
    refine .cons ⟨?_, ?_⟩ ?_
    · rw [distributeEvenlyLoop_of_notMem _ absent]
      exact Function.update_self _ _ _
    · have room : share ≤ headroom factor rounds.allocation track := min_le_left _ _
      have := trackFits.2.1
      unfold headroom at room
      omega
    · rw [← rooms]
      refine ((List.forall₂_and_left _ _).mpr ⟨unvisited, later⟩).imp ?_
      rintro other given ⟨same, stored, within⟩
      rw [same] at stored within
      exact ⟨stored, within⟩

end Rounds

/-! ## When everything is given away -/

section Distribution

variable {tracks : List (AllocatableTrack Observer)} {includeZero : Bool}
  {factor bitrate : Nat} {allocation : Allocation Observer}

omit [DecidableEq Observer] in
theorem eq_zero_of_not_participant {track : AllocatableTrack Observer} (member : track ∈ tracks)
    (outside : track ∉ participants tracks includeZero allocation) :
    allocation track.observer = 0 := by
  by_contra nonzero
  exact outside (List.mem_filter.mpr ⟨member, by simp [nonzero]⟩)

/--
Every distribution keeps its assertion.  It keeps the bounds of the tracks and gives the
participants all of the bitrate that they have room for exactly if no track that is left
unfilled passes on more than the tracks behind it have room for, and no track ends with a
rate that does not fit in an `int`.
-/
theorem distributeBitrateEvenly_complete_iff (distinct : (tracks.map observer).Nodup)
    (positive : 0 < bitrate)
    (fits : ∀ track ∈ participants tracks includeZero allocation,
      NoWrap factor bitrate allocation track) :
    let rounds := distributeBitrateEvenly tracks bitrate includeZero factor
      allocation
    let rooms := roomsInOrder tracks includeZero factor allocation
    rounds.asserted = true ∧
    (KeepsWithin tracks factor allocation rounds.allocation ∧
        increase (participants tracks includeZero allocation) allocation
          rounds.allocation = min bitrate rooms.sum ↔
      NothingLost rooms bitrate ∧
        SharesFit allocation (listMaxBitrates tracks includeZero allocation)
          (shares rooms bitrate)) := by
  intro rounds rooms
  have perm := listMaxBitrates_perm tracks includeZero allocation
  have nodup := nodup_listMaxBitrates distinct includeZero allocation
  have orderFits : ∀ track ∈ listMaxBitrates tracks includeZero allocation,
      NoWrap factor bitrate allocation track :=
    fun track member => fits track (perm.mem_iff.mp member)
  have nonneg := fun track member => (orderFits track member).1
  have visited := distributeEvenlyLoop_visits ⟨bitrate, allocation, true⟩ nodup
    orderFits
  have totals (fit : SharesFit allocation
      (listMaxBitrates tracks includeZero allocation) (shares rooms bitrate)) :
      increase (participants tracks includeZero allocation) allocation
        rounds.allocation = (shares rooms bitrate).sum := by
    have sums (table : Allocation Observer) :=
      ((perm.map observer).map table).sum_eq
    have total := keyedSum_of_visited visited fit nonneg
    unfold keyedSum at total
    rw [sums, sums] at total
    unfold increase keyedSum
    exact sub_eq_of_eq_add' total
  refine ⟨asserted_distributeEvenlyLoop ⟨bitrate, allocation, true⟩ nodup orderFits
    positive, ?_, ?_⟩
  · rintro ⟨keeps, total⟩
    have fit := sharesFit_of_kept visited fun track member =>
      ⟨(nonneg track member).trans
        (keeps track (List.mem_filter.mp (perm.mem_iff.mp member)).1).1,
        (orderFits track member).2.2.1, nonneg track member⟩
    rw [totals fit] at total
    exact ⟨(sum_shares_eq_iff _ _).mp (by exact_mod_cast total), fit⟩
  · rintro ⟨nothingLost, fit⟩
    have kept := keeps_of_visited visited fit nonneg
    refine ⟨?_, ?_⟩
    · intro track member
      by_cases inside : track ∈ participants tracks includeZero allocation
      · exact kept track (perm.mem_iff.mpr inside)
      · have zero := eq_zero_of_not_participant member inside
        have absent : track.observer ∉
            (listMaxBitrates tracks includeZero allocation).map observer := by
          intro visits
          obtain ⟨other, otherMember, same⟩ := List.mem_map.mp visits
          have otherInside := perm.mem_iff.mp otherMember
          obtain rfl := List.inj_on_of_nodup_map distinct (List.mem_filter.mp otherInside).1
            member same
          exact inside otherInside
        have unchanged : rounds.allocation track.observer = allocation track.observer :=
          distributeEvenlyLoop_of_notMem _ absent _
        rw [unchanged, zero]
        exact ⟨le_rfl, limit_nonneg _ _⟩
    · rw [totals fit, (sum_shares_eq_iff _ _).mpr nothingLost]

end Distribution

/-- The tracks of a list with ascending maximal rates are visited in its order. -/
theorem listMaxBitrates_of_ascending {Observer : Type*} {tracks : List (AllocatableTrack Observer)}
    {allocation : Allocation Observer}
    (ascending : tracks.Pairwise fun one two =>
      one.config.maxBitrateBps ≤ two.config.maxBitrateBps) :
    listMaxBitrates tracks true allocation = tracks := by
  have all : participants tracks true allocation = tracks := List.filter_eq_self.mpr fun _ _ => rfl
  rw [listMaxBitrates, all]
  exact List.mergeSort_of_pairwise (ascending.imp fun le => decide_eq_true le)

def twoMaxima : List (AllocatableTrack Nat) :=
  [trackOf 0 10 100 none, trackOf 1 10 200 none]

/-- What the first track holds leaves it much room, and what the second one holds little. -/
def unevenRooms : Allocation Nat :=
  fun observer => if observer = 0 then 10 else 195

/-- A small bitrate is given away although the first track has more room than the second. -/
theorem distributeBitrateEvenly_complete_ten :
    KeepsWithin twoMaxima 1 unevenRooms
        (distributeBitrateEvenly twoMaxima 10 true 1 unevenRooms).allocation ∧
      increase (participants twoMaxima true unevenRooms) unevenRooms
        (distributeBitrateEvenly twoMaxima 10 true 1 unevenRooms).allocation =
        min 10 (roomsInOrder twoMaxima true 1 unevenRooms).sum := by
  have order : listMaxBitrates twoMaxima true unevenRooms = twoMaxima :=
    listMaxBitrates_of_ascending (by decide)
  have fits : ∀ track ∈ participants twoMaxima true unevenRooms,
      NoWrap 1 10 unevenRooms track := by
    unfold NoWrap
    decide
  refine (distributeBitrateEvenly_complete_iff (by decide) (by decide) fits).2.mpr ?_
  unfold roomsInOrder
  rw [order]
  refine ⟨⟨?_, ?_, trivial⟩, .cons ?_ (.cons ?_ .nil)⟩
  all_goals decide

/--
Of a bitrate of 100 the first track takes half, and what the second track leaves of the
other half is not offered to it again: 55 are given away where there is room for 95.
-/
theorem distributeBitrateEvenly_loses :
    (∀ track ∈ participants twoMaxima true unevenRooms, NoWrap 1 100 unevenRooms track) ∧
    increase (participants twoMaxima true unevenRooms) unevenRooms
      (distributeBitrateEvenly twoMaxima 100 true 1 unevenRooms).allocation = 55 ∧
    min 100 (roomsInOrder twoMaxima true 1 unevenRooms).sum = 95 := by
  have order : listMaxBitrates twoMaxima true unevenRooms = twoMaxima :=
    listMaxBitrates_of_ascending (by decide)
  unfold NoWrap distributeBitrateEvenly roomsInOrder
  rw [order]
  decide

end MaeRtc.Call
