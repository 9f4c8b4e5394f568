import MaeRtc.Base.OrderedMap

/-!
# Frame dependencies

`FrameDependenciesCalculator` of `frame_dependencies_calculator.cc` turns the encoder buffers
that a frame uses into the frames it depends on.  A dependency that another one has as well is
left out.
-/

namespace MaeRtc.VideoCoding

open Base OrderedMap

structure CodecBufferUsage where
  id : Int
  referenced : Bool
  updated : Bool
  deriving DecidableEq, Repr

/-- The assertions of `FromBuffersUsage`. -/
inductive BufferViolation where
  | noBuffers
  | negativeId
  deriving DecidableEq, Repr

/-- The frame that a buffer holds, with the frames it depends on. -/
structure BufferUsage where
  frameId : Option Int
  dependencies : List Int
  deriving DecidableEq, Repr

def BufferUsage.empty : BufferUsage := ⟨none, []⟩

structure FrameDependenciesCalculator where
  buffers : List BufferUsage := []
  deriving DecidableEq, Repr

namespace FrameDependenciesCalculator

/-- The vector of buffers is long enough for the buffer. -/
def resize (buffers : List BufferUsage) (usage : CodecBufferUsage) :
    Except BufferViolation (List BufferUsage) := do
  check (0 ≤ usage.id) .negativeId
  .ok (buffers ++ List.replicate (usage.id.toNat + 1 - buffers.length) .empty)

/-- The buffer at an index. -/
def bufferAt (buffers : List BufferUsage) (index : Nat) : BufferUsage :=
  buffers[index]?.getD BufferUsage.empty

/-- The referenced buffers with a frame: its id, and what it depends on.  A buffer that was
never updated is passed over. -/
def referencedFrames (buffers : List BufferUsage) (usages : List CodecBufferUsage) :
    List (Int × List Int) :=
  usages.filterMap fun usage =>
    let buffer := bufferAt buffers usage.id.toNat
    if !usage.referenced then none
    else buffer.frameId.map fun frameId => (frameId, buffer.dependencies)

def update (frameId : Int) (direct : Finset Int) (buffers : List BufferUsage)
    (usages : List CodecBufferUsage) : List BufferUsage :=
  usages.foldl (fun buffers usage =>
    if usage.updated then
      buffers.set usage.id.toNat
        { frameId := some frameId
          dependencies := inOrder direct }
    else buffers) buffers

def fromBuffersUsage (self : FrameDependenciesCalculator) (frameId : Int)
    (buffersUsage : List CodecBufferUsage) :
    Except BufferViolation (List Int × FrameDependenciesCalculator) := do
  check (0 < buffersUsage.length) .noBuffers
  let buffers ← buffersUsage.foldlM resize self.buffers
  let direct := ((referencedFrames buffers buffersUsage).map Prod.fst).toFinset
  let indirect := ((referencedFrames buffers buffersUsage).flatMap Prod.snd).toFinset
  .ok (inOrder (direct \ indirect), { buffers := update frameId direct buffers buffersUsage })

/-! ## The calls of an encoder -/

/-- A call with the id of the frame and the buffers it uses. -/
abbrev Call := Int × List CodecBufferUsage

/-- Every call adds the frame with the dependencies that were returned for it. -/
def call (state : List (Int × List Int) × FrameDependenciesCalculator) (next : Call) :
    Except BufferViolation (List (Int × List Int) × FrameDependenciesCalculator) := do
  let (dependencies, after) ← state.2.fromBuffersUsage next.1 next.2
  .ok (state.1 ++ [(next.1, dependencies)], after)

def run (calls : List Call) :
    Except BufferViolation (List (Int × List Int) × FrameDependenciesCalculator) :=
  calls.foldlM call ([], {})

def Updates (next : Call) (buffer : Nat) : Prop :=
  ∃ usage ∈ next.2, usage.updated = true ∧ usage.id.toNat = buffer

instance decidableUpdates (next : Call) (buffer : Nat) : Decidable (Updates next buffer) :=
  inferInstanceAs (Decidable (∃ usage ∈ next.2, _))

/-- The frame that last updated a buffer. -/
def lastUpdate (calls : List Call) (buffer : Nat) : Option Int :=
  calls.foldl (fun last next => if Updates next buffer then some next.1 else last) none

theorem lastUpdate_snoc (calls : List Call) (next : Call) (buffer : Nat) :
    lastUpdate (calls ++ [next]) buffer =
      if Updates next buffer then some next.1 else lastUpdate calls buffer := by
  rw [lastUpdate, List.foldl_append]
  rfl

/-- One of the dependencies returned for a frame. -/
def Edge (returned : List (Int × List Int)) (frame dependency : Int) : Prop :=
  ∃ dependencies, (frame, dependencies) ∈ returned ∧ dependency ∈ dependencies

theorem Edge.mono {returned : List (Int × List Int)} (more : List (Int × List Int))
    {frame dependency : Int} (edge : Edge returned frame dependency) :
    Edge (returned ++ more) frame dependency := by
  obtain ⟨dependencies, member, inside⟩ := edge
  exact ⟨dependencies, List.mem_append_left more member, inside⟩

theorem reaches_append {returned : List (Int × List Int)} (more : List (Int × List Int))
    {frame dependency : Int} (route : Relation.TransGen (Edge returned) frame dependency) :
    Relation.TransGen (Edge (returned ++ more)) frame dependency :=
  route.lift id fun _ _ edge => edge.mono more

/-- The usages meet the assertions. -/
structure Asserted (usages : List CodecBufferUsage) : Prop where
  nonempty : 0 < usages.length
  nonneg : ∀ usage ∈ usages, 0 ≤ usage.id

/-! ## The parts of a call -/

theorem bufferAt_append_replicate (buffers : List BufferUsage) (count index : Nat) :
    bufferAt (buffers ++ List.replicate count .empty) index = bufferAt buffers index := by
  unfold bufferAt
  rcases lt_or_ge index buffers.length with inside | beyond
  · rw [List.getElem?_append_left inside]
  · rw [List.getElem?_append_right beyond, List.getElem?_eq_none beyond, List.getElem?_replicate]
    split_ifs <;> rfl

variable {usages : List CodecBufferUsage}

theorem resize_ensures (nonneg : ∀ usage ∈ usages, 0 ≤ usage.id) (buffers : List BufferUsage) :
    Ensures (usages.foldlM resize buffers) fun resized =>
      (∀ index, bufferAt resized index = bufferAt buffers index) ∧
        buffers.length ≤ resized.length ∧ ∀ usage ∈ usages, usage.id.toNat < resized.length := by
  induction usages generalizing buffers with
  | nil => exact .ok ⟨fun _ => rfl, le_refl _, by simp⟩
  | cons usage rest ih =>
    obtain ⟨isNonneg, restNonneg⟩ := List.forall_mem_cons.mp nonneg
    have first : resize buffers usage =
        .ok (buffers ++ List.replicate (usage.id.toNat + 1 - buffers.length) .empty) := by
      rw [resize, check, if_pos (decide_eq_true isNonneg)]
      rfl
    rw [List.foldlM_cons, first, ok_bind]
    refine (ih restNonneg _).weaken fun resized reached => ?_
    obtain ⟨same, longer, inside⟩ := reached
    rw [List.length_append, List.length_replicate] at longer
    refine ⟨fun index => (same index).trans (bufferAt_append_replicate _ _ _), by omega, ?_⟩
    exact List.forall_mem_cons.mpr ⟨by omega, inside⟩

theorem mem_referencedFrames {buffers : List BufferUsage} {frame : Int} {dependencies : List Int} :
    (frame, dependencies) ∈ referencedFrames buffers usages ↔
      ∃ usage ∈ usages, usage.referenced = true ∧
        bufferAt buffers usage.id.toNat = ⟨some frame, dependencies⟩ := by
  rw [referencedFrames, List.mem_filterMap]
  refine exists_congr fun usage => and_congr_right fun _ => ?_
  cases bufferAt buffers usage.id.toNat with
  | mk frameId stored => cases frameId <;> cases usage.referenced <;> simp

theorem bufferAt_update {buffers : List BufferUsage}
    (inside : ∀ usage ∈ usages, usage.id.toNat < buffers.length) (frameId : Int)
    (direct : Finset Int) (index : Nat) :
    bufferAt (update frameId direct buffers usages) index =
      if Updates (frameId, usages) index then ⟨some frameId, inOrder direct⟩
      else bufferAt buffers index := by
  induction usages generalizing buffers with
  | nil => simp [update, Updates]
  | cons usage rest ih =>
    obtain ⟨isInside, restInside⟩ := List.forall_mem_cons.mp inside
    have split : Updates (frameId, usage :: rest) index ↔
        usage.updated = true ∧ usage.id.toNat = index ∨ Updates (frameId, rest) index := by
      simp [Updates]
    rw [update, List.foldl_cons]
    cases updated : usage.updated with
    | false =>
      simp only [split, updated, Bool.false_eq_true, false_and, false_or]
      exact ih restInside
    | true =>
      simp only [split, updated, true_and, if_true]
      refine (ih (by simpa using restInside)).trans ?_
      by_cases later : Updates (frameId, rest) index
      · rw [if_pos later, if_pos (.inr later)]
      · rw [if_neg later, bufferAt, List.getElem?_set]
        by_cases same : usage.id.toNat = index
        · rw [if_pos same, if_pos isInside, if_pos (.inl same), Option.getD_some]
        · rw [if_neg same, if_neg (not_or.mpr ⟨same, later⟩), bufferAt]

/-! ## What the calculator knows -/

/--
After the calls, every buffer is known with the frame that last updated it; this frame is older
than `bound`, and reaches its dependencies, older ones, along what was returned.
-/
structure Tracks (calls : List Call) (bound : Int) (returned : List (Int × List Int))
    (calculator : FrameDependenciesCalculator) : Prop where
  known : ∀ index, (bufferAt calculator.buffers index).frameId = lastUpdate calls index
  older : ∀ index, ∀ frame ∈ (bufferAt calculator.buffers index).frameId, frame < bound
  reaches : ∀ index, ∀ frame ∈ (bufferAt calculator.buffers index).frameId,
    ∀ dependency ∈ (bufferAt calculator.buffers index).dependencies,
      dependency < frame ∧ Relation.TransGen (Edge returned) frame dependency

/-- What a call returns: the last updates of the referenced buffers, and routes to all of them. -/
structure Reduced (calls : List Call) (next : Call) (returned : List (Int × List Int))
    (dependencies : List Int) : Prop where
  direct : ∀ dependency ∈ dependencies, ∃ usage ∈ next.2, usage.referenced = true ∧
    lastUpdate calls usage.id.toNat = some dependency
  reachable : ∀ usage ∈ next.2, usage.referenced = true →
    ∀ frame, lastUpdate calls usage.id.toNat = some frame →
      Relation.TransGen (Edge (returned ++ [(next.1, dependencies)])) next.1 frame

/--
A dependency that is left out is one of a later referenced frame: the argument goes down from
the frame of the call, through such frames.
-/
theorem reachable_of_direct {referenced : List (Int × List Int)} {returned : List (Int × List Int)}
    {frame : Int} {dependencies : List Int} (older : ∀ entry ∈ referenced, entry.1 < frame)
    (reaches : ∀ entry ∈ referenced, ∀ dependency ∈ entry.2,
      dependency < entry.1 ∧ Relation.TransGen (Edge returned) entry.1 dependency)
    (kept : ∀ entry ∈ referenced, (∀ other ∈ referenced, entry.1 ∉ other.2) →
      entry.1 ∈ dependencies) {entry : Int × List Int} (member : entry ∈ referenced) :
    Relation.TransGen (Edge (returned ++ [(frame, dependencies)])) frame entry.1 := by
  by_cases isKept : ∀ other ∈ referenced, entry.1 ∉ other.2
  · exact .single ⟨dependencies, by simp, kept entry member isKept⟩
  simp only [not_forall, not_not] at isKept
  obtain ⟨later, laterMember, inside⟩ := isKept
  obtain ⟨isOlder, route⟩ := reaches later laterMember entry.1 inside
  have := older later laterMember
  exact (reachable_of_direct older reaches kept laterMember).trans
    (reaches_append _ route)
termination_by (frame - entry.1).toNat

/-- One call: what it returns, and what is known after it. -/
theorem Tracks.fromBuffersUsage {calls : List Call} {bound : Int} {returned : List (Int × List Int)}
    {self : FrameDependenciesCalculator} (tracks : Tracks calls bound returned self) {frameId : Int}
    (increasing : bound ≤ frameId) (asserted : Asserted usages) :
    Ensures (self.fromBuffersUsage frameId usages) fun result =>
      Reduced calls (frameId, usages) returned result.1 ∧
        Tracks (calls ++ [(frameId, usages)]) (frameId + 1)
          (returned ++ [(frameId, result.1)]) result.2 := by
  refine (Ensures.check (decide_eq_true asserted.nonempty)).bind fun _ _ => ?_
  refine (resize_ensures asserted.nonneg self.buffers).bind fun buffers resized => ?_
  obtain ⟨same, -, inside⟩ := resized
  have known : ∀ index, (bufferAt buffers index).frameId = lastUpdate calls index :=
    fun index => by rw [same, tracks.known]
  have older : ∀ entry ∈ referencedFrames buffers usages, entry.1 < frameId := by
    rintro ⟨frame, stored⟩ member
    obtain ⟨usage, -, -, found⟩ := mem_referencedFrames.mp member
    exact (tracks.older usage.id.toNat frame (by rw [← same, found]; rfl)).trans_le increasing
  have reaches : ∀ entry ∈ referencedFrames buffers usages, ∀ dependency ∈ entry.2,
      dependency < entry.1 ∧ Relation.TransGen (Edge returned) entry.1 dependency := by
    rintro ⟨frame, stored⟩ member dependency inStored
    obtain ⟨usage, -, -, found⟩ := mem_referencedFrames.mp member
    exact tracks.reaches usage.id.toNat frame (by rw [← same, found]; rfl) dependency
      (by rw [← same, found]; exact inStored)
  have routes := @reachable_of_direct _ returned _
    (inOrder (((referencedFrames buffers usages).map Prod.fst).toFinset \
      ((referencedFrames buffers usages).flatMap Prod.snd).toFinset)) older reaches
    (by
      intro entry member unreferenced
      simp only [inOrder, Finset.mem_sort, Finset.mem_sdiff, List.mem_toFinset, List.mem_map,
        List.mem_flatMap, not_exists, not_and]
      exact ⟨⟨entry, member, rfl⟩, unreferenced⟩)
  refine .ok ⟨⟨fun dependency member => ?_, fun usage member referenced frame last => ?_⟩,
    fun index => ?_, fun index frame => ?_, fun index frame => ?_⟩
  · simp only [inOrder, Finset.mem_sort, Finset.mem_sdiff, List.mem_toFinset, List.mem_map]
      at member
    obtain ⟨⟨⟨frame, stored⟩, inFrames, rfl⟩, -⟩ := member
    obtain ⟨usage, used, referenced, found⟩ := mem_referencedFrames.mp inFrames
    exact ⟨usage, used, referenced, by rw [← known, found]⟩
  · refine @routes (frame, (bufferAt buffers usage.id.toNat).dependencies) ?_
    refine mem_referencedFrames.mpr ⟨usage, member, referenced, ?_⟩
    rw [← last, ← known]
  · rw [bufferAt_update inside, lastUpdate_snoc]
    split_ifs
    · rfl
    · exact known index
  · rw [bufferAt_update inside]
    split_ifs with updated
    · rintro ⟨⟩
      omega
    · rw [same]
      intro holds
      have := tracks.older index frame holds
      omega
  · rw [bufferAt_update inside]
    split_ifs with updated
    · rintro ⟨⟩ dependency member
      simp only [inOrder, Finset.mem_sort, List.mem_toFinset, List.mem_map] at member
      obtain ⟨entry, inFrames, rfl⟩ := member
      exact ⟨older entry inFrames, routes inFrames⟩
    · rw [same]
      intro holds dependency member
      obtain ⟨isOlder, route⟩ := tracks.reaches index frame holds dependency member
      exact ⟨isOlder, reaches_append _ route⟩

/-- After any calls with increasing ids, the calculator knows the buffers. -/
theorem run_tracks {calls : List Call} (increasing : (calls.map Prod.fst).Pairwise (· < ·))
    (asserted : ∀ next ∈ calls, Asserted next.2) {bound : Int}
    (before : ∀ next ∈ calls, next.1 < bound) :
    Ensures (run calls) fun state => Tracks calls bound state.1 state.2 := by
  induction calls using List.reverseRecOn generalizing bound with
  | nil =>
    refine .ok ⟨fun _ => rfl, fun _ _ holds => ?_, fun _ _ holds => ?_⟩
    · cases holds
    · cases holds
  | append_singleton calls next ih =>
    rw [List.map_append, List.pairwise_append] at increasing
    obtain ⟨earlier, -, later⟩ := increasing
    have isLater : ∀ other ∈ calls, other.1 < next.1 := fun other member =>
      later other.1 (List.mem_map_of_mem member) next.1 (by simp)
    have bounded : next.1 + 1 ≤ bound := before next (by simp)
    rw [run, List.foldlM_append]
    refine (ih earlier (fun other member => asserted other (by simp [member])) isLater).bind
      fun state tracks => ?_
    obtain ⟨result, called, -, known, older, reaches⟩ :=
      tracks.fromBuffersUsage (le_refl _) (asserted next (by simp))
    refine ⟨(state.1 ++ [(next.1, result.1)], result.2), ?_, known, fun index frame holds =>
      (older index frame holds).trans_le bounded, reaches⟩
    rw [List.foldlM_cons, call, called]
    rfl

/--
In any sequence of calls with increasing ids, the dependencies returned for a frame are frames
that last updated a buffer it references; and every such frame is reached from it along the
dependencies returned for this frame and the earlier ones.
-/
theorem fromBuffersUsage_reduced (calls : List Call) (frameId : Int)
    (usages : List CodecBufferUsage)
    (increasing : ((calls ++ [(frameId, usages)]).map Prod.fst).Pairwise (· < ·))
    (asserted : ∀ next ∈ calls ++ [(frameId, usages)], Asserted next.2) :
    ∃ returned self dependencies after, run calls = .ok (returned, self) ∧
      self.fromBuffersUsage frameId usages = .ok (dependencies, after) ∧
      Reduced calls (frameId, usages) returned dependencies := by
  rw [List.map_append, List.pairwise_append] at increasing
  obtain ⟨earlier, -, later⟩ := increasing
  obtain ⟨⟨returned, self⟩, ran, tracks⟩ := run_tracks earlier
    (fun next member => asserted next (by simp [member]))
    (fun next member => later next.1 (List.mem_map_of_mem member) frameId (by simp))
  obtain ⟨⟨dependencies, after⟩, called, reduced, -⟩ :=
    tracks.fromBuffersUsage (le_refl frameId) (asserted (frameId, usages) (by simp))
  exact ⟨returned, self, dependencies, after, ran, called, reduced⟩

/-- The second frame references the first one, and the third frame both of them. -/
theorem fromBuffersUsage_reduced_three :
    let calls : List Call := [(1, [⟨0, false, true⟩]), (2, [⟨0, true, false⟩, ⟨1, false, true⟩])]
    ∃ returned self dependencies after, run calls = .ok (returned, self) ∧
      self.fromBuffersUsage 3 [⟨0, true, false⟩, ⟨1, true, false⟩] = .ok (dependencies, after) ∧
      Reduced calls (3, [⟨0, true, false⟩, ⟨1, true, false⟩]) returned dependencies :=
  fromBuffersUsage_reduced _ 3 _ (by decide) fun _ member => by
    simp only [List.cons_append, List.nil_append, List.mem_cons, List.not_mem_nil,
      or_false] at member
    rcases member with rfl | rfl | rfl <;> exact ⟨by decide, by decide⟩

end FrameDependenciesCalculator

end MaeRtc.VideoCoding
