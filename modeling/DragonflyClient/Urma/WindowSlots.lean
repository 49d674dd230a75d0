import DragonflyClient.Urma.Capacity

/-!
The slots of a receive window (`post_receive_window_registered`): whatever the provider
answers to the batches, each of them is posted and tracked under its own sequence or free
again when the call returns.

The shortage of slots is reported before anything is changed.  No later step of the call
reports it, so a caller that sees it may submit the same sequences again.
-/

namespace DragonflyClient.Urma

open Library List

section Errors

theorem BufferPool.admitted_slotFields (pool : BufferPool) (id : SlotId) :
    Admitted (pool.slotFields id) := by
  unfold slotFields
  repeat' split
  all_goals first | exact .ok _ | exact .error rfl

theorem BufferPool.admitted_recvPostLayout (pool : BufferPool) (id : SlotId) :
    Admitted (pool.recvPostLayout id) := by
  unfold recvPostLayout
  split
  next failed => exact (pool.admitted_slotFields id).pass failed
  · repeat' split
    all_goals first | exact .ok _ | exact .error rfl

theorem BufferPool.admitted_markPosted (pool : BufferPool) (id : SlotId) (kind : SlotKind) :
    Admitted (pool.markPosted id kind) := by
  unfold markPosted
  split
  next failed => exact (pool.admitted_slotFields id).pass failed
  · split
    · exact .error rfl
    · exact pool.admitted_transition _ _ _

theorem BufferPool.admitted_releaseUnpostedRxWindow (pool : BufferPool) (slots : List SlotId) :
    Admitted (pool.releaseUnpostedRxWindow slots).2 :=
  .tryEach (fun pool slot => (pool.admitted_release slot).commit pool) slots pool

theorem WrToken.admitted_encode (token : WrToken) : Admitted token.encode := by
  unfold encode
  split
  · exact .error rfl
  · exact .ok _

theorem OperationType.admitted_tryFrom (value : UInt8) : Admitted (tryFrom value) := by
  unfold tryFrom
  repeat' split
  all_goals first | exact .ok _ | exact .error rfl

theorem SlotId.admitted_decode (encoded : UInt32) : Admitted (SlotId.decode encoded) := by
  unfold decode
  dsimp only
  split
  · exact .error rfl
  · exact .ok _

theorem WrToken.admitted_decode (value : UInt64) : Admitted (WrToken.decode value) := by
  unfold decode
  dsimp only
  split
  next failed => exact (OperationType.admitted_tryFrom _).pass failed
  split
  · exact .error rfl
  split
  next failed => exact (SlotId.admitted_decode _).pass failed
  · exact .ok _

theorem CompletionRouter.admitted_trackRegisteredRx (router : CompletionRouter)
    (userCtx : UInt64) (sequence : Option UInt64) (completion : ChannelId) :
    Admitted (router.trackRegisteredRx userCtx sequence completion) := by
  unfold trackRegisteredRx
  split
  next failed => exact (WrToken.admitted_decode userCtx).pass failed
  split
  · exact .error rfl
  cases sequence with
  | none => exact .error rfl
  | some sequence =>
    dsimp only
    repeat' split
    all_goals first | exact .ok _ | exact .error rfl

theorem CompletionRouter.admitted_validateIdentities (router : CompletionRouter)
    (laneId : UInt16) (seen sequences : List UInt64) :
    Admitted (router.validateIdentities laneId seen sequences) := by
  induction sequences generalizing seen with
  | nil => exact .ok _
  | cons sequence rest ih =>
    unfold validateIdentities
    split
    · exact .error rfl
    split
    · exact .error rfl
    · exact ih _

theorem isBufferUnavailable_nativeError (operation : String) (error : FfiError) :
    (nativeError operation error).isBufferUnavailable = false := by
  cases error <;> rfl

namespace UrmaLane

theorem admitted_prepareRecv (lane : UrmaLane) (pending : List PendingRecv) (pool : BufferPool) :
    Admitted (lane.prepareRecv pending pool).2.2 := by
  induction pending generalizing pool with
  | nil => exact .ok _
  | cons item rest ih =>
    unfold prepareRecv
    split
    next failed => exact (pool.admitted_recvPostLayout item.slot).pass failed
    split
    next failed => exact (WrToken.admitted_encode _).pass failed
    split
    next failed => exact (pool.admitted_markPosted item.slot .rx).pass failed
    · exact ih _

theorem admitted_abandonRecv (tables : OwnerTables) (marked unposted : List PendingRecv) {error}
    (other : error.isBufferUnavailable = false) :
    Admitted (abandonRecv tables marked unposted error).2 := by
  have undone : Admitted (andThen (rollbackRecv tables.pool marked) fun pool =>
      pool.releaseUnpostedRxWindow (unposted.map PendingRecv.slot)).2 := by
    apply Admitted.andThen
    · exact .tryEach (fun pool item => (pool.admitted_transition _ _ _).commit pool) _ _
    · exact fun pool => pool.admitted_releaseUnpostedRxWindow _
  unfold abandonRecv
  dsimp only
  split
  · exact .error other
  next failed => exact undone.pass failed

/-- The loop reports a failed rollback or remembers an error of the post or of the router. -/
theorem admitted_trackRecv (pairs : List (PendingRecv × PostEntry)) (posted : Nat)
    (tables : OwnerTables) {firstError}
    (other : ∀ error ∈ firstError, error.isBufferUnavailable = false) :
    Admitted (trackRecv pairs posted tables firstError).2 ∧
      ∀ error, (trackRecv pairs posted tables firstError).2 = .ok (some error) →
        error.isBufferUnavailable = false := by
  induction pairs generalizing posted tables firstError with
  | nil => exact ⟨.ok _, fun error found => other error (Except.ok.inj found)⟩
  | cons pair rest ih =>
    obtain ⟨pending, entry⟩ := pair
    cases posted with
    | zero =>
      have undone : Admitted (andThen
          (commit tables.pool (tables.pool.rollbackPost pending.slot .rx))
          fun pool => commit pool (pool.release pending.slot)).2 :=
        ((tables.pool.admitted_transition _ _ _).commit _).andThen fun pool =>
          (pool.admitted_release _).commit _
      unfold trackRecv
      dsimp only
      split
      next failed => exact ⟨undone.pass failed, nofun⟩
      · exact ih 0 _ other
    | succ posted =>
      unfold trackRecv
      split
      next error failed =>
        apply ih posted tables
        intro found remembered
        cases firstError with
        | none =>
          rw [← Option.some.inj remembered]
          exact tables.router.admitted_trackRegisteredRx _ _ _ error failed
        | some first => exact other found remembered
      next router _ => exact ih posted { tables with router } other

theorem admitted_postRecvBatch (lane : UrmaLane) (tables : OwnerTables) (shim : ShimPost)
    (batch later : List PendingRecv) :
    Admitted (lane.postRecvBatch tables shim batch later).2.2 := by
  have prepared := lane.admitted_prepareRecv batch tables.pool
  unfold postRecvBatch
  split
  next pool entries error failed =>
    rw [failed] at prepared
    exact admitted_abandonRecv _ _ _ (prepared error rfl)
  next pool entries ready =>
  dsimp only
  split
  next failed =>
    unfold BufferPool.segmentLength at failed
    split at failed
    · exact .error (by rw [← Except.error.inj failed]; rfl)
    · cases failed
  split
  · exact admitted_abandonRecv _ _ _ (isBufferUnavailable_nativeError _ _)
  next posted postError answered =>
    have native : ∀ error ∈ postError.map (nativeError "post_jetty_recv_wr_list"),
        error.isBufferUnavailable = false := by
      intro error found
      obtain ⟨cause, -, rfl⟩ := Option.mem_map.mp found
      exact isBufferUnavailable_nativeError _ _
    have tracked := admitted_trackRecv (batch.zip entries) posted { tables with pool } native
    split
    next failed =>
      rw [failed] at tracked
      exact tracked.1.pass rfl
    · exact .ok _
    next remembered =>
      rw [remembered] at tracked
      split
      · exact .error (tracked.2 _ rfl)
      next failed => exact (BufferPool.admitted_releaseUnpostedRxWindow _ _).pass failed

theorem admitted_postRecvBatches (lane : UrmaLane) (shims : Nat → ShimPost)
    (groups : List (List PendingRecv)) (number : Nat) (tables : OwnerTables) :
    Admitted (lane.postRecvBatches shims groups number tables).result := by
  induction groups generalizing number tables with
  | nil => exact .ok _
  | cons batch later ih =>
    have posted := lane.admitted_postRecvBatch tables (shims number) batch later.flatten
    unfold postRecvBatches
    split
    next failed =>
      rw [failed] at posted
      exact posted.pass rfl
    · exact ih _ _

end UrmaLane

end Errors

variable {lane : UrmaLane} {pairs : List (PendingRecv × PostEntry)}

theorem lookup_registered_recordRecvs_of_forall_ne {router sequence}
    (elsewhere : ∀ pair ∈ pairs, pair.1.sequence ≠ sequence) :
    (recordRecvs lane router pairs).registeredRxByIdentity.lookup (lane.id, sequence) =
      router.registeredRxByIdentity.lookup (lane.id, sequence) := by
  induction pairs generalizing router with
  | nil => rfl
  | cons pair rest ih =>
    refine (ih fun other later =>
      elsewhere other (mem_cons_of_mem _ later)).trans ?_
    apply AList.lookup_insert_ne
    simpa [UrmaLane.token, eq_comm] using elsewhere pair mem_cons_self

theorem lookup_registered_recordRecvs {router}
    (distinct : (pairs.map fun pair => pair.1.sequence).Nodup) {pair} (listed : pair ∈ pairs) :
    (recordRecvs lane router pairs).registeredRxByIdentity.lookup (lane.id, pair.1.sequence) =
      some pair.1.completion := by
  induction pairs generalizing router with
  | nil => cases listed
  | cons first rest ih =>
    rw [map_cons, nodup_cons] at distinct
    rcases mem_cons.mp listed with rfl | later
    · refine (lookup_registered_recordRecvs_of_forall_ne fun other later same =>
        distinct.1 (mem_map.mpr ⟨other, later, same⟩)).trans ?_
      exact AList.lookup_insert _
    · exact ih distinct.2 later

namespace UrmaLane

def allocatedSlots (lane : UrmaLane) (tables : OwnerTables) (sequences : List UInt64)
    (completionTxs : List ChannelId) : List SlotId :=
  if lane.state ≠ .bound ∧ lane.state ≠ .ready then
    []
  else if sequences = [] ∨ sequences.length ≠ completionTxs.length then
    []
  else
    match tables.router.validateRegisteredRxIdentities lane.id sequences with
    | .error _ => []
    | .ok () =>
      match (tables.pool.allocateRxWindow sequences.length).2 with
      | .error _ => []
      | .ok slots => slots

end UrmaLane

/-- The slot of the receive at a position of the window is posted, and its work request is
tracked under the sequence and the waiter of that position. -/
structure ReceiveTracked (lane : UrmaLane) (window : List (UInt64 × ChannelId)) (position : Nat)
    (slot : SlotId) (tables : OwnerTables) : Prop where
  state : tables.pool.stateAt (slotIndex slot) = some .postedRecv
  generation : tables.pool.generationAt (slotIndex slot) = some slot.generation
  tracked : ∃ sequence completion, window[position]? = some (sequence, completion) ∧
    tables.router.outstandingAt (slotIndex slot) =
      some ⟨(lane.token .recv slot).word, some sequence, none⟩ ∧
    tables.router.registeredRxByIdentity.lookup (lane.id, sequence) = some completion

/-- What became of the slots of a window: those of the accepted receives are tracked, the
others are free, and no other slot was touched. -/
structure SlotsSettled (lane : UrmaLane) (tables : OwnerTables)
    (window : List (UInt64 × ChannelId)) (slots : List SlotId) (posting : Posting) : Prop where
  accepted : ∀ position slot, slots[position]? = some slot →
    position < posting.accepted.length →
      ReceiveTracked lane window position slot posting.tables
  free : ∀ position slot, slots[position]? = some slot → posting.accepted.length ≤ position →
    posting.tables.pool.stateAt (slotIndex slot) = some .free ∧
      posting.tables.router.outstandingAt (slotIndex slot) = none
  complete : posting.result = .ok () →
    slots.length = window.length ∧ posting.accepted.length = window.length
  untouched : ∀ index, index ∉ slots.map slotIndex →
    posting.tables.pool.stateAt index = tables.pool.stateAt index ∧
      posting.tables.pool.generationAt index = tables.pool.generationAt index ∧
      posting.tables.router.outstandingAt index = tables.router.outstandingAt index

theorem SlotsSettled.refused (lane : UrmaLane) (tables : OwnerTables)
    (window : List (UInt64 × ChannelId)) (error : Error) :
    SlotsSettled lane tables window [] { tables, accepted := [], result := .error error } where
  accepted := by simp
  free := by simp
  complete := nofun
  untouched _ _ := ⟨rfl, rfl, rfl⟩

theorem Agrees.stateAt_eq {custody after tables tables'} (agrees : Agrees custody tables)
    (agrees' : Agrees after tables') {index}
    (sameLength : tables'.pool.slots.length = tables.pool.slots.length)
    (same : after index = custody index) :
    tables'.pool.stateAt index = tables.pool.stateAt index := by
  by_cases inside : index < tables.pool.slots.length
  · rw [agrees'.state index (sameLength ▸ inside), agrees.state index inside, same]
  · simp [BufferPool.stateAt, inside, sameLength]

theorem Agrees.slotsSettled {custody after tables} (agrees : Agrees custody tables) {pool slots}
    (held : HoldsAll (assign custody slots (.reserved .rx)) pool slots (.reserved .rx))
    (frame : SameFrame tables.pool pool) (generation : ∀ index, index ∉ slots.map slotIndex →
      pool.generationAt index = tables.pool.generationAt index) {sequences completionTxs}
    (length : slots.length = sequences.length) (matching : sequences.length = completionTxs.length)
    (distinct : sequences.Nodup) {posting} (accepted : posting.accepted = pairs.map Prod.snd)
    (finished : posting.result = .ok () →
      pairs.map Prod.fst = pendingRecvs slots sequences completionTxs)
    (outcome : RecvOutcome lane (assign custody slots (.reserved .rx)) { tables with pool }
      (pendingRecvs slots sequences completionTxs) .free pairs after posting.tables) :
    SlotsSettled lane tables (sequences.zip completionTxs) slots posting := by
  obtain ⟨slotsEq, windowEq, sequencesEq⟩ := maps_pendingRecvs length matching
  generalize pendingRecvs slots sequences completionTxs = pending at *
  have acceptedLength : posting.accepted.length = pairs.length := by rw [accepted, length_map]
  have pendingAt : ∀ (position : Nat) (slot : SlotId), slots[position]? = some slot →
      ∃ item : PendingRecv, pending[position]? = some item ∧ item.slot = slot := by
    intro position slot found
    rw [← slotsEq, getElem?_map, Option.map_eq_some_iff] at found
    exact found
  have current : ∀ slot ∈ slots,
      posting.tables.pool.generationAt (slotIndex slot) = some slot.generation := by
    intro slot listed
    rw [outcome.same.generation]
    exact (held.held slot listed).generation
  have state : ∀ slot ∈ slots, posting.tables.pool.stateAt (slotIndex slot) =
      some (after (slotIndex slot)).state := by
    intro slot listed
    apply outcome.agrees.state
    have found := current slot listed
    by_contra outside
    simp [BufferPool.generationAt, getElem?_eq_none (Nat.not_lt.mp outside)] at found
  constructor
  case accepted =>
    intro position slot found below
    obtain ⟨item, itemAt, rfl⟩ := pendingAt position slot found
    have listed := mem_of_getElem? found
    rw [acceptedLength] at below
    have pairAt : pairs[position]? = some pairs[position] := getElem?_eq_getElem below
    have isItem : (pairs[position]).1 = item := by
      have first : (pairs.map Prod.fst)[position]? = some (pairs[position]).1 := by
        rw [getElem?_map, pairAt]
        rfl
      obtain ⟨rest, whole⟩ := outcome.accepted
      rw [← whole, getElem?_append_left (by simpa using below), first] at itemAt
      exact Option.some.inj itemAt
    have inPairs : pairs[position] ∈ pairs := getElem_mem below
    have custodyAt := outcome.posted _ inPairs
    have word := (outcome.tokens _ inPairs).2.2
    rw [isItem] at custodyAt word
    refine ⟨?_, current _ listed, item.sequence, item.completion, ?_, ?_, ?_⟩
    · rw [state _ listed, custodyAt]
      rfl
    · rw [← windowEq, getElem?_map, itemAt]
      rfl
    · rw [outcome.agrees.tracked, custodyAt, ← word, ← isItem]
      rfl
    · have apart : (pairs.map fun pair => pair.1.sequence).Nodup := by
        have part := (outcome.accepted.map PendingRecv.sequence).sublist
        rw [map_map, sequencesEq] at part
        exact part.nodup distinct
      have registered : (recordRecvs lane tables.router pairs).registeredRxByIdentity.lookup
          (lane.id, (pairs[position]).1.sequence) = some (pairs[position]).1.completion :=
        lookup_registered_recordRecvs apart inPairs
      rw [outcome.router]
      rwa [isItem] at registered
  case free =>
    intro position slot found beyond
    obtain ⟨item, itemAt, rfl⟩ := pendingAt position slot found
    rw [acceptedLength] at beyond
    have dropped : item ∈ pending.drop pairs.length := by
      have later : (pending.drop pairs.length)[position - pairs.length]? = some item := by
        rw [getElem?_drop, Nat.add_sub_cancel' beyond, itemAt]
      exact mem_of_getElem? later
    have freed := outcome.rest item dropped
    refine ⟨?_, ?_⟩
    · rw [state _ (mem_of_getElem? found), freed]
      rfl
    · rw [outcome.agrees.tracked, freed]
      rfl
  case complete =>
    intro ok
    have all := congrArg List.length (finished ok)
    have slotCount := congrArg List.length slotsEq
    have windowCount := congrArg List.length windowEq
    simp only [length_map] at all slotCount windowCount
    omega
  case untouched =>
    intro index outside
    have same : after index = custody index := by
      rw [outcome.outside index, assign_of_notMem outside]
      rw [← slotsEq, map_map] at outside
      exact outside
    refine ⟨agrees.stateAt_eq outcome.agrees (outcome.same.length.trans frame.length) same,
      ?_, ?_⟩
    · rw [outcome.same.generation]
      exact generation index outside
    · rw [outcome.agrees.tracked, agrees.tracked, same]

/-- For every lane, window, batch size and answers of the provider, the slots that a reached
owner allocates for a receive window are tracked or free when the call returns.  A call that
reports a shortage of slots or an identity in use has changed nothing, and after a shortage the
same identities are still unused. -/
theorem receive_window_leak_free {runtime : UrmaRuntime} (reached : runtime.Reached)
    (lane : UrmaLane) (sequences : List UInt64) (completionTxs : List ChannelId)
    (shims : Nat → ShimPost) :
    let tables := runtime.tables
    let posting := lane.postReceiveWindowRegistered tables sequences completionTxs shims
    SlotsSettled lane tables (sequences.zip completionTxs)
        (lane.allocatedSlots tables sequences completionTxs) posting ∧
      (∀ error, posting.result = .error error → error.isBufferUnavailable = true →
        posting.tables = tables ∧
          tables.router.validateRegisteredRxIdentities lane.id sequences = .ok ()) ∧
      ∀ error, tables.router.validateRegisteredRxIdentities lane.id sequences = .error error →
        posting.tables = tables ∧ posting.accepted = [] := by
  intro tables posting
  have sound := reached.sound
  obtain ⟨custody, consistent⟩ := sound.consistent
  have agrees : Agrees custody tables := consistent.agrees
  have stopped : ∀ error : Error, error.isBufferUnavailable = false →
      ∀ found, (.error error : Result Unit) = .error found →
        found.isBufferUnavailable = true → False := by
    intro error other found same unavailable
    rw [← Except.error.inj same, other] at unavailable
    cases unavailable
  simp only [posting, UrmaLane.postReceiveWindowRegistered, UrmaLane.allocatedSlots]
  split
  · exact ⟨.refused _ _ _ _, fun error same unavailable =>
      (stopped _ rfl error same unavailable).elim, fun _ _ => ⟨rfl, rfl⟩⟩
  split
  · exact ⟨.refused _ _ _ _, fun error same unavailable =>
      (stopped _ rfl error same unavailable).elim, fun _ _ => ⟨rfl, rfl⟩⟩
  next shape =>
  rw [not_or, not_not] at shape
  cases checked : tables.router.validateRegisteredRxIdentities lane.id sequences with
  | error refusal =>
    have other := tables.router.admitted_validateIdentities lane.id [] sequences refusal checked
    exact ⟨.refused _ _ _ _, fun error same unavailable =>
      (stopped _ other error same unavailable).elim, fun _ _ => ⟨rfl, rfl⟩⟩
  | ok =>
    rcases agrees.allocateRxWindow sequences.length with
      ⟨error, refused⟩ | ⟨pool, slots, allocated, length, reserved, held, frame, -, generation⟩
    · simp only [refused]
      exact ⟨.refused _ _ _ _, by simp, by simp⟩
    · obtain ⟨pairs, after, accepted, finished, outcome⟩ :=
        reserved.postAllocated held (frame.segment ▸ sound.segment) lane length shape.2 checked
          shims
      have distinct := (validateIdentities_ok checked).2
      simp only [allocated]
      refine ⟨agrees.slotsSettled held frame generation length shape.2 distinct accepted finished
        outcome, ?_, by simp⟩
      intro error failed unavailable
      have other := lane.admitted_postRecvBatches shims _ _ _ error failed
      rw [other] at unavailable
      cases unavailable

namespace Small

def wideConfig : RuntimeConfig := { config with bufferPool.rxSlotCount := 2 }

/-- Two receive slots for the bound lane. -/
def wide : UrmaRuntime :=
  ((UrmaRuntime.start wideConfig capability 0).toOption.getD started
    |>.perform (.createLane jetty ⟨.ok (), .ok (9, 10), .ok descriptor⟩)
    |>.perform (.bindLane 1 descriptor (.ok ()) (.ok ())))

theorem wide_reached : wide.Reached :=
  have begun : UrmaRuntime.Reached _ := .start ⟨wideConfig, capability, 0, rfl⟩
  (begun.perform _).perform _

/-- The provider accepts the first post and rejects the second. -/
def acceptingOne (number : Nat) : ShimPost :=
  if number = 0 then { status := 0, posted := 1 } else { status := 1, posted := 0 }

end Small

/-- A window of two receives, the second of which is rejected: the first is tracked, and the other
slot is free again. -/
theorem receive_window_leak_free_rejected :
    ∃ lane, Small.wide.lanes.lookup 1 = some lane ∧
      let posting := lane.postReceiveWindowRegistered Small.wide.tables [5, 6] [0, 1]
        Small.acceptingOne
      lane.allocatedSlots Small.wide.tables [5, 6] [0, 1] = [⟨1, 1⟩, ⟨2, 1⟩] ∧
        posting.result = .error (nativeError "post_jetty_recv_wr_list" (.status 1)) ∧
        ReceiveTracked lane [(5, 0), (6, 1)] 0 ⟨1, 1⟩ posting.tables ∧
        posting.tables.pool.stateAt 2 = some .free := by
  refine ⟨_, rfl, rfl, rfl, ?_⟩
  obtain ⟨settled, -⟩ := receive_window_leak_free Small.wide_reached
    ((Small.wide.lanes.lookup 1).get rfl) [5, 6] [0, 1] Small.acceptingOne
  exact ⟨settled.accepted 0 ⟨1, 1⟩ rfl (by decide +kernel),
    (settled.free 1 ⟨2, 1⟩ rfl (by decide +kernel)).1⟩

end DragonflyClient.Urma
