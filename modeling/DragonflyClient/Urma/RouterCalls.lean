import DragonflyClient.Urma.Owner

/-!
The counters of the completion router over arbitrary calls.

Nothing is assumed about the buffer pool, the callers or the records of the provider: a
word is tracked only after it was decoded, and an entry leaves the table only through the
word it was tracked under.  `Exact` is kept by every call on those grounds alone.
-/

namespace DragonflyClient.Urma

open Library Table CompletionRouter WrToken

namespace CompletionRouter

/-- A call of the router with any arguments.  The pool that `route` updates is the caller's. -/
inductive Call where
  | registerLane (laneId : UInt16) (jettyId jfrId : UInt32)
  | unregisterLane (laneId : UInt16)
  | beginLaneRetirement (laneId : UInt16)
  | trackRegisteredRx (userCtx : UInt64) (sequence : Option UInt64) (completion : ChannelId)
  | openWindow (laneId : UInt16) (sequences : List UInt64) (lease : TxWindowLease)
      (completion : ChannelId)
  | trackRegisteredTx (userCtx sequence : UInt64) (window : WindowId)
  | finishPosting (pool : BufferPool) (window : WindowId) (error : Option Error)
  | route (pool : BufferPool) (recvQueue : Bool) (record : CompletionRecord)
  | failPending (error : Error)

def call (router : CompletionRouter) : Call → CompletionRouter
  | .registerLane laneId jettyId jfrId =>
    (commit router (router.registerLane laneId jettyId jfrId)).1
  | .unregisterLane laneId => (commit router (router.unregisterLane laneId)).1
  | .beginLaneRetirement laneId => (commit router (router.beginLaneRetirement laneId)).1
  | .trackRegisteredRx userCtx sequence completion =>
    (commit router (router.trackRegisteredRx userCtx sequence completion)).1
  | .openWindow laneId sequences lease completion =>
    UrmaLane.openWindow router (TxWindowInner.new laneId sequences lease completion)
  | .trackRegisteredTx userCtx sequence window =>
    (commit router (router.trackRegisteredTx userCtx sequence window)).1
  | .finishPosting pool window error =>
    (UrmaLane.finishWindow { pool, router } window error).router
  | .route pool recvQueue record => (OwnerTables.route recvQueue { pool, router } record).1.router
  | .failPending error => router.failPending error

def run (router : CompletionRouter) (calls : List Call) : CompletionRouter :=
  calls.foldl call router

def occupied (router : CompletionRouter) : Nat :=
  router.outstanding.countP (·.isSome)

def operationCount (router : CompletionRouter) : OperationType → Nat
  | .send => router.outstandingSend
  | .recv => router.outstandingRecv

/-- The lane of each native Jetty is registered with that Jetty, and the other way round. -/
def MapsInverse (router : CompletionRouter) : Prop :=
  ∀ jettyId laneId, router.laneByJettyId.lookup jettyId = some laneId ↔
    ∃ retirement, router.retirementByLane.lookup laneId = some retirement ∧
      retirement.jettyId = jettyId

/-- The counters are exact and every entry stands at the slot of its own word. -/
structure Exact (router : CompletionRouter) : Prop where
  counted : Counted router
  stamped : ∀ index wr, router.outstandingAt index = some wr →
    ∃ token, decode wr.userCtx = .ok token ∧ slotIndex token.slot = index
  laneSum : Table.valueSum router.outstandingByLane = router.outstandingTotal
  inverse : router.MapsInverse

namespace Exact

variable {router after : CompletionRouter}

theorem empty {batch} (created : new batch = .ok router) : router.Exact := by
  obtain ⟨-, outstanding, total, send, recv, byLane, retirement, jetty, -⟩ := of_new_ok created
  constructor
  case counted => exact .empty outstanding total send recv byLane
  case stamped => simp [outstandingAt, outstanding]
  case laneSum =>
    rw [byLane, total]
    rfl
  case inverse => simp [MapsInverse, retirement, jetty]

section

variable (exact : router.Exact)
include exact

theorem congr (same : SameLanes router after)
    (outstanding : after.outstanding = router.outstanding) : after.Exact where
  counted := exact.counted.congr same.toSameCounts outstanding
  stamped := by simpa only [outstandingAt, outstanding] using exact.stamped
  laneSum := by simpa only [same.byLane, same.total] using exact.laneSum
  inverse := by simpa only [MapsInverse, same.jetty, same.retirement] using exact.inverse

theorem tracking (same : SameTracking router after) : after.Exact :=
  exact.congr same.toSameLanes same.outstanding

theorem remap {retirement jetty} (inverse : ({ router with
      retirementByLane := retirement, laneByJettyId := jetty } : CompletionRouter).MapsInverse) :
    ({ router with
      retirementByLane := retirement, laneByJettyId := jetty } : CompletionRouter).Exact where
  counted := exact.counted.congr ⟨rfl, rfl, rfl, rfl⟩ rfl
  stamped := exact.stamped
  laneSum := exact.laneSum
  inverse := inverse

theorem laneSum_insert (laneId : UInt16) :
    Table.valueSum (router.outstandingByLane.insert laneId (router.laneCount laneId + 1)) =
      router.outstandingTotal + 1 := by
  have inserted := valueSum_insert router.outstandingByLane laneId
    (router.laneCount laneId + 1)
  have before := exact.laneSum
  unfold laneCount at inserted ⊢
  omega

variable {userCtx : UInt64} {laneId : UInt16}

theorem recordRx (token : WrToken)
    (vacant : router.outstandingAt token.slot.index.toNat = none) (recv : token.operation = .recv)
    (decoded : decode userCtx = .ok token) (sequence : UInt64) (completion : ChannelId) :
    (router.recordRx token userCtx sequence completion).Exact where
  counted := exact.counted.recordRx token vacant recv decoded sequence completion
  stamped index wr := by
    rw [outstandingAt_recordRx]
    split
    next here =>
      rintro ⟨⟩
      exact ⟨token, decoded, here.symm⟩
    next => exact exact.stamped index wr
  laneSum := exact.laneSum_insert token.laneId
  inverse := exact.inverse

theorem recordTx (token : WrToken)
    (vacant : router.outstandingAt token.slot.index.toNat = none) (send : token.operation = .send)
    (decoded : decode userCtx = .ok token) (sequence : UInt64) (window : WindowId) :
    (router.recordTx token userCtx sequence window).Exact where
  counted := exact.counted.recordTx token vacant send decoded sequence window
  stamped index wr := by
    rw [outstandingAt_recordTx]
    split
    next here =>
      rintro ⟨⟩
      exact ⟨token, decoded, here.symm⟩
    next => exact exact.stamped index wr
  laneSum := exact.laneSum_insert token.laneId
  inverse := exact.inverse

theorem trackRegisteredRx {sequence completion}
    (tracked : router.trackRegisteredRx userCtx sequence completion = .ok after) :
    after.Exact := by
  unfold CompletionRouter.trackRegisteredRx at tracked
  split at tracked
  · cases tracked
  next token decoded =>
  split at tracked
  · cases tracked
  next recv =>
  split at tracked
  · cases tracked
  dsimp only at tracked
  split at tracked
  · cases tracked
  split at tracked
  · cases tracked
  next vacant =>
    rw [← Except.ok.inj tracked]
    rw [not_not] at recv
    exact exact.recordRx token (by simpa using vacant) recv decoded _ _

theorem trackRegisteredTx {sequence window}
    (tracked : router.trackRegisteredTx userCtx sequence window = .ok after) : after.Exact := by
  unfold CompletionRouter.trackRegisteredTx at tracked
  split at tracked
  · cases tracked
  next token decoded =>
  split at tracked
  · cases tracked
  next send =>
  split at tracked
  · cases tracked
  next vacant =>
    rw [← Except.ok.inj tracked]
    rw [not_not] at send
    exact exact.recordTx token (by simpa using vacant) send decoded _ _

theorem registerLane {jettyId jfrId}
    (registered : router.registerLane laneId jettyId jfrId = .ok after) : after.Exact := by
  unfold CompletionRouter.registerLane at registered
  split at registered
  · cases registered
  next new =>
  split at registered
  · cases registered
  next unowned =>
  have absent : router.retirementByLane.lookup laneId = none := AList.lookup_eq_none.mpr new
  rw [← Except.ok.inj registered]
  apply exact.remap
  intro otherJetty other
  have before := exact.inverse otherJetty other
  simp only [lookup_insert_eq]
  -- Neither map knew the lane or the Jetty, so the new pair meets no old one.
  by_cases sameJetty : otherJetty = jettyId
  · subst sameJetty
    rw [unowned] at before
    by_cases sameLane : other = laneId
    · simp [sameLane]
    · simpa [sameLane, Ne.symm sameLane] using before
  · by_cases sameLane : other = laneId
    · subst sameLane
      simpa [sameJetty, Ne.symm sameJetty, absent] using before
    · simpa [sameJetty, sameLane] using before

theorem retire {retirement updated}
    (found : router.retirementByLane.lookup laneId = some retirement)
    (sameJetty : updated.jettyId = retirement.jettyId) :
    ({ router with
      retirementByLane := router.retirementByLane.insert laneId updated } :
      CompletionRouter).Exact := by
  refine exact.remap fun jettyId other => ?_
  have before := exact.inverse jettyId other
  by_cases sameLane : other = laneId
  · subst sameLane
    simpa [found, sameJetty] using before
  · simpa [sameLane] using before

theorem beginLaneRetirement
    (retired : router.beginLaneRetirement laneId = .ok after) : after.Exact := by
  unfold CompletionRouter.beginLaneRetirement at retired
  split at retired
  · cases retired
  next retirement found =>
    rw [← Except.ok.inj retired]
    exact exact.retire found rfl

theorem unregisterLane (unregistered : router.unregisterLane laneId = .ok after) : after.Exact := by
  unfold CompletionRouter.unregisterLane at unregistered
  split at unregistered
  · cases unregistered
  split at unregistered
  · cases unregistered
  next retirement found =>
  have owner : router.laneByJettyId.lookup retirement.jettyId = some laneId :=
    (exact.inverse _ _).mpr ⟨retirement, found, rfl⟩
  rw [← Except.ok.inj unregistered]
  apply exact.remap
  intro jettyId other
  have before := exact.inverse jettyId other
  simp only [lookup_erase_eq]
  by_cases sameJetty : jettyId = retirement.jettyId
  · subst sameJetty
    rw [owner] at before
    by_cases sameLane : other = laneId
    · simp [sameLane]
    · simpa [sameLane, Ne.symm sameLane] using before
  · by_cases sameLane : other = laneId
    · subst sameLane
      simpa [sameJetty, Ne.symm sameJetty, found] using before
    · simpa [sameJetty, sameLane] using before

theorem failEntry (error : Error) (index : Nat) : (router.failEntry error index).Exact := by
  have counted := exact.counted.failEntry error index
  unfold CompletionRouter.failEntry at counted ⊢
  split
  · exact exact
  next wr found =>
  split
  · exact exact
  next window targeted =>
  have frame := (SameTracking.withWindow (router.orphan index wr) window
    (·.fail error)).trans (.dropReference _ window)
  have lanes := (SameLanes.orphan router index wr).trans frame.toSameLanes
  simp only [found, targeted] at counted
  constructor
  case counted => exact counted
  case stamped =>
    intro other tracked listed
    rw [frame.outstandingAt, outstandingAt, orphan, join_putOutstanding] at listed
    split at listed
    next here =>
      cases listed
      exact exact.stamped other wr (here ▸ found)
    next => exact exact.stamped other tracked listed
  case laneSum => simpa only [lanes.byLane, lanes.total] using exact.laneSum
  case inverse => simpa only [MapsInverse, lanes.jetty, lanes.retirement] using exact.inverse

theorem failPending (error : Error) : (router.failPending error).Exact := by
  apply failPending_invariant Exact error
  · exact exact.congr ⟨⟨rfl, rfl, rfl, rfl⟩, rfl, rfl, rfl⟩ rfl
  · exact fun router index kept => kept.failEntry error index

theorem forget {token wr count} (found : router.outstandingAt token.slot.index.toNat = some wr)
    (decoded : decode wr.userCtx = .ok token)
    (listed : router.outstandingByLane.lookup token.laneId = some count) :
    ((CompletionRouter.forget { router with outstandingTotal := router.outstandingTotal - 1 } token
      count).decrementOperation token.operation).Exact := by
  have counted := exact.counted.forget found decoded listed
  have before := exact.laneSum
  have positive : count ≠ 0 := by
    rintro rfl
    exact exact.counted.present _ listed
  set taken := CompletionRouter.forget
    { router with outstandingTotal := router.outstandingTotal - 1 } token count with takenEq
  constructor
  case counted => exact counted
  case stamped =>
    intro index other tracked
    have vacated : (taken.decrementOperation token.operation).outstandingAt index =
        if index = slotIndex token.slot then none else router.outstandingAt index := by
      cases token.operation <;> exact join_putOutstanding _ _ _ _
    rw [vacated] at tracked
    split at tracked
    · cases tracked
    · exact exact.stamped index other tracked
  case laneSum =>
    have byLane : (taken.decrementOperation token.operation).outstandingByLane =
        if count - 1 = 0 then router.outstandingByLane.erase token.laneId
        else router.outstandingByLane.insert token.laneId (count - 1) := by
      cases token.operation <;> rfl
    have total : (taken.decrementOperation token.operation).outstandingTotal =
        router.outstandingTotal - 1 := by
      cases token.operation <;> rfl
    rw [byLane, total]
    split
    next last =>
      have erased := valueSum_erase router.outstandingByLane token.laneId
      rw [listed, Option.getD_some] at erased
      omega
    next more =>
      have inserted := valueSum_insert router.outstandingByLane token.laneId (count - 1)
      rw [listed, Option.getD_some] at inserted
      omega
  case inverse =>
    cases token.operation <;> exact exact.inverse

theorem exists_laneCount {index wr token} (found : router.outstandingAt index = some wr)
    (decoded : decode wr.userCtx = .ok token) :
    ∃ count, router.outstandingByLane.lookup token.laneId = some count ∧ 0 < count := by
  have positive : 0 < router.laneCount token.laneId := by
    rw [exact.counted.lane]
    exact tally_pos found decoded (by simp)
  unfold laneCount at positive
  cases listed : router.outstandingByLane.lookup token.laneId with
  | none => simp [listed] at positive
  | some count => exact ⟨count, rfl, by simpa [listed] using positive⟩

/-- A word takes nothing, or the work request that was tracked under it. -/
theorem takes (userCtx : UInt64) :
    (∃ error, router.takeOutstanding userCtx = (router, .error error)) ∨
      ∃ token wr count, decode userCtx = .ok token ∧
        router.outstandingAt token.slot.index.toNat = some wr ∧ wr.userCtx = userCtx ∧
        router.outstandingByLane.lookup token.laneId = some count ∧ 0 < count ∧
        router.takeOutstanding userCtx =
          (CompletionRouter.forget
            { router with outstandingTotal := router.outstandingTotal - 1 } token count,
            .ok wr) := by
  unfold takeOutstanding
  cases decoded : decode userCtx with
  | error error => exact .inl ⟨error, rfl⟩
  | ok token =>
    dsimp only
    split
    · exact .inl ⟨_, rfl⟩
    cases found : router.outstandingAt token.slot.index.toNat with
    | none => exact .inl ⟨_, rfl⟩
    | some wr =>
      dsimp only
      split
      · exact .inl ⟨_, rfl⟩
      next same =>
        rw [not_not] at same
        obtain ⟨count, listed, positive⟩ := exact.exists_laneCount found (same.symm ▸ decoded)
        refine .inr ⟨token, wr, count, rfl, found, same, listed, positive, ?_⟩
        simp only [listed]

end

end Exact

structure SameButIdentities (router after : CompletionRouter) : Prop where
  lanes : SameLanes router after
  outstanding : after.outstanding = router.outstanding

theorem SameButIdentities.refl (router : CompletionRouter) : SameButIdentities router router :=
  ⟨.refl _, rfl⟩

end CompletionRouter

namespace OwnerTables

open CompletionRouter

theorem settleRecv_router (tables : OwnerTables) (record : CompletionRecord) (token : WrToken)
    (sequence : Option UInt64) :
    SameButIdentities tables.router (tables.settleRecv record token sequence).1.router := by
  unfold settleRecv
  cases validateRecvImmediate record with
  | error error => exact .refl _
  | ok immData =>
    dsimp only
    cases taken : tables.router.takeRegisteredRx token.laneId immData with
    | error error => exact .refl _
    | ok answer =>
      obtain ⟨router, channel⟩ := answer
      have same : SameButIdentities tables.router router := by
        rw [(of_takeRegisteredRx_ok taken).2]
        exact ⟨⟨⟨rfl, rfl, rfl, rfl⟩, rfl, rfl, rfl⟩, rfl⟩
      dsimp only
      split
      · exact same
      · split <;> exact same

/-- Whatever a completion is classified as, its operation is counted down once. -/
theorem settle_router (tables : OwnerTables) (record : CompletionRecord) (recvQueue : Bool)
    (token : WrToken) (wr : OutstandingWr) :
    SameButIdentities (tables.router.decrementOperation token.operation)
      (tables.settle record recvQueue token wr).1.router := by
  unfold settle
  dsimp only
  split
  · exact .refl _
  split
  · exact .refl _
  split
  next =>
    unfold settleSend
    split
    · split <;> exact .refl _
    · exact .refl _
  next =>
    exact settleRecv_router
      { tables with router := tables.router.decrementOperation token.operation } record token
      wr.sequence

end OwnerTables

namespace CompletionRouter

namespace Exact

variable {router after : CompletionRouter}

section

variable (exact : router.Exact)
include exact

theorem routeWorkRequest (pool : BufferPool) (record : CompletionRecord) (recvQueue : Bool) {token}
    (decoded : decode record.userCtx = .ok token) :
    (OwnerTables.routeWorkRequest { pool, router } record recvQueue token).1.router.Exact := by
  unfold OwnerTables.routeWorkRequest
  split
  · exact exact
  rcases exact.takes record.userCtx with ⟨error, refused⟩ |
    ⟨token', wr, count, decoded', found, same, listed, positive, taken⟩
  · simp only [refused]
    exact exact
  · obtain rfl := Except.ok.inj (decoded.symm.trans decoded')
    simp only [taken]
    have forgotten := exact.forget found (same.symm ▸ decoded) listed
    have settled := OwnerTables.settle_router
      { pool, router := CompletionRouter.forget
          { router with outstandingTotal := router.outstandingTotal - 1 } token count }
      record recvQueue token wr
    exact (forgotten.congr settled.lanes settled.outstanding).tracking (.deliverTo _ _ _)

theorem route (pool : BufferPool) (recvQueue : Bool) (record : CompletionRecord) :
    (OwnerTables.route recvQueue { pool, router } record).1.router.Exact := by
  unfold OwnerTables.route
  split
  · rcases routeFlushDone_cases router record recvQueue with
      ⟨error, refused⟩ | ⟨laneId, retirement, -, -, found, -, flushed⟩
    · simp only [refused]
      exact exact
    · simp only [flushed]
      exact exact.retire found rfl
  · exact exact
  · exact exact
  · split
    · exact exact
    split
    · exact exact
    next token decoded => exact exact.routeWorkRequest pool record recvQueue decoded

theorem commit {result : Result CompletionRouter}
    (kept : ∀ after, result = .ok after → after.Exact) :
    (Library.commit router result).1.Exact := by
  cases result with
  | error error => exact exact
  | ok after => exact kept after rfl

theorem call (call : Call) : (router.call call).Exact := by
  cases call with
  | registerLane => exact exact.commit fun _ => exact.registerLane
  | unregisterLane => exact exact.commit fun _ => exact.unregisterLane
  | beginLaneRetirement => exact exact.commit fun _ => exact.beginLaneRetirement
  | trackRegisteredRx => exact exact.commit fun _ => exact.trackRegisteredRx
  | openWindow => exact exact.tracking (.openWindow _ _)
  | trackRegisteredTx => exact exact.commit fun _ => exact.trackRegisteredTx
  | finishPosting pool window error => exact exact.tracking (.finishWindow { pool, router } _ _)
  | route pool recvQueue record => exact exact.route pool recvQueue record
  | failPending error => exact exact.failPending error

theorem run (calls : List Call) : (router.run calls).Exact := by
  induction calls generalizing router with
  | nil => exact exact
  | cons call rest ih => exact ih (exact.call call)

/-- Every tracked word decodes, so each occupied entry is in the total. -/
theorem tally_eq_occupied : (router.tally fun _ => true) = router.occupied := by
  apply List.countP_congr
  intro entry listed
  cases entry with
  | none => rfl
  | some wr =>
    obtain ⟨index, found⟩ := List.mem_iff_getElem?.mp listed
    obtain ⟨token, decoded, -⟩ := exact.stamped index wr (by simp [outstandingAt, found])
    simp [OutstandingWr.has, decoded]

end

end Exact

theorem tally_operations (router : CompletionRouter) :
    (router.tally fun _ => true) =
      (router.tally fun token => token.operation = .send) +
        router.tally fun token => token.operation = .recv := by
  unfold tally
  induction router.outstanding with
  | nil => rfl
  | cons entry rest ih =>
    simp only [List.countP_cons, ih]
    cases entry with
    | none => simp
    | some wr =>
      cases decoded : decode wr.userCtx with
      | error error => simp [OutstandingWr.has, decoded]
      | ok token => cases operation : token.operation <;>
          simp [OutstandingWr.has, decoded, operation] <;> omega

structure CountersExact (router : CompletionRouter) : Prop where
  operations : router.outstandingTotal = router.outstandingSend + router.outstandingRecv
  occupied : router.outstandingTotal = router.occupied
  lanes : router.outstandingTotal = Table.valueSum router.outstandingByLane
  lane : ∀ laneId, router.outstandingForLane laneId =
    router.tally fun token => token.laneId = laneId
  present : ∀ laneId, router.outstandingByLane.lookup laneId ≠ some 0
  inverse : router.MapsInverse

variable {router : CompletionRouter}

theorem Exact.countersExact (exact : router.Exact) :
    router.CountersExact where
  operations := by
    rw [exact.counted.total, exact.counted.send, exact.counted.recv]
    exact router.tally_operations
  occupied := exact.counted.total.trans exact.tally_eq_occupied
  lanes := exact.laneSum.symm
  lane := exact.counted.lane
  present := exact.counted.present
  inverse := exact.inverse

/-- Retiring the work request of a word either touches nothing or finds every counter it
decrements above zero. -/
def DecrementsSafely (router : CompletionRouter) (userCtx : UInt64) : Prop :=
  (∃ error, router.takeOutstanding userCtx = (router, .error error)) ∨
    ∃ token wr, decode userCtx = .ok token ∧
      (router.takeOutstanding userCtx).2 = .ok wr ∧ 0 < router.outstandingTotal ∧
      0 < router.outstandingForLane token.laneId ∧ 0 < router.operationCount token.operation

theorem Exact.decrementsSafely (exact : router.Exact)
    (userCtx : UInt64) : router.DecrementsSafely userCtx := by
  rcases exact.takes userCtx with refused |
    ⟨token, wr, count, decoded, found, same, listed, positive, taken⟩
  · exact .inl refused
  · subst same
    refine .inr ⟨token, wr, decoded, by rw [taken], ?_, ?_, ?_⟩
    · rw [exact.counted.total]
      exact tally_pos found decoded rfl
    · simpa [outstandingForLane, laneCount, listed] using positive
    · cases operation : token.operation with
      | send =>
        rw [operationCount, exact.counted.send]
        exact tally_pos found decoded (by simp [operation])
      | recv =>
        rw [operationCount, exact.counted.recv]
        exact tally_pos found decoded (by simp [operation])

/-- The identity of a record is valid: its Jetty belongs to a lane, and a work-request record
names a tracked work request of that lane. -/
def Identifies (router : CompletionRouter) (record : CompletionRecord) : Prop :=
  match record.eventKind with
  | .flushErrorDone => record.localId ∈ router.laneByJettyId
  | .suspendDone | .unknown _ => False
  | .workRequest =>
    record.userCtxValid = true ∧ ∃ token wr, decode record.userCtx = .ok token ∧
      router.laneByJettyId.lookup record.localId = some token.laneId ∧
      router.outstandingAt token.slot.index.toNat = some wr ∧ wr.userCtx = record.userCtx

theorem Exact.route_unidentified (exact : router.Exact) (pool : BufferPool) (recvQueue : Bool)
    {record} (unidentified : ¬ router.Identifies record) :
    ∃ error, OwnerTables.route recvQueue { pool, router } record =
      ({ pool, router }, .error error) := by
  unfold Identifies at unidentified
  unfold OwnerTables.route
  split
  next kind =>
    simp only [kind, mem_iff_lookup, not_exists] at unidentified
    rcases routeFlushDone_cases router record recvQueue with
      ⟨error, refused⟩ | ⟨laneId, -, -, owner, -⟩
    · exact ⟨error, by simp only [refused]⟩
    · exact absurd owner (unidentified laneId)
  next => exact ⟨_, rfl⟩
  next => exact ⟨_, rfl⟩
  next kind =>
  split
  · exact ⟨_, rfl⟩
  next valid =>
  split
  · exact ⟨_, rfl⟩
  next token decoded =>
  unfold OwnerTables.routeWorkRequest
  split
  · exact ⟨_, rfl⟩
  next owner =>
  rcases exact.takes record.userCtx with ⟨error, refused⟩ |
    ⟨token', wr, count, decoded', found, same, -⟩
  · exact ⟨error, by simp only [refused]⟩
  · obtain rfl := Except.ok.inj (decoded.symm.trans decoded')
    simp only [kind] at unidentified
    exact absurd ⟨by simpa using valid, token, wr, decoded, by simpa using owner, found, same⟩
      unidentified

/-- The maps agree, so the `expect` of the flush route is never met. -/
theorem Exact.routeFlushDone_ne_panicked (exact : router.Exact)
    (record : CompletionRecord) (recvQueue : Bool) (message : String) :
    router.routeFlushDone record recvQueue ≠ .error (.panicked message) := by
  unfold routeFlushDone
  split
  · simp
  dsimp only
  split
  · simp
  next laneId owner =>
  obtain ⟨retirement, found, -⟩ := (exact.inverse _ _).mp owner
  simp only [found]
  split <;> simp

/-- After any calls, with any arguments and records, the counters are exact, no decrement
underflows, a record without a valid identity changes nothing and the flush route does not
panic. -/
theorem counters_exact {batch : Nat} {router : CompletionRouter}
    (created : new batch = .ok router) (calls : List Call) :
    (router.run calls).CountersExact ∧ (∀ userCtx, (router.run calls).DecrementsSafely userCtx) ∧
      (∀ pool recvQueue record, ¬ (router.run calls).Identifies record →
        ∃ error, OwnerTables.route recvQueue { pool, router := router.run calls } record =
          ({ pool, router := router.run calls }, .error error)) ∧
      ∀ record recvQueue message,
        (router.run calls).routeFlushDone record recvQueue ≠ .error (.panicked message) := by
  have exact := (Exact.empty created).run calls
  refine ⟨exact.countersExact, exact.decrementsSafely, ?_, exact.routeFlushDone_ne_panicked⟩
  intro pool recvQueue record unidentified
  exact exact.route_unidentified pool recvQueue unidentified

/-- A receive is tracked on a registered lane; a record that names it under a foreign Jetty is
refused with the receive still counted. -/
theorem counters_exact_foreign_jetty :
    ∃ router, new 4 = .ok router ∧
      let word := word ⟨1, 1, .recv, ⟨1, 1⟩⟩
      let after := router.run [.registerLane 1 7 8, .trackRegisteredRx word (some 5) 0]
      let record : CompletionRecord := { userCtx := word, userCtxValid := true, localId := 9 }
      after.CountersExact ∧ after.outstandingTotal = 1 ∧ after.outstandingForLane 1 = 1 ∧
        ∃ error, OwnerTables.route true { pool := Small.started.tables.pool, router := after }
          record = ({ pool := Small.started.tables.pool, router := after }, .error error) := by
  obtain ⟨router, created⟩ : ∃ router, new 4 = .ok router := ⟨_, rfl⟩
  obtain rfl := Except.ok.inj created
  obtain ⟨exact, -, unidentified, -⟩ := counters_exact created
    [.registerLane 1 7 8, .trackRegisteredRx (word ⟨1, 1, .recv, ⟨1, 1⟩⟩) (some 5) 0]
  refine ⟨_, created, exact, rfl, rfl, unidentified _ true _ ?_⟩
  rintro ⟨-, token, wr, -, owner, -⟩
  cases owner

end CompletionRouter

end DragonflyClient.Urma
