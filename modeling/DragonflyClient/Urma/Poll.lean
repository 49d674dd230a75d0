import DragonflyClient.Urma.Counters

/-!
What a routed completion record can do.

`Routed` lists the outcomes: a refused record changes nothing, a flush record
opens a retirement gate, and a work-request record ends the provider's custody
of one slot.  Every invariant over polls is proved from these four cases.
-/

namespace DragonflyClient.Urma

open Library Function CompletionRouter OwnerTables

def OwnerTables.taken (tables : OwnerTables) (token : WrToken) (count : Nat) : OwnerTables :=
  { tables with
    router := forget
      { tables.router with outstandingTotal := tables.router.outstandingTotal - 1 } token
      count }

structure Names (custody : Nat → Custody) (tables : OwnerTables) (record : CompletionRecord)
    (token : WrToken) (wr : OutstandingWr) (count : Nat) : Prop where
  workRequest : record.eventKind = .workRequest
  owner : tables.router.laneByJettyId.lookup record.localId = some token.laneId
  decoded : WrToken.decode record.userCtx = .ok token
  word : wr.userCtx = record.userCtx
  listed : tables.router.outstandingByLane.lookup token.laneId = some count
  posted : Holds custody tables.pool token.slot (.posted token.operation wr)

inductive Routed (custody : Nat → Custody) (tables : OwnerTables) (recvQueue : Bool)
    (record : CompletionRecord) : (Nat → Custody) → OwnerTables × Result Unit → Prop where
  | refused {error} :
      Routed custody tables recvQueue record custody (tables, .error error)
  | flushed {laneId retirement} (queue : recvQueue = false)
      (kind : record.eventKind = .flushErrorDone)
      (owner : tables.router.laneByJettyId.lookup record.localId = some laneId)
      (found : tables.router.retirementByLane.lookup laneId = some retirement)
      (waiting : retirement.waitingForFlush = true) :
      Routed custody tables recvQueue record custody
        ({ tables with router := tables.router.markFlushed laneId retirement }, .ok ())
  | send {token wr count pool} (names : Names custody tables record token wr count)
      (operation : token.operation = .send) (agrees : Agrees (update custody (slotIndex token.slot)
          (if wr.completion.isSome then .leased .tx else .free))
        { pool, router := (tables.taken token count).router.decrementOperation .send })
      (same : SamePool tables.pool pool) :
      Routed custody tables recvQueue record
        (update custody (slotIndex token.slot)
          (if wr.completion.isSome then .leased .tx else .free))
        (deliverTo
          { pool, router := (tables.taken token count).router.decrementOperation .send }
          (sendResult record recvQueue wr) (wr.completion.map .registeredTx),
          ownerResult (retiring tables.router token.laneId)
            (sendResult record recvQueue wr))
  | recv {token wr count value outcome} (names : Names custody tables record token wr count)
      (operation : token.operation = .recv)
      (settled : RecvSettled (update custody (slotIndex token.slot) (.marked .recv))
        (tables.taken token count) token record value outcome) :
      Routed custody tables recvQueue record
        (update custody (slotIndex token.slot) value)
        (outcome.1.deliverTo outcome.2.2 outcome.2.1,
          ownerResult (retiring tables.router token.laneId)
            outcome.2.2)

theorem routeFlushDone_cases (router : CompletionRouter) (record : CompletionRecord)
    (recvQueue : Bool) :
    (∃ error, router.routeFlushDone record recvQueue = .error error) ∨
    ∃ laneId retirement, recvQueue = false ∧
      router.laneByJettyId.lookup record.localId = some laneId ∧
      router.retirementByLane.lookup laneId = some retirement ∧
      retirement.waitingForFlush = true ∧
      router.routeFlushDone record recvQueue = .ok (router.markFlushed laneId retirement) := by
  unfold routeFlushDone
  split
  · exact .inl ⟨_, rfl⟩
  next queue =>
  dsimp only
  split
  · exact .inl ⟨_, rfl⟩
  next laneId owner =>
  split
  · exact .inl ⟨_, rfl⟩
  next retirement found =>
  split
  · exact .inl ⟨_, rfl⟩
  next waiting =>
  exact .inr ⟨laneId, retirement, by simpa using queue, owner, found, by simpa using waiting, rfl⟩

namespace Agrees

variable {custody : Nat → Custody} {tables : OwnerTables}

theorem names (agrees : Agrees custody tables) (counted : Counted tables.router) {record token wr}
    (kind : record.eventKind = .workRequest) (decoded : WrToken.decode record.userCtx = .ok token)
    (owner : tables.router.laneByJettyId.lookup record.localId = some token.laneId)
    (found : tables.router.outstandingAt (slotIndex token.slot) = some wr)
    (word : wr.userCtx = record.userCtx) :
    ∃ count, Names custody tables record token wr count := by
  have positive : 0 < tables.router.tally fun other => other.laneId = token.laneId :=
    tally_pos found (word ▸ decoded) (by simp)
  rw [← counted.lane token.laneId, laneCount] at positive
  cases listed : tables.router.outstandingByLane.lookup token.laneId with
  | none =>
    rw [listed] at positive
    exact absurd positive (by simp)
  | some count =>
    have tracked := agrees.tracked (slotIndex token.slot)
    rw [found] at tracked
    obtain ⟨operation, posted⟩ := Custody.wr_eq_some.mp tracked.symm
    obtain ⟨rfl, -, generation⟩ := agrees.decode_posted posted (word ▸ decoded)
    exact ⟨count, kind, owner, decoded, word, listed, generation, posted⟩

theorem taken (agrees : Agrees custody tables) {record token wr count}
    (names : Names custody tables record token wr count) :
    Agrees (update custody (slotIndex token.slot) (.marked token.operation))
        (tables.taken token count) ∧
      Holds (update custody (slotIndex token.slot) (.marked token.operation))
        (tables.taken token count).pool token.slot (.marked token.operation) :=
  ⟨agrees.forget names.posted.custody _ _, names.posted.generation, update_self ..⟩

end Agrees

namespace Names

variable {custody : Nat → Custody} {tables : OwnerTables} {record : CompletionRecord}
  {token : WrToken} {wr : OutstandingWr} {count : Nat}

section

variable (names : Names custody tables record token wr count)
include names

theorem decodedWr : WrToken.decode wr.userCtx = .ok token :=
  names.word ▸ names.decoded

section

variable (agrees : Agrees custody tables)
include agrees

theorem tracked : tables.router.outstandingAt (slotIndex token.slot) = some wr := by
  rw [agrees.tracked, names.posted.custody]
  rfl

theorem counted (counted : Counted tables.router) :
    Counted ((tables.taken token count).router.decrementOperation token.operation) :=
  counted.forget (names.tracked agrees) names.decodedWr names.listed

theorem takeOutstanding :
    tables.router.takeOutstanding record.userCtx = ((tables.taken token count).router, .ok wr) := by
  have found := names.tracked agrees
  have inside : slotIndex token.slot < tables.router.outstanding.length := by
    by_contra outside
    rw [CompletionRouter.outstandingAt, List.getElem?_eq_none (Nat.le_of_not_lt outside)] at found
    cases found
  simp only [CompletionRouter.takeOutstanding, names.decoded, Nat.not_le.mpr inside, if_false,
    found, names.word, ne_eq, not_true_eq_false, names.listed]
  rfl

theorem routeWorkRequest_eq (recvQueue : Bool) :
    tables.routeWorkRequest record recvQueue token =
      let outcome := (tables.taken token count).settle record recvQueue token wr
      (outcome.1.deliverTo outcome.2.2 outcome.2.1,
        ownerResult (retiring tables.router token.laneId) outcome.2.2) := by
  simp only [routeWorkRequest, names.owner, ne_eq, not_true_eq_false, if_false,
    names.takeOutstanding agrees]
  rfl

theorem routeSend (operation : token.operation = .send) (recvQueue : Bool) :
    ∃ pool,
      Agrees (update custody (slotIndex token.slot)
          (if wr.completion.isSome then .leased .tx else .free))
        { pool, router := (tables.taken token count).router.decrementOperation .send } ∧
      SamePool tables.pool pool ∧
      tables.routeWorkRequest record recvQueue token =
        (deliverTo
          { pool, router := (tables.taken token count).router.decrementOperation .send }
          (sendResult record recvQueue wr) (wr.completion.map .registeredTx),
          ownerResult (retiring tables.router token.laneId)
            (sendResult record recvQueue wr)) := by
  obtain ⟨marked, held⟩ := agrees.taken names
  rw [operation] at marked held
  have settled := marked.settleSend operation held wr record recvQueue
  rw [names.routeWorkRequest_eq agrees]
  generalize (tables.taken token count).settle record recvQueue token wr = outcome
    at settled ⊢
  obtain ⟨⟨pool, router⟩, target, result⟩ := outcome
  obtain ⟨agrees', same, rfl, rfl, rfl⟩ := settled
  rw [update_idem] at agrees'
  exact ⟨pool, agrees', same, rfl⟩

theorem routeRecv (operation : token.operation = .recv) (recvQueue : Bool) :
    ∃ value outcome,
      RecvSettled (update custody (slotIndex token.slot) (.marked .recv))
        (tables.taken token count) token record value outcome ∧
      tables.routeWorkRequest record recvQueue token =
        (outcome.1.deliverTo outcome.2.2 outcome.2.1,
          ownerResult (retiring tables.router token.laneId)
            outcome.2.2) := by
  obtain ⟨marked, held⟩ := agrees.taken names
  rw [operation] at marked held
  have stamped := agrees.stamped _ _ _ names.posted.custody
  obtain ⟨value, settled⟩ :=
    marked.settleRecv operation held (stamped.untargeted operation) record recvQueue
  exact ⟨value, _, settled, names.routeWorkRequest_eq agrees recvQueue⟩

end

end

end Names

namespace Agrees

variable {custody : Nat → Custody} {tables : OwnerTables}

theorem takes (agrees : Agrees custody tables) (counted : Counted tables.router) {record token}
    (kind : record.eventKind = .workRequest) (decoded : WrToken.decode record.userCtx = .ok token)
    (owner : tables.router.laneByJettyId.lookup record.localId = some token.laneId) :
    (∃ error, tables.router.takeOutstanding record.userCtx = (tables.router, .error error)) ∨
    ∃ wr count, Names custody tables record token wr count := by
  cases found : tables.router.outstandingAt token.slot.index.toNat with
  | none =>
    simp only [takeOutstanding, decoded, found]
    split <;> exact .inl ⟨_, rfl⟩
  | some wr =>
    by_cases word : wr.userCtx = record.userCtx
    · obtain ⟨count, names⟩ := agrees.names counted kind decoded owner found word
      exact .inr ⟨wr, count, names⟩
    · simp only [takeOutstanding, decoded, found, ne_eq, word,
        not_false_eq_true, if_true]
      split <;> exact .inl ⟨_, rfl⟩

theorem routeWorkRequest (agrees : Agrees custody tables) (counted : Counted tables.router)
    {record token} (recvQueue : Bool) (kind : record.eventKind = .workRequest)
    (decoded : WrToken.decode record.userCtx = .ok token) :
    ∃ after, Routed custody tables recvQueue record after
      (tables.routeWorkRequest record recvQueue token) := by
  by_cases owner : tables.router.laneByJettyId.lookup record.localId = some token.laneId
  · rcases agrees.takes counted kind decoded owner with ⟨error, refused⟩ | ⟨wr, count, names⟩
    · simp only [OwnerTables.routeWorkRequest, owner, ne_eq, not_true_eq_false, if_false, refused]
      exact ⟨custody, .refused⟩
    cases operation : token.operation with
    | send =>
      obtain ⟨pool, agrees', same, routed⟩ := names.routeSend agrees operation recvQueue
      rw [routed]
      exact ⟨_, .send names operation agrees' same⟩
    | recv =>
      obtain ⟨value, outcome, settled, routed⟩ := names.routeRecv agrees operation recvQueue
      rw [routed]
      exact ⟨_, .recv names operation settled⟩
  · simp only [OwnerTables.routeWorkRequest, ne_eq, owner, not_false_eq_true, if_true]
    exact ⟨custody, .refused⟩

theorem route (agrees : Agrees custody tables) (counted : Counted tables.router)
    (recvQueue : Bool) (record : CompletionRecord) :
    ∃ after, Routed custody tables recvQueue record after
      (OwnerTables.route recvQueue tables record) := by
  unfold OwnerTables.route
  cases kind : record.eventKind with
  | suspendDone => exact ⟨custody, .refused⟩
  | unknown => exact ⟨custody, .refused⟩
  | workRequest =>
    dsimp only
    split
    · exact ⟨custody, .refused⟩
    cases decoded : WrToken.decode record.userCtx with
    | error error => exact ⟨custody, .refused⟩
    | ok token => exact agrees.routeWorkRequest counted recvQueue kind decoded
  | flushErrorDone =>
    rcases routeFlushDone_cases tables.router record recvQueue with
      ⟨error, refused⟩ | ⟨laneId, retirement, queue, owner, found, waiting, flushed⟩
    · simp only [refused]
      exact ⟨custody, .refused⟩
    · simp only [flushed]
      exact ⟨custody, .flushed queue kind owner found waiting⟩

end Agrees

/-- The tables between two commands: they represent a custody map in which
nothing is half done, and their counters are exact. -/
structure Consistent (custody : Nat → Custody) (tables : OwnerTables) : Prop where
  agrees : Agrees custody tables
  counted : Counted tables.router
  settled : ∀ index, (custody index).settled

theorem SameTracking.deliverTo (tables : OwnerTables) (result : Result RoutedCompletion)
    (target : Option CompletionTarget) :
    SameTracking tables.router (tables.deliverTo result target).router := by
  cases target with
  | none => exact .outside _ _ _
  | some target => exact .deliver _ _ _

theorem OwnerTables.deliverTo_pool (tables : OwnerTables) (result : Result RoutedCompletion)
    (target : Option CompletionTarget) : (tables.deliverTo result target).pool = tables.pool := by
  cases target <;> rfl

variable {custody : Nat → Custody} {tables : OwnerTables}

theorem Agrees.deliverTo (agrees : Agrees custody tables) (result : Result RoutedCompletion)
    (target : Option CompletionTarget) : Agrees custody (tables.deliverTo result target) := by
  cases target with
  | none => exact agrees
  | some target => exact (SameTracking.deliver _ _ _).agrees agrees

theorem of_takeRegisteredRx_ok {router after : CompletionRouter} {laneId immData channel}
    (taken : router.takeRegisteredRx laneId immData = .ok (after, channel)) :
    router.registeredRxByIdentity.lookup (laneId, immData) = some channel ∧
      after = { router with
        registeredRxByIdentity := router.registeredRxByIdentity.erase (laneId, immData) } := by
  unfold takeRegisteredRx at taken
  split at taken
  · cases taken
  next found =>
    cases taken
    exact ⟨found, rfl⟩

namespace RecvSettled

variable {custody : Nat → Custody} {tables : OwnerTables} {token : WrToken}
  {record : CompletionRecord} {value : Custody}
  {outcome : OwnerTables × Option CompletionTarget × Result RoutedCompletion}

theorem agrees (settled : RecvSettled custody tables token record value outcome) :
    Agrees (update custody (slotIndex token.slot) value) outcome.1 := by
  cases settled with
  | unclaimed agrees | failed _ _ agrees | delivered _ _ agrees => exact agrees

theorem counted (settled : RecvSettled custody tables token record value outcome)
    (counted : Counted (tables.router.decrementOperation .recv)) : Counted outcome.1.router := by
  cases settled with
  | unclaimed => exact counted
  | failed _ taken | delivered _ taken =>
    rw [(of_takeRegisteredRx_ok taken).2]
    exact counted.congr ⟨rfl, rfl, rfl, rfl⟩ rfl

theorem value_settled (settled : RecvSettled custody tables token record value outcome) :
    value.settled := by
  cases settled <;> trivial

end RecvSettled

theorem Routed.consistent {after recvQueue record outcome}
    (routed : Routed custody tables recvQueue record after outcome)
    (consistent : Consistent custody tables) : Consistent after outcome.1 := by
  have updated : ∀ (index : Nat) (value : Custody), value.settled →
      ∀ other, (update custody index value other).settled := by
    intro index value settled other
    rw [update_apply]
    split
    · exact settled
    · exact consistent.settled other
  cases routed with
  | refused => exact consistent
  | flushed =>
    exact ⟨consistent.agrees.congr_router fun _ => rfl,
      consistent.counted.congr ⟨rfl, rfl, rfl, rfl⟩ rfl, consistent.settled⟩
  | send names operation agrees =>
    have counted := names.counted consistent.agrees consistent.counted
    rw [operation] at counted
    exact ⟨agrees.deliverTo _ _, (SameTracking.deliverTo _ _ _).counted counted,
      updated _ _ (by split <;> trivial)⟩
  | recv names operation settled =>
    have counted := names.counted consistent.agrees consistent.counted
    rw [operation] at counted
    have agrees := settled.agrees
    rw [update_idem] at agrees
    exact ⟨agrees.deliverTo _ _,
      (SameTracking.deliverTo _ _ _).counted (settled.counted counted),
      updated _ _ settled.value_settled⟩

inductive Drains (recvQueue : Bool) : (Nat → Custody) → OwnerTables → List CompletionRecord →
    (Nat → Custody) → OwnerTables → List (Result Unit) → Prop where
  | done {custody : Nat → Custody} {tables} :
      Drains recvQueue custody tables [] custody tables []
  | next {custody middle after tables between final record rest result results}
      (routed : Routed custody tables recvQueue record middle (between, result))
      (others : Drains recvQueue middle between rest after final results) :
      Drains recvQueue custody tables (record :: rest) after final (result :: results)

namespace Drains

variable {recvQueue : Bool} {custody after : Nat → Custody} {tables final : OwnerTables}
  {records : List CompletionRecord} {results : List (Result Unit)}

/-- The rule of the drain loop: what every routed record keeps, the loop keeps. -/
theorem invariant (property : (Nat → Custody) → OwnerTables → Prop)
    (kept : ∀ {custody after : Nat → Custody} {tables : OwnerTables} {record : CompletionRecord}
      {outcome : OwnerTables × Result Unit}, Consistent custody tables →
      property custody tables → Routed custody tables recvQueue record after outcome →
      property after outcome.1)
    (drained : Drains recvQueue custody tables records after final results)
    (consistent : Consistent custody tables) (holds : property custody tables) :
    Consistent after final ∧ property after final := by
  induction drained with
  | done => exact ⟨consistent, holds⟩
  | next routed _ ih =>
    exact ih (routed.consistent consistent) (kept consistent holds routed)

theorem consistent (drained : Drains recvQueue custody tables records after final results)
    (consistent : Consistent custody tables) : Consistent after final :=
  (drained.invariant (fun _ _ => True) (fun _ _ _ => trivial) consistent trivial).1

end Drains

/-- The drain loop routes every record; its error is absent when all were routed. -/
theorem Consistent.drainBatch (consistent : Consistent custody tables) (recvQueue : Bool)
    (records : List CompletionRecord) :
    ∃ after results,
      Drains recvQueue custody tables records after
        (drainBatch recvQueue records tables).1 results ∧
      ((drainBatch recvQueue records tables).2.2 = none ↔
        ∀ result ∈ results, result = .ok ()) := by
  induction records generalizing custody tables with
  | nil => exact ⟨custody, [], .done, by simp [drainBatch]⟩
  | cons record rest ih =>
    obtain ⟨middle, routed⟩ := consistent.agrees.route consistent.counted recvQueue record
    obtain ⟨after, results, drained, succeeds⟩ := ih (routed.consistent consistent)
    unfold drainBatch
    generalize route recvQueue tables record = outcome at routed drained succeeds ⊢
    obtain ⟨between, result⟩ := outcome
    refine ⟨after, result :: results, ?_, ?_⟩
    · cases result <;> exact .next routed drained
    · cases result with
      | ok => simpa using succeeds
      | error error => simp

def recordsOf (polled : Except FfiError (List CompletionRecord)) : List CompletionRecord :=
  match polled with
  | .ok records => records
  | .error _ => []

namespace OwnerTables

def readSend (tables : OwnerTables) (polled : Polled) : Except FfiError (List CompletionRecord) :=
  if tables.router.outstandingSend ≠ 0 ∨ tables.router.hasPendingFlush then
    pollInto tables.router.batch polled.send
  else
    .ok []

/-- What `poll_once` reads from the receive queue, after the send queue. -/
def readRecv (tables : OwnerTables) (polled : Polled) : Except FfiError (List CompletionRecord) :=
  if tables.router.outstandingRecv ≠ 0 then
    pollInto tables.router.batch polled.recv
  else
    .ok []

end OwnerTables

/-- One poll: the send queue is drained before the receive queue, and the poll
succeeds when both were read and every record was routed. -/
inductive Progress (custody : Nat → Custody) (tables : OwnerTables)
    (polled : Polled) : (Nat → Custody) → OwnerTables × Result Nat → Prop where
  | intro {middle after : Nat → Custody} {between final sent received result}
      (sends : Drains false custody tables (recordsOf (tables.readSend polled)) middle between sent)
      (receives : Drains true middle between (recordsOf (between.readRecv polled)) after
        final received) (succeeds : (∃ count, result = .ok count) ↔
        ((∃ records, tables.readSend polled = .ok records) ∧
          ∀ outcome ∈ sent, outcome = .ok ()) ∧
        (∃ records, between.readRecv polled = .ok records) ∧
          ∀ outcome ∈ received, outcome = .ok ()) :
      Progress custody tables polled after (final, result)

theorem Consistent.pollQueue (consistent : Consistent custody tables) (recvQueue : Bool)
    (active : Prop) [Decidable active] (polled : Except FfiError (List CompletionRecord)) :
    let read := if active then OwnerTables.pollInto tables.router.batch polled else .ok []
    let outcome := if active then tables.pollJfc recvQueue polled else (tables, .ok 0)
    ∃ after results,
      Drains recvQueue custody tables (recordsOf read) after outcome.1 results ∧
      ((∃ count, outcome.2 = .ok count) ↔
        (∃ records, read = .ok records) ∧ ∀ result ∈ results, result = .ok ()) := by
  intro read outcome
  by_cases polls : active
  · simp only [read, outcome, if_pos polls, OwnerTables.pollJfc]
    cases OwnerTables.pollInto tables.router.batch polled with
    | error error => exact ⟨custody, [], .done, by simp⟩
    | ok records =>
      obtain ⟨after, results, drained, succeeds⟩ := consistent.drainBatch recvQueue records
      dsimp only
      generalize OwnerTables.drainBatch recvQueue records tables = outcome
        at drained succeeds ⊢
      obtain ⟨final, routed, failure⟩ := outcome
      refine ⟨after, results, ?_, ?_⟩
      · cases failure <;> exact drained
      · cases failure with
        | none => simpa using succeeds
        | some error => simpa using succeeds
  · simp only [read, outcome, if_neg polls]
    exact ⟨custody, [], .done, by simp⟩

theorem Consistent.pollOnce (consistent : Consistent custody tables) (polled : OwnerTables.Polled) :
    ∃ after, Progress custody tables polled after (tables.pollOnce polled) := by
  obtain ⟨middle, sent, sends, sentOk⟩ := consistent.pollQueue false
    (tables.router.outstandingSend ≠ 0 ∨ tables.router.hasPendingFlush) polled.send
  unfold OwnerTables.pollOnce
  dsimp only at sends sentOk ⊢
  generalize (if tables.router.outstandingSend ≠ 0 ∨ tables.router.hasPendingFlush then
    tables.pollJfc false polled.send else (tables, .ok 0)) = first at sends sentOk ⊢
  obtain ⟨between, firstResult⟩ := first
  obtain ⟨after, received, receives, receivedOk⟩ :=
    (sends.consistent consistent).pollQueue true (between.router.outstandingRecv ≠ 0) polled.recv
  generalize (if between.router.outstandingRecv ≠ 0 then
    between.pollJfc true polled.recv else (between, .ok 0)) = second at receives receivedOk ⊢
  obtain ⟨final, secondResult⟩ := second
  refine ⟨after, .intro sends receives (Iff.trans ?_ (and_congr sentOk receivedOk))⟩
  cases firstResult <;> cases secondResult <;> simp

namespace Progress

variable {custody after : Nat → Custody} {tables : OwnerTables} {polled : Polled}
  {outcome : OwnerTables × Result Nat}

theorem invariant (property : (Nat → Custody) → OwnerTables → Prop)
    (kept : ∀ {recvQueue : Bool} {custody after : Nat → Custody} {tables : OwnerTables}
      {record : CompletionRecord} {outcome : OwnerTables × Result Unit},
      Consistent custody tables → property custody tables →
      Routed custody tables recvQueue record after outcome → property after outcome.1)
    (progress : Progress custody tables polled after outcome)
    (consistent : Consistent custody tables) (holds : property custody tables) :
    Consistent after outcome.1 ∧ property after outcome.1 := by
  obtain ⟨sends, receives, -⟩ := progress
  obtain ⟨consistent', holds'⟩ := sends.invariant property kept consistent holds
  exact receives.invariant property kept consistent' holds'

end Progress

/-- The custody of a slot after its waiter was woken: the provider keeps the
work request, but its completion target is gone. -/
def Custody.orphaned : Custody → Custody
  | .posted operation wr => .posted operation { wr with completion := none }
  | other => other

theorem Custody.orphaned_settled {value : Custody} (settled : value.settled) :
    value.orphaned.settled := by
  cases value <;> trivial

theorem SameLanes.orphan (router : CompletionRouter) (index : Nat) (wr : OutstandingWr) :
    SameLanes router (router.orphan index wr) :=
  ⟨⟨rfl, rfl, rfl, rfl⟩, rfl, rfl, rfl⟩

theorem Agrees.orphan (agrees : Agrees custody tables) {index operation wr}
    (posted : custody index = .posted operation wr) :
    Agrees (update custody index (custody index).orphaned)
      { tables with router := tables.router.orphan index wr } := by
  have stamped := agrees.stamped index operation wr posted
  rw [posted]
  refine agrees.retrack (by simp [posted]) (by simp [Custody.orphaned]) ?_ ?_
    (fun other => join_putOutstanding _ _ _ _) ?_
  · rw [posted]
    cases operation <;> rfl
  · rw [posted]
    cases operation <;> exact fun _ fits => fits
  · rintro _ _ ⟨⟩
    exact ⟨stamped.token, fun _ => rfl⟩

theorem Agrees.failEntry (agrees : Agrees custody tables) (error : Error) (index : Nat) :
    Agrees (update custody index (custody index).orphaned)
        { tables with router := tables.router.failEntry error index } ∧
      SameLanes tables.router (tables.router.failEntry error index) ∧
      (tables.router.failEntry error index).registeredRxByIdentity =
        tables.router.registeredRxByIdentity := by
  have tracked := agrees.tracked index
  unfold CompletionRouter.failEntry
  split
  next vacant =>
    have same : (custody index).orphaned = custody index := by
      rw [vacant] at tracked
      cases held : custody index with
      | posted operation wr =>
        rw [held] at tracked
        cases tracked
      | _ => rfl
    rw [same, update_eq_self]
    exact ⟨agrees, .refl _, rfl⟩
  next wr found =>
  rw [found] at tracked
  obtain ⟨operation, posted⟩ := Custody.wr_eq_some.mp tracked.symm
  split
  next untargeted =>
    have same : (custody index).orphaned = custody index := by
      rw [posted]
      cases wr
      cases untargeted
      rfl
    rw [same, update_eq_self]
    exact ⟨agrees, .refl _, rfl⟩
  next window targeted =>
  have frame := (SameTracking.withWindow (tables.router.orphan index wr) window
    (·.fail error)).trans (.dropReference _ window)
  exact ⟨(agrees.orphan posted).congr_router frame.outstandingAt,
    (SameLanes.orphan _ _ _).trans frame.toSameLanes, frame.registered⟩

/-- Waking every waiter keeps what the wake-up of the receives gives and the
wake-up of each send keeps. -/
theorem CompletionRouter.failPending_invariant (invariant : CompletionRouter → Prop)
    {router : CompletionRouter} (error : Error)
    (drained : invariant (emit { router with registeredRxByIdentity := ∅ }
      (router.registeredRxByIdentity.entries.map fun entry => .rx entry.2 (.error error))))
    (kept : ∀ router index, invariant router → invariant (router.failEntry error index)) :
    invariant (router.failPending error) := by
  unfold failPending
  generalize List.range router.outstanding.length = indices
  generalize emit _ _ = woken at drained ⊢
  induction indices generalizing woken with
  | nil => exact drained
  | cons index rest ih =>
    exact ih _ (kept woken index drained)

theorem Agrees.failEntries (agrees : Agrees custody tables) (counted : Counted tables.router)
    (error : Error) (indices : List Nat) :
    Agrees (fun index => if index ∈ indices then (custody index).orphaned else custody index)
        { tables with
          router := indices.foldl (CompletionRouter.failEntry error) tables.router } ∧
      Counted (indices.foldl (CompletionRouter.failEntry error) tables.router) ∧
      SameLanes tables.router (indices.foldl (CompletionRouter.failEntry error) tables.router) ∧
      (indices.foldl (CompletionRouter.failEntry error) tables.router).registeredRxByIdentity =
        tables.router.registeredRxByIdentity := by
  induction indices generalizing custody tables with
  | nil => exact ⟨by simpa using agrees, counted, .refl _, rfl⟩
  | cons first rest ih =>
    obtain ⟨agrees', lanes, registered⟩ := agrees.failEntry error first
    obtain ⟨final, counted', lanes', registered'⟩ := ih agrees' (counted.failEntry error first)
    refine ⟨?_, counted', lanes.trans lanes', registered'.trans registered⟩
    have updated : (fun index => if index ∈ rest
        then (update custody first (custody first).orphaned index).orphaned
        else update custody first (custody first).orphaned index) =
        fun index => if index ∈ first :: rest then (custody index).orphaned
          else custody index := by
      funext index
      by_cases same : index = first
      · subst same
        cases custody index <;> simp [Custody.orphaned]
      · simp [same]
    rwa [updated] at final

/-- Waking every waiter: the custody of each posted slot stays with the provider. -/
theorem Consistent.failPending (consistent : Consistent custody tables) (error : Error) :
    Consistent (fun index => (custody index).orphaned)
        { tables with router := tables.router.failPending error } ∧
      SameLanes tables.router (tables.router.failPending error) ∧
      (tables.router.failPending error).registeredRxByIdentity = ∅ := by
  have agrees : Agrees custody
      { tables with
        router := CompletionRouter.emit { tables.router with registeredRxByIdentity := ∅ }
          (tables.router.registeredRxByIdentity.entries.map
            fun entry => .rx entry.2 (.error error)) } :=
    consistent.agrees.congr_router fun _ => rfl
  obtain ⟨final, counted, lanes, registered⟩ :=
    agrees.failEntries (consistent.counted.congr ⟨rfl, rfl, rfl, rfl⟩ rfl) error
      (List.range tables.router.outstanding.length)
  refine ⟨⟨?_, counted, fun index => Custody.orphaned_settled (consistent.settled index)⟩,
    ⟨⟨lanes.total, lanes.send, lanes.recv, lanes.byLane⟩, lanes.batch, lanes.retirement,
      lanes.jetty⟩, registered⟩
  have covered : (fun index => if index ∈ List.range tables.router.outstanding.length
      then (custody index).orphaned else custody index) =
      fun index => (custody index).orphaned := by
    funext index
    split
    next => rfl
    next outside =>
      have tracked := consistent.agrees.tracked index
      rw [List.mem_range, Nat.not_lt] at outside
      rw [CompletionRouter.outstandingAt, List.getElem?_eq_none outside] at tracked
      cases held : custody index with
      | posted operation wr =>
        rw [held] at tracked
        cases tracked
      | _ => rfl
  rw [covered] at final
  exact final

end DragonflyClient.Urma
