import DragonflyClient.Urma.TxAdmission

/-!
When the owner thread sleeps (`run_owner`).

The loop waits for a command whenever no work request is outstanding, while
`poll_once` would also poll for a lane that waits for its flush record.  The two
agree as long as lanes are retired while work is outstanding and the provider
reports the flush of a lane no later than the last completion.
-/

namespace DragonflyClient.Urma

open Library CompletionRouter OwnerTables Fabric

/-- The next turn of the loop takes the `blocking_recv` branch. -/
def Fabric.Blocks (fabric : Fabric) : Prop :=
  fabric.phase = .top ∧ fabric.runtime.tables.router.outstandingTotal = 0

instance (fabric : Fabric) : Decidable fabric.Blocks :=
  inferInstanceAs (Decidable (_ ∧ _))

/-- Work is not forgotten and, unless a lane was retired, none begins to wait
for its flush record. -/
structure Attends (retires : Prop) (router after : CompletionRouter) : Prop where
  total : router.outstandingTotal ≤ after.outstandingTotal
  pending : ¬ retires → router.hasPendingFlush = false → after.hasPendingFlush = false

namespace Attends

variable {retires : Prop} {router middle after : CompletionRouter}

theorem tracking (same : SameTracking router after) : Attends retires router after where
  total := same.total.ge
  pending _ quiet := by rwa [hasPendingFlush, same.retirement]

@[refl]
theorem refl (router : CompletionRouter) : Attends retires router router :=
  ⟨le_rfl, fun _ quiet => quiet⟩

theorem trans (left : Attends retires router middle) (right : Attends retires middle after) :
    Attends retires router after where
  total := left.total.trans right.total
  pending spared quiet := right.pending spared (left.pending spared quiet)

theorem weaken {other : Prop} (attends : Attends retires router after) (weaker : retires → other) :
    Attends other router after :=
  ⟨attends.total, fun spared => attends.pending fun retired => spared (weaker retired)⟩

theorem recordRecvs (lane : UrmaLane) (router : CompletionRouter)
    (pairs : List (PendingRecv × PostEntry)) :
    Attends retires router (recordRecvs lane router pairs) := by
  induction pairs generalizing router with
  | nil => rfl
  | cons pair rest ih =>
    refine .trans ?_ (ih _)
    exact ⟨Nat.le_succ _, fun _ quiet => quiet⟩

theorem recordSends (lane : UrmaLane) (window : WindowId) (router : CompletionRouter)
    (pairs : List (UrmaLane.PendingSend × PostEntry)) :
    Attends retires router (recordSends lane window router pairs) := by
  induction pairs generalizing router with
  | nil => rfl
  | cons pair rest ih =>
    refine .trans ?_ (ih _)
    exact ⟨Nat.le_succ _, fun _ quiet => quiet⟩

end Attends

/-- The record reports that the flush of the lane is done. -/
def CompletionRouter.flushes (router : CompletionRouter) (laneId : UInt16)
    (record : CompletionRecord) : Bool :=
  record.eventKind = .flushErrorDone ∧ router.laneByJettyId.lookup record.localId = some laneId

/-- Some lane waits for its flush record, and none of the records is it. -/
def CompletionRouter.missesFlush (router : CompletionRouter) (records : List CompletionRecord) :
    Bool :=
  Table.anyEntry router.retirementByLane fun laneId retirement =>
    retirement.waitingForFlush && !retirement.flushDone && !records.any (router.flushes laneId)

def workRequests (records : List CompletionRecord) : Nat :=
  records.countP fun record => record.eventKind = .workRequest

theorem workRequests_append (first second : List CompletionRecord) :
    workRequests (first ++ second) = workRequests first + workRequests second :=
  List.countP_append

theorem missesFlush_nil (router : CompletionRouter) :
    router.missesFlush [] = router.hasPendingFlush := by
  simp [missesFlush, hasPendingFlush]

theorem missesFlush_congr {router after : CompletionRouter}
    (retirement : after.retirementByLane = router.retirementByLane)
    (jetty : after.laneByJettyId = router.laneByJettyId) (records : List CompletionRecord) :
    after.missesFlush records = router.missesFlush records := by
  unfold missesFlush flushes
  rw [retirement, jetty]

section Polls

variable {custody after : Nat → Custody} {tables final : OwnerTables} {recvQueue : Bool}
  {record : CompletionRecord} {records : List CompletionRecord}

theorem workRequests_of_kind (kind : record.eventKind = .workRequest) :
    workRequests [record] = 1 := by
  simp [workRequests, kind]

theorem RecvSettled.lanes {token value outcome}
    (settled : RecvSettled custody tables token record value outcome) :
    outcome.1.router.outstandingTotal = tables.router.outstandingTotal ∧
      outcome.1.router.laneByJettyId = tables.router.laneByJettyId ∧
      outcome.1.router.retirementByLane = tables.router.retirementByLane := by
  cases settled with
  | unclaimed => exact ⟨rfl, rfl, rfl⟩
  | failed _ taken | delivered _ taken =>
    rw [(of_takeRegisteredRx_ok taken).2]
    exact ⟨rfl, rfl, rfl⟩

/-- A record takes at most one work request off, and then is the record of one; only a flush
record on the send queue changes a retirement. -/
theorem Routed.reports {outcome} (routed : Routed custody tables recvQueue record after outcome) :
    tables.router.outstandingTotal ≤
      outcome.1.router.outstandingTotal + workRequests [record] ∧
    outcome.1.router.laneByJettyId = tables.router.laneByJettyId ∧
    (outcome.1.router.retirementByLane = tables.router.retirementByLane ∨
      recvQueue = false ∧ record.eventKind = .flushErrorDone) := by
  cases routed with
  | refused => exact ⟨Nat.le_add_right _ _, rfl, .inl rfl⟩
  | flushed queue kind => exact ⟨Nat.le_add_right _ _, rfl, .inr ⟨queue, kind⟩⟩
  | send names operation =>
    have same := SameTracking.deliverTo
    refine ⟨?_, (same _ _ _).jetty, .inl (same _ _ _).retirement⟩
    rw [(same _ _ _).total, workRequests_of_kind names.workRequest]
    exact le_tsub_add
  | recv names operation settled =>
    have same := SameTracking.deliverTo
    obtain ⟨total, jetty, retirement⟩ := settled.lanes
    refine ⟨?_, (same _ _ _).jetty.trans jetty, .inl ((same _ _ _).retirement.trans retirement)⟩
    rw [(same _ _ _).total, total, workRequests_of_kind names.workRequest]
    exact le_tsub_add

theorem drainBatch_cons (rest : List CompletionRecord) :
    (drainBatch recvQueue (record :: rest) tables).1 =
      (drainBatch recvQueue rest (route recvQueue tables record).1).1 := by
  simp only [drainBatch]
  split <;> rfl

theorem missesFlush_route (consistent : Consistent custody tables)
    (missed : (route false tables record).1.router.missesFlush records = true) :
    tables.router.missesFlush (record :: records) = true := by
  by_cases kind : record.eventKind = .flushErrorDone
  · simp only [route, kind] at missed
    simp only [missesFlush, Table.anyEntry_iff, Bool.and_eq_true, Bool.not_eq_true', List.any_cons,
      Bool.or_eq_false_iff] at missed ⊢
    rcases routeFlushDone_cases tables.router record false with
      ⟨error, refused⟩ | ⟨laneId, retirement, -, owner, found, waiting, flushed⟩
    · rw [refused] at missed
      obtain ⟨laneId, retirement, found, ⟨waiting, undone⟩, missing⟩ := missed
      refine ⟨laneId, retirement, found, ⟨waiting, undone⟩, ?_, missing⟩
      by_contra flushes
      have owner : tables.router.laneByJettyId.lookup record.localId = some laneId := by
        simpa [CompletionRouter.flushes, kind] using flushes
      simp [CompletionRouter.routeFlushDone, owner, found, waiting] at refused
    · rw [flushed] at missed
      obtain ⟨other, value, held, ⟨waits, undone⟩, missing⟩ := missed
      simp only [CompletionRouter.markFlushed, Table.lookup_insert_eq] at held
      split at held
      · cases held
        cases undone
      next different =>
        refine ⟨other, value, held, ⟨waits, undone⟩, ?_, missing⟩
        have elsewhere : some laneId ≠ some other := fun same =>
          different (Option.some.inj same).symm
        simp [CompletionRouter.flushes, owner, elsewhere]
  · obtain ⟨middle, routed⟩ := consistent.agrees.route consistent.counted false record
    obtain ⟨-, jetty, retirement⟩ := routed.reports
    rw [missesFlush_congr (retirement.resolve_right fun flush => kind flush.2) jetty] at missed
    simpa [missesFlush, CompletionRouter.flushes, kind] using missed

/-- A lane that waits after the send queue was drained had no flush record there. -/
theorem missesFlush_drainBatch (consistent : Consistent custody tables)
    (missed : (drainBatch false records tables).1.router.hasPendingFlush = true) :
    tables.router.missesFlush records = true := by
  induction records generalizing custody tables with
  | nil => rwa [missesFlush_nil]
  | cons record rest ih =>
    obtain ⟨middle, routed⟩ := consistent.agrees.route consistent.counted false record
    apply missesFlush_route consistent
    apply ih (routed.consistent consistent)
    rwa [drainBatch_cons] at missed

/-- A drained queue takes at most its work requests off, and the receive queue retires no
lane. -/
theorem drainBatch_reports (consistent : Consistent custody tables) (recvQueue : Bool)
    (records : List CompletionRecord) :
    tables.router.outstandingTotal ≤
      (drainBatch recvQueue records tables).1.router.outstandingTotal +
        workRequests records ∧
    (recvQueue = true → (drainBatch recvQueue records tables).1.router.retirementByLane =
      tables.router.retirementByLane) := by
  induction records generalizing custody tables with
  | nil => exact ⟨Nat.le_refl _, fun _ => rfl⟩
  | cons record rest ih =>
    obtain ⟨middle, routed⟩ := consistent.agrees.route consistent.counted recvQueue record
    obtain ⟨total, retirement⟩ := ih (routed.consistent consistent)
    obtain ⟨first, -, kept⟩ := routed.reports
    have split : workRequests (record :: rest) = workRequests [record] + workRequests rest :=
      workRequests_append [record] rest
    rw [drainBatch_cons, split]
    refine ⟨by omega, fun queue => (retirement queue).trans (kept.resolve_right ?_)⟩
    rintro ⟨other, -⟩
    cases queue.symm.trans other

theorem pollJfc_tables (tables : OwnerTables) (recvQueue : Bool)
    (polled : Except FfiError (List CompletionRecord)) :
    (tables.pollJfc recvQueue polled).1 = (drainBatch recvQueue
      (recordsOf (pollInto tables.router.batch polled)) tables).1 := by
  unfold pollJfc
  split
  next failed => rw [failed]; rfl
  next read =>
    rw [read]
    split <;> simp_all [recordsOf]

theorem pollOnce_tables (tables : OwnerTables) (polled : Polled) :
    (tables.pollOnce polled).1 =
      let sent := (drainBatch false (recordsOf (tables.readSend polled)) tables).1
      (drainBatch true (recordsOf (sent.readRecv polled)) sent).1 := by
  have sent : (if tables.router.outstandingSend ≠ 0 ∨ tables.router.hasPendingFlush then
      tables.pollJfc false polled.send else (tables, .ok 0)).1 =
      (drainBatch false (recordsOf (tables.readSend polled)) tables).1 := by
    unfold readSend
    split
    · exact pollJfc_tables tables false polled.send
    · rfl
  unfold pollOnce
  dsimp only
  rw [sent]
  unfold readRecv
  split
  · exact pollJfc_tables _ true polled.recv
  · rfl

theorem workRequests_readRecv (tables : OwnerTables) (polled : Polled) :
    workRequests (recordsOf (tables.readRecv polled)) ≤ workRequests (recordsOf polled.recv) := by
  unfold readRecv pollInto
  split
  · cases polled.recv with
    | error error => exact Nat.le_refl _
    | ok records =>
      dsimp only
      split
      · exact Nat.zero_le _
      · exact Nat.le_refl _
  · exact Nat.zero_le _

/-- A poll that leaves no work outstanding has read as many work requests, and one that leaves
a lane waiting has not read its flush record. -/
theorem pollOnce_reports (consistent : Consistent custody tables) (polled : Polled) :
    tables.router.outstandingTotal ≤ (tables.pollOnce polled).1.router.outstandingTotal +
      workRequests (recordsOf (tables.readSend polled) ++ recordsOf polled.recv) ∧
    ((tables.pollOnce polled).1.router.hasPendingFlush = true →
      tables.router.missesFlush (recordsOf (tables.readSend polled)) = true) := by
  obtain ⟨middle, results, drained, -⟩ :=
    consistent.drainBatch false (recordsOf (tables.readSend polled))
  obtain ⟨sends, -⟩ :=
    drainBatch_reports consistent false (recordsOf (tables.readSend polled))
  rw [pollOnce_tables]
  dsimp only
  generalize sent : (drainBatch false (recordsOf (tables.readSend polled)) tables).1 =
    between at drained sends ⊢
  obtain ⟨receives, retirement⟩ := drainBatch_reports (drained.consistent consistent) true
    (recordsOf (between.readRecv polled))
  have read := workRequests_readRecv between polled
  refine ⟨?_, fun pending => ?_⟩
  · rw [workRequests_append]
    omega
  · rw [hasPendingFlush, retirement rfl, ← hasPendingFlush,
      ← sent] at pending
    exact missesFlush_drainBatch consistent pending

end Polls

namespace UrmaRuntime

variable {runtime : UrmaRuntime} {retires : Prop}

theorem attends_reapLane (runtime : UrmaRuntime) (teardown : UInt16 → JettyTeardown)
    (laneId : UInt16) :
    Attends retires runtime.tables.router (runtime.reapLane teardown laneId).1.tables.router := by
  unfold reapLane
  split
  · rfl
  split
  · rfl
  dsimp only
  split
  · rfl
  next unregistered =>
    obtain ⟨-, retirement, -, rfl⟩ := of_unregisterLane_ok unregistered
    refine ⟨le_rfl, fun _ quiet => ?_⟩
    rw [hasPendingFlush, Table.anyEntry_eq_false_iff] at quiet ⊢
    intro other value found
    simp only [without, Table.lookup_erase_eq] at found
    split at found
    · cases found
    · exact quiet other value found

theorem attends_reapDrainedLanes (runtime : UrmaRuntime) (input : ReapInput) :
    Attends retires runtime.tables.router (runtime.reapDrainedLanes input).1.tables.router :=
  tryEach_invariant
    (fun reaped : UrmaRuntime => Attends retires runtime.tables.router reaped.tables.router)
    (fun reaped laneId _ attends => attends.trans (attends_reapLane reaped _ laneId)) (.refl _)

theorem reapDrainedLanes_quiet (input : ReapInput)
    (quiet : runtime.tables.router.outstandingTotal = 0 →
      runtime.tables.router.hasPendingFlush = false)
    (idle : (runtime.reapDrainedLanes input).1.tables.router.outstandingTotal = 0) :
    (runtime.reapDrainedLanes input).1.tables.router.hasPendingFlush = false := by
  have attends : Attends False runtime.tables.router _ := attends_reapDrainedLanes runtime input
  exact attends.pending not_false (quiet (Nat.le_zero.mp (idle ▸ attends.total)))

/-- A poll that reads the last completions together with the flush records of the lanes that
wait leaves none waiting. -/
theorem pollOnce_quiet (sound : Sound runtime.tables) (input : PollInput)
    (reported : runtime.tables.router.outstandingTotal ≤
        workRequests (recordsOf (runtime.tables.readSend input.polled) ++
          recordsOf input.polled.recv) →
      runtime.tables.router.missesFlush
        (recordsOf (runtime.tables.readSend input.polled)) = false)
    (idle : (runtime.pollOnce input).1.tables.router.outstandingTotal = 0) :
    (runtime.pollOnce input).1.tables.router.hasPendingFlush = false := by
  obtain ⟨custody, consistent⟩ := sound.consistent
  obtain ⟨total, missed⟩ := pollOnce_reports consistent input.polled
  obtain ⟨after, later⟩ := (sound.pollOnce input.polled).consistent
  have quiet : (runtime.tables.pollOnce input.polled).1.router.outstandingTotal = 0 →
      (runtime.tables.pollOnce input.polled).1.router.hasPendingFlush = false := by
    intro none
    by_contra pending
    have miss := missed ((Bool.not_eq_false _).mp pending)
    rw [reported (by omega)] at miss
    cases miss
  unfold pollOnce at idle ⊢
  generalize runtime.tables.pollOnce input.polled = progress at idle later quiet ⊢
  obtain ⟨tables, result⟩ := progress
  cases result with
  | ok => exact reapDrainedLanes_quiet input.reap quiet idle
  | error error =>
    have lanes := (later.failPending error).2.1
    refine reapDrainedLanes_quiet input.reap (fun none => ?_) idle
    rw [hasPendingFlush, lanes.retirement]
    exact quiet (lanes.total.symm.trans none)

theorem attends_abortLane (runtime : UrmaRuntime) (laneId : UInt16)
    (marked : Except FfiError Unit) (input : ReapInput) :
    Attends (laneId ∈ runtime.tables.router.retirementByLane) runtime.tables.router
      (runtime.abortLane laneId marked input).1.tables.router := by
  unfold abortLane beginLaneRetirement
  split
  · rfl
  next router begun =>
    split at begun
    · cases begun
    next retirement found =>
    cases begun
    have registered : laneId ∈ runtime.tables.router.retirementByLane :=
      Table.mem_iff_lookup.mpr ⟨retirement, found⟩
    have reaped : ∀ middle : UrmaRuntime,
        middle.tables.router.outstandingTotal = runtime.tables.router.outstandingTotal →
        Attends (laneId ∈ runtime.tables.router.retirementByLane) runtime.tables.router
          (middle.reapDrainedLanes input).1.tables.router := by
      intro middle same
      have reaped : Attends False middle.tables.router _ := attends_reapDrainedLanes middle input
      exact ⟨same ▸ reaped.total, fun spared => absurd registered spared⟩
    dsimp only
    split
    · exact ⟨le_rfl, fun spared => absurd registered spared⟩
    split
    · exact ⟨le_rfl, fun spared => absurd registered spared⟩
    · exact reaped _ rfl

theorem attends_createLane (runtime : UrmaRuntime) (config : JettyConfig) (input : CreateInput) :
    Attends retires runtime.tables.router (runtime.createLane config input).1.tables.router := by
  unfold createLane
  split
  · rfl
  split
  · rfl
  dsimp only
  split
  · rfl
  split
  · rfl
  split
  · rfl
  next registered =>
    unfold registerLane at registered
    split at registered
    · cases registered
    split at registered
    · cases registered
    cases registered
    refine ⟨le_rfl, fun _ quiet => ?_⟩
    rw [hasPendingFlush, Table.anyEntry_eq_false_iff] at quiet ⊢
    intro other value found
    rw [Table.lookup_insert_eq] at found
    split at found
    · cases found
      rfl
    · exact quiet other value found

theorem attends_bindLane (runtime : UrmaRuntime) (laneId : UInt16) (descriptor : JettyDescriptor)
    (imported bound : Except FfiError Unit) :
    Attends retires runtime.tables.router
      (runtime.bindLane laneId descriptor imported bound).1.tables.router := by
  unfold bindLane
  split
  · rfl
  split
  · rfl
  split <;> rfl

theorem attends_grantSendCredit (runtime : UrmaRuntime) (laneId : UInt16) (count : Nat) :
    Attends retires runtime.tables.router
      (runtime.grantSendCredit laneId count).1.tables.router := by
  unfold grantSendCredit
  split
  · rfl
  split <;> rfl

theorem attends_postReceiveWindowRegistered (sound : Sound runtime.tables) (laneId : UInt16)
    (sequences : List UInt64) (completionTxs : List ChannelId) (shims : Nat → ShimPost) :
    Attends retires runtime.tables.router
      (runtime.postReceiveWindowRegistered laneId sequences completionTxs
        shims).runtime.tables.router := by
  unfold postReceiveWindowRegistered
  split
  · rfl
  next lane _ =>
    obtain ⟨custody, agrees, -, -⟩ := sound.consistent
    obtain ⟨pairs, after, outcome⟩ :=
      agrees.postReceiveWindowRegistered sound.segment lane sequences completionTxs shims
    rw [outcome.router]
    exact .recordRecvs _ _ _

theorem attends_sendRegisteredWindow (sound : Sound runtime.tables) (laneId : UInt16)
    (lease : TxWindowLease) (sequences : List UInt64) (completion : ChannelId)
    (shims : Nat → ShimPost) :
    Attends retires runtime.tables.router
      (runtime.sendRegisteredWindow laneId lease sequences completion
        shims).runtime.tables.router := by
  unfold sendRegisteredWindow
  split
  · exact .tracking (.emit _ _)
  next lane _ =>
    obtain ⟨custody, agrees, -, -⟩ := sound.consistent
    cases checked : lane.checkSendWindow runtime.tables.pool lease sequences with
    | error error =>
      simp only [UrmaLane.sendRegisteredWindow, checked]
      exact .tracking (.emit _ _)
    | ok layouts =>
      obtain ⟨pairs, after, pool, failure, -, sent, -⟩ :=
        agrees.sendRegisteredWindow sound.segment completion shims checked
      rw [sent]
      refine .trans ?_ (.tracking (SameTracking.finishWindow _ _ _))
      exact .trans (.tracking (.openWindow _ _)) (.recordSends lane _ _ pairs)

end UrmaRuntime

namespace FabricCommand

/-- The command takes a registered lane out of service. -/
def retires (runtime : UrmaRuntime) (input : OwnerInput) : FabricCommand → Bool
  | .closeLane laneId | .abortLane laneId =>
    decide (laneId ∈ runtime.tables.router.retirementByLane)
  | .createLane config =>
    match (runtime.createLane config input.create).2 with
    | .error _ => false
    | .ok (_, descriptor) => !descriptor.serialize.isOk
  | _ => false

variable {runtime : UrmaRuntime} {poisoned : Option String} {input : OwnerInput}

theorem attends_handleCreateLane (poisoned : Option String) (input : OwnerInput)
    (runtime : UrmaRuntime) (config : JettyConfig) :
    Attends ((createLane config).retires runtime input = true) runtime.tables.router
      (handleCreateLane poisoned input runtime config).runtime.tables.router := by
  have created : Attends ((createLane config).retires runtime input = true)
      runtime.tables.router _ := runtime.attends_createLane config input.create
  unfold handleCreateLane
  split
  · rfl
  split
  next made =>
    rw [made] at created
    exact created
  next laneId descriptor made =>
    split
    · rw [made] at created
      exact created
    next failed =>
      -- the descriptor cannot be sent: the new lane is closed at once
      have retired : (createLane config).retires runtime input = true := by
        simp [retires, made, failed, Except.isOk, Except.toBool]
      rw [made] at created
      refine ⟨created.total.trans ?_, fun spared => absurd retired spared⟩
      exact (UrmaRuntime.attends_abortLane _ laneId input.marked input.reap).total

/-- A command never lowers the number of outstanding work requests, and makes a
lane wait only by retiring it. -/
theorem attends_handleCommand (sound : Sound runtime.tables) {command handled}
    (continued : handleCommand poisoned input runtime command = .continued handled) :
    Attends (command.retires runtime input = true) runtime.tables.router
      handled.runtime.tables.router := by
  cases command with
  | createLane config =>
    cases continued
    exact attends_handleCreateLane poisoned input runtime config
  | bindLane laneId descriptor =>
    cases continued
    unfold handleBindLane
    split
    · rfl
    split
    · rfl
    · exact runtime.attends_bindLane _ _ _ _
  | postReceiveWindowRegistered laneId sequences completionTxs =>
    cases continued
    split
    · rfl
    · exact UrmaRuntime.attends_postReceiveWindowRegistered sound _ _ _ _
  | grantSendCredit laneId count =>
    cases continued
    split
    · rfl
    · exact runtime.attends_grantSendCredit _ _
  | acquireTxWindow | acquireTxWindowChunks =>
    cases continued
    unfold acquire UrmaRuntime.acquireTxWindowChunks
    split
    · rfl
    split
    next acquired =>
      rw [← (Prod.mk.inj acquired).1]
      rfl
    next acquired =>
      rw [← (Prod.mk.inj acquired).1]
      rfl
  | recycleTxWindow lease =>
    cases continued
    exact .tracking (.emit _ _)
  | recycleRxWindow lease =>
    cases continued
    exact .tracking (.emit _ _)
  | sendRegisteredWindow laneId lease sequences completion =>
    cases continued
    unfold handleSend
    split
    · exact .tracking (.emit _ _)
    · exact UrmaRuntime.attends_sendRegisteredWindow sound _ _ _ _ _
  | closeLane laneId | abortLane laneId =>
    cases continued
    exact (runtime.attends_abortLane laneId _ _).weaken fun registered => decide_eq_true registered
  | recycleLease recycle =>
    cases continued
    rfl
  | shutdown => cases continued

end FabricCommand

namespace Fabric

/-- A command retires a lane only while some work request is outstanding, and the provider
reports the flush of a lane in time: a poll that reads as many work requests as are
outstanding also reads the flush record of each lane that waits. -/
def Attended (fabric : Fabric) : FabricAction → Prop
  | .handle input => ∀ command ∈ fabric.commands.head?,
      command.retires fabric.runtime input = true →
      fabric.runtime.tables.router.outstandingTotal ≠ 0
  | .poll input =>
    let sends := recordsOf (fabric.runtime.tables.readSend input.polled)
    fabric.runtime.tables.router.outstandingTotal ≤
        workRequests (sends ++ recordsOf input.polled.recv) →
      fabric.runtime.tables.router.missesFlush sends = false
  | _ => True

/-- Before `finish_owner`, an idle router has no lane that waits. -/
def Quiet (fabric : Fabric) : Prop :=
  fabric.phase.finishes = false →
    fabric.runtime.tables.router.outstandingTotal = 0 →
    fabric.runtime.tables.router.hasPendingFlush = false

variable {fabric after : Fabric} {slots : Nat}

theorem Quiet.handle (quiet : fabric.Quiet) (balanced : Balanced slots fabric) {input phase}
    (attended : fabric.Attended (.handle input)) (running : fabric.phase.finishes = false)
    (handled : fabric.handle input phase = some after) : after.Quiet := by
  obtain ⟨leased, stocked, -⟩ := balanced.account
  unfold Fabric.handle at handled
  split at handled
  · cases handled
  next command rest queued =>
  split at handled
  · cases handled
    exact fun elsewhere => nomatch elsewhere
  next outcome continued =>
    cases handled
    have attends := FabricCommand.attends_handleCommand stocked.sound continued
    intro _ idle
    have idleBefore : fabric.runtime.tables.router.outstandingTotal = 0 :=
      Nat.le_zero.mp (idle ▸ attends.total)
    refine attends.pending (fun retired => ?_) (quiet running idleBefore)
    exact attended command (by simp [queued]) retired idleBefore

theorem Quiet.act (quiet : fabric.Quiet) (balanced : Balanced slots fabric) {action}
    (attended : fabric.Attended action) (step : fabric.Step action after) : after.Quiet := by
  rcases step.owner_or_task with owner | ⟨runtime, -, phase⟩
  · cases owner with
    | handle running later handled => exact quiet.handle balanced attended running handled
    | move running later => exact fun _ => quiet running
    | poll =>
      obtain ⟨leased, stocked, -⟩ := balanced.account
      exact fun _ => UrmaRuntime.pollOnce_quiet stocked.sound _ attended
    | abortNext => exact fun running => nomatch running
    | drain phase =>
      intro running
      simp only [drain, settle, phase] at running
      cases running
  · intro running idle
    rw [phase] at running
    rw [runtime] at idle ⊢
    exact quiet running idle

theorem router_start {config capability poolId}
    (started : start config capability poolId = .ok fabric) :
    ∃ router, new 16 = .ok router ∧ fabric.runtime.tables.router = router := by
  unfold start at started
  split at started
  · cases started
  next runtime returned =>
  cases started
  obtain ⟨totalLen, router, -, created, tables, -⟩ := UrmaRuntime.of_start_ok returned
  exact ⟨router, created, by rw [tables]⟩

/-- In every run that retires lanes only while work is outstanding and polls their
flush records in time, the owner never sleeps on a lane that waits. -/
theorem awake_while_flush_pending {fabric : Fabric}
    (reached : Reachable Started (Guarded Step Attended) fabric) (blocks : fabric.Blocks) :
    fabric.runtime.tables.router.hasPendingFlush = false := by
  have invariant : (∃ slots, Balanced slots fabric) ∧ fabric.Quiet := by
    refine Reachable.invariant (fun fabric => (∃ slots, Balanced slots fabric) ∧ fabric.Quiet)
      ?_ ?_ reached
    · rintro initial ⟨config, capability, poolId, started⟩
      refine ⟨⟨_, balanced_start started⟩, fun _ _ => ?_⟩
      obtain ⟨router, created, tables⟩ := router_start started
      obtain ⟨-, -, -, -, -, -, retirement, -⟩ := of_new_ok created
      rw [tables, hasPendingFlush, retirement]
      rfl
    · rintro fabric action after ⟨⟨slots, balanced⟩, quiet⟩ ⟨step, attended⟩
      exact ⟨⟨slots, balanced.act step⟩, quiet.act balanced attended step⟩
  exact invariant.2 (by simp [blocks.1, OwnerPhase.finishes]) blocks.2

instance (fabric : Fabric) (action : FabricAction) : Decidable (fabric.Attended action) :=
  match action with
  | .handle _ => inferInstanceAs (Decidable (∀ command ∈ fabric.commands.head?, _))
  | .poll _ => inferInstanceAs (Decidable (_ → _))
  | .submit _ | .acquireTxSlotPermit _ | .dropPermit _ | .acquireTxWindow _
  | .acquireTxWindowChunks _ | .sendRegisteredWindow _ _ _ _ | .recycleTxWindow _
  | .recycleRxWindow _ | .dropTxWindow _ | .dropRxWindow _ | .reshape _ _ | .merge _
  | .withPipelinePermit _ | .beginTick | .endTick | .abortNext _ _ _ | .drain _ => .isTrue trivial

def attend (fabric : Fabric) (action : FabricAction) : Option Fabric :=
  if fabric.Attended action then fabric.act action else none

end Fabric

namespace Small

def descriptorBytes : List UInt8 :=
  [0, 1, 0, 0, 0, 0, 0, 0, 0, 0, 0, 0, 0, 9, 0, 0, 0, 1, 0]

def receive : List FabricAction :=
  [.submit (.createLane jetty), .handle ownerInput, .submit (.bindLane 1 descriptorBytes),
    .handle ownerInput, .submit (.postReceiveWindowRegistered 1 [5] [0]), .handle ownerInput]

def received : CompletionRecord where
  opcode := crOpcodeSendWithImm
  userCtx := WrToken.word { laneId := 1, generation := 1, operation := .recv, slot := ⟨1, 1⟩ }
  immData := 5
  completionLen := 8
  localId := 9
  isRecv := true
  isJetty := true
  userCtxValid := true
  immDataValid := true

def flushDone : CompletionRecord where
  status := 13
  localId := 9
  isJetty := true
  eventKind := .flushErrorDone

def abortInTime : List FabricAction :=
  receive ++ [.submit (.abortLane 1), .beginTick, .handle ownerInput, .endTick,
    .poll { polled := { send := .ok [flushDone], recv := .ok [received] }
            reap := ownerInput.reap }]

def closeIdle : List FabricAction :=
  [.submit (.createLane jetty), .handle ownerInput, .submit (.closeLane 1), .handle ownerInput]

end Small

theorem Fabric.awake_abort_in_time :
    ∃ fabric, perform attend Small.fabric Small.abortInTime = some fabric ∧
      fabric.Blocks ∧ fabric.runtime.lanes.entries = [] ∧
      fabric.runtime.tables.router.hasPendingFlush = false := by
  obtain ⟨fabric, performed, blocks, gone⟩ :
      ∃ fabric, perform attend Small.fabric Small.abortInTime = some fabric ∧
        fabric.Blocks ∧ fabric.runtime.lanes.entries = [] :=
    exists_perform (by decide +kernel)
  have reached : Reachable Started (Guarded Step Attended) fabric := by
    refine Reachable.perform (.start ⟨Small.config, Small.capability, 0, rfl⟩) ?_ performed
    intro action _ before after moved
    simp only [attend, Option.ite_none_right_eq_some] at moved
    exact ⟨moved.2, moved.1⟩
  exact ⟨fabric, performed, blocks, gone, awake_while_flush_pending reached blocks⟩

/-- After an idle lane was closed the owner sleeps although the lane waits: it
does not poll for the flush record until a command wakes it. -/
theorem Fabric.sleeps_after_idle_close :
    ∃ fabric, Reachable Started Step fabric ∧ fabric.Blocks ∧
      fabric.runtime.tables.router.hasPendingFlush = true ∧ fabric.commands = [] ∧
      ∀ action, fabric.ownerAct action = none := by
  obtain ⟨fabric, performed, ⟨top, idle⟩, waiting, empty⟩ :
      ∃ fabric, perform act Small.fabric Small.closeIdle = some fabric ∧
        fabric.Blocks ∧ fabric.runtime.tables.router.hasPendingFlush = true ∧
        fabric.commands = [] :=
    exists_perform (by decide +kernel)
  have reached : Reachable Started Step fabric :=
    Reachable.perform (.start ⟨Small.config, Small.capability, 0, rfl⟩)
      (fun _ _ _ _ moved => moved) performed
  refine ⟨fabric, reached, ⟨top, idle⟩, waiting, empty, fun action => ?_⟩
  cases action <;> simp [ownerAct, handle, top, idle, empty]

end DragonflyClient.Urma
