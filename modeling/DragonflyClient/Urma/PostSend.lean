import DragonflyClient.Urma.Window

/-!
The send post path (`send_registered_window`): what each batch does to the
custody map, and the window theorem that chains the batches.

Nothing here assumes that the lease is one the pool issued: a slot is posted
only from `LeasedTx`, so even a lease that names a slot twice cannot post it
twice.
-/

namespace DragonflyClient.Urma

open Library List UrmaLane

def sendWr (window : WindowId) (pair : PendingSend × PostEntry) : SlotId × OutstandingWr :=
  (pair.1.slot, ⟨pair.2.userCtx, some pair.1.sequence, some window⟩)

def recordSends (lane : UrmaLane) (window : WindowId) (router : CompletionRouter)
    (accepted : List (PendingSend × PostEntry)) : CompletionRouter :=
  accepted.foldl (fun router pair =>
    router.recordTx (lane.token .send pair.1.slot) pair.2.userCtx pair.1.sequence window)
    router

/-- The outcome of posting messages of a window: `pairs` were accepted and are
registered, every other slot of the lease is as it was. -/
structure SendOutcome (lane : UrmaLane) (window : WindowId) (custody : Nat → Custody)
    (tables : OwnerTables) (messages : List PendingSend)
    (pairs : List (PendingSend × PostEntry)) (after : Nat → Custody)
    (pool : BufferPool) : Prop where
  accepted : pairs.map Prod.fst <+: messages
  tokens : ∀ pair ∈ pairs, pair.2.Carries lane .send pair.1.slot
  agrees : Agrees after { pool, router := recordSends lane window tables.router pairs }
  same : SamePool tables.pool pool
  other : ∀ index, custody index ≠ .leased .tx → after index = custody index
  leased : ∀ index, custody index = .leased .tx → after index = .leased .tx ∨
    ∃ pair ∈ pairs, slotIndex pair.1.slot = index
  posted : ∀ pair ∈ pairs, custody (slotIndex pair.1.slot) = .leased .tx ∧
    after (slotIndex pair.1.slot) = .posted .send (sendWr window pair).2
  current : ∀ pair ∈ pairs, tables.pool.generationAt (slotIndex pair.1.slot) =
    some pair.1.slot.generation
  distinct : (pairs.map fun pair => slotIndex pair.1.slot).Nodup

namespace SendOutcome

variable {lane : UrmaLane} {window : WindowId} {custody after final : Nat → Custody}
  {tables : OwnerTables} {batch later : List PendingSend}
  {pairs others : List (PendingSend × PostEntry)} {pool pool' : BufferPool}

theorem unchanged (agrees : Agrees custody { tables with pool }) (same : SamePool tables.pool pool)
    (messages : List PendingSend) :
    SendOutcome lane window custody tables messages [] custody pool where
  accepted := nil_prefix
  tokens := by simp
  agrees := agrees
  same := same
  other _ _ := rfl
  leased _ still := .inl still
  posted := by simp
  current := by simp
  distinct := nodup_nil

section

variable (outcome : SendOutcome lane window custody tables batch pairs after pool)
include outcome

theorem weaken : SendOutcome lane window custody tables (batch ++ later) pairs after pool :=
  { outcome with accepted := outcome.accepted.trans (prefix_append _ _) }

theorem append (complete : pairs.map Prod.fst = batch) (rest : SendOutcome lane window after
      { pool, router := recordSends lane window tables.router pairs } later others final pool') :
    SendOutcome lane window custody tables (batch ++ later) (pairs ++ others) final pool' where
  accepted := by
    rw [map_append, complete]
    exact prefix_append_right_inj _ |>.mpr rest.accepted
  tokens := by
    intro pair member
    rcases mem_append.mp member with inBatch | inLater
    · exact outcome.tokens pair inBatch
    · exact rest.tokens pair inLater
  agrees := by
    have chained : recordSends lane window tables.router (pairs ++ others) =
        recordSends lane window (recordSends lane window tables.router pairs) others :=
      foldl_append ..
    rw [chained]
    exact rest.agrees
  same := outcome.same.trans rest.same
  other := by
    intro index notLeased
    have kept := outcome.other index notLeased
    rw [rest.other index (kept ▸ notLeased), kept]
  leased := by
    intro index wasLeased
    rcases outcome.leased index wasLeased with still | ⟨pair, member, same⟩
    · rcases rest.leased index still with still | ⟨pair, member, same⟩
      · exact .inl still
      · exact .inr ⟨pair, mem_append_right _ member, same⟩
    · exact .inr ⟨pair, mem_append_left _ member, same⟩
  posted := by
    intro pair member
    rcases mem_append.mp member with inBatch | inLater
    · obtain ⟨wasLeased, nowPosted⟩ := outcome.posted pair inBatch
      refine ⟨wasLeased, ?_⟩
      rw [rest.other _ (by simp [nowPosted]), nowPosted]
    · obtain ⟨wasLeased, nowPosted⟩ := rest.posted pair inLater
      refine ⟨?_, nowPosted⟩
      by_contra notLeased
      exact notLeased (outcome.other _ notLeased ▸ wasLeased)
  current := by
    intro pair member
    rcases mem_append.mp member with inBatch | inLater
    · exact outcome.current pair inBatch
    · exact (outcome.same.generation _).symm.trans (rest.current pair inLater)
  distinct := by
    rw [map_append, nodup_append']
    refine ⟨outcome.distinct, rest.distinct, fun index early late => ?_⟩
    obtain ⟨pair, inBatch, rfl⟩ := mem_map.mp early
    obtain ⟨other, inLater, same⟩ := mem_map.mp late
    have leased := (rest.posted other inLater).1
    rw [same, (outcome.posted pair inBatch).2] at leased
    cases leased

theorem decoded {pair} (member : pair ∈ pairs) :
    WrToken.decode pair.2.userCtx = .ok (lane.token .send pair.1.slot) := by
  obtain ⟨laneId, generation, word⟩ := outcome.tokens pair member
  rw [word]
  exact outcome.agrees.decode_token _
    ⟨(outcome.same.generation _).trans (outcome.current pair member),
      (outcome.posted pair member).2⟩ (by simp) laneId generation

end

end SendOutcome

namespace Agrees

variable {custody : Nat → Custody} {tables : OwnerTables}

/-- The track loop of a send batch: every accepted message is registered under
the window without an error, every other slot goes back to its lease. -/
theorem trackSend (agrees : Agrees custody tables) {lane} (window : WindowId) {pairs} (posted : Nat)
    (firstError : Option Error)
    (all : HoldsAll custody tables.pool (pairs.map fun pair => pair.1.slot) (.marked .send))
    (tokens : ∀ pair ∈ pairs, pair.2.Carries lane .send pair.1.slot) :
    ∃ pool, trackSend window pairs posted tables firstError =
        ({ pool, router := recordSends lane window tables.router (pairs.take posted) },
          .ok firstError) ∧
      Agrees (dispatch .send (.leased .tx) (sendWr window) pairs posted custody)
        { pool, router := recordSends lane window tables.router (pairs.take posted) } ∧
      SamePool tables.pool pool := by
  induction pairs generalizing custody tables posted with
  | nil =>
    refine ⟨tables.pool, ?_, ?_, .refl _⟩
    · simp [trackSend, recordSends]
    · simpa [dispatch, recordSends] using agrees
  | cons pair rest ih =>
    obtain ⟨message, entry⟩ := pair
    obtain ⟨laneId, laneGeneration, userCtx⟩ := tokens (message, entry) mem_cons_self
    have restTokens := fun pair member => tokens pair (mem_cons_of_mem _ member)
    cases posted with
    | zero =>
      have step : (Custody.marked .send).Moves (.leased .tx) :=
        ⟨by simp, by simp, rfl, rfl, fun _ fits => fits⟩
      have rolled := agrees.transition (.leased .tx) all.head step
      obtain ⟨pool, looped, final, same⟩ := ih (agrees.move all.head.custody step) 0
        (all.tail (.setState _ _ _) (.leased .tx)) restTokens
      refine ⟨pool, ?_, final, (SamePool.setState _ _ _).trans same⟩
      rw [show (Custody.marked .send).state = SlotState.sendPosted from rfl,
        show (Custody.leased .tx).state = SlotState.leasedTx from rfl] at rolled
      simp only [trackSend, BufferPool.rollbackTxLeasePost, rolled]
      exact looped
    | succ posted =>
      obtain ⟨tracked, agrees'⟩ := agrees.trackRegisteredTx all.head laneId laneGeneration
        message.sequence window
      rw [← userCtx] at tracked agrees'
      obtain ⟨pool, looped, final, same⟩ :=
        ih agrees' posted (all.tail (.refl _) _) restTokens
      refine ⟨pool, ?_, final, same⟩
      simp only [trackSend, tracked]
      simpa [recordSends] using looped

end Agrees

namespace Prepared

variable {custody : Nat → Custody} {tables : OwnerTables} {lane : UrmaLane}

theorem rollbackSend {batch : List PendingSend} {pool entries result}
    (prepared : Prepared custody tables lane (.leased .tx) .send
      (batch.map PendingSend.slot) (pool, entries, result)) (marked : List PendingSend)
    (whole : marked = batch.take entries.length) :
    ∃ pool', rollbackSend pool marked = (pool', .ok ()) ∧
      Agrees custody { tables with pool := pool' } ∧ SamePool tables.pool pool' := by
  subst whole
  have before := prepared.before
  have marks := prepared.agrees
  simp only [← map_take] at before marks
  have step : (Custody.marked .send).Moves (.leased .tx) :=
    ⟨by simp, by simp, rfl, rfl, fun _ fits => fits⟩
  obtain ⟨pool', rolled, agrees, same⟩ :=
    marks.moveAll (before.assigned prepared.same (.marked .send)) step
  rw [assign_assign, before.assign_self] at agrees
  refine ⟨pool', ?_, agrees, prepared.same.trans same⟩
  rw [← rolled, tryEach_map]
  rfl

/-- The accepted prefix of a prepared batch is registered, the rest goes back to
its lease. -/
theorem acceptSend {batch pool entries} (prepared : Prepared custody tables lane (.leased .tx) .send
      (batch.map PendingSend.slot) (pool, entries, .ok ())) (window : WindowId) (posted : Nat)
    (firstError : Option Error) :
    ∃ pool' after,
      trackSend window (batch.zip entries) posted { tables with pool } firstError =
        ({ pool := pool'
           router := recordSends lane window tables.router
            ((batch.zip entries).take posted) }, .ok firstError) ∧
      SendOutcome lane window custody tables batch ((batch.zip entries).take posted) after
        pool' := by
  obtain ⟨full, tokens, before, marked⟩ := prepared.whole
  have firsts : (batch.zip entries).map Prod.fst = batch := map_fst_zip full.ge
  obtain ⟨pool', looped, final, same⟩ := marked.trackSend window posted firstError
    (before.assigned prepared.same (.marked .send)) tokens
  have nodup := before.distinct
  rw [map_map] at nodup
  have wasLeased : ∀ pair ∈ batch.zip entries, custody (slotIndex pair.1.slot) = .leased .tx :=
    fun pair member => (before.held _ (mem_map.mpr ⟨pair, member, rfl⟩)).custody
  have outside : ∀ index, index ∉ (batch.zip entries).map (fun pair => slotIndex pair.1.slot) →
      dispatch .send (.leased .tx) (sendWr window) (batch.zip entries) posted
        (assign custody ((batch.zip entries).map fun pair => pair.1.slot) (.marked .send)) index =
        custody index := fun index absent =>
    (dispatch_outside absent).trans (assign_of_notMem (by simpa using absent))
  exact ⟨pool', _, looped,
    { accepted := by
        rw [map_take, firsts]
        exact take_prefix _ _
      tokens := fun pair member => tokens pair (mem_of_mem_take member)
      agrees := final
      same := prepared.same.trans same
      other := by
        intro index notLeased
        refine outside index fun listed => ?_
        obtain ⟨pair, member, rfl⟩ := mem_map.mp listed
        exact notLeased (wasLeased pair member)
      leased := by
        intro index leased
        by_cases listed : index ∈ (batch.zip entries).map fun pair => slotIndex pair.1.slot
        · obtain ⟨pair, member, rfl⟩ := mem_map.mp listed
          rw [← take_append_drop posted (batch.zip entries), mem_append] at member
          rcases member with inPrefix | unposted
          · exact .inr ⟨pair, inPrefix, rfl⟩
          · exact .inl (dispatch_returned (sendWr window) nodup unposted)
        · exact .inl ((outside index listed).trans leased)
      posted := fun pair member => ⟨wasLeased pair (mem_of_mem_take member),
        dispatch_accepted (sendWr window) nodup member⟩
      current := fun pair member => (before.held _
        (mem_map.mpr ⟨pair, mem_of_mem_take member, rfl⟩)).generation
      distinct := ((take_sublist posted (batch.zip entries)).map _).nodup nodup }⟩

end Prepared

theorem consumeRemoteReceives_add (lane : UrmaLane) (first second : Nat) :
    (lane.consumeRemoteReceives first).consumeRemoteReceives second =
      lane.consumeRemoteReceives (first + second) := by
  simp [consumeRemoteReceives, Nat.sub_sub]

/-- A post call fails although it submitted the whole list: the provider names no
first unsubmitted entry. -/
def ShimPost.Overrun (shim : ShimPost) (count : Nat) : Prop :=
  shim.status ≠ 0 ∧ shim.posted = count

theorem overrun_of_postList {count shim error}
    (answer : postList count shim = .ok (count, some error)) : shim.Overrun count := by
  unfold postList at answer
  split at answer
  · cases answer
  split at answer
  · cases answer
  split at answer
  · cases answer
  obtain ⟨posted, failed⟩ := Prod.mk.inj (Except.ok.inj answer)
  refine ⟨fun success => ?_, posted⟩
  simp [success] at failed

namespace Agrees

variable {custody : Nat → Custody} {tables : OwnerTables}

/-- One batch: accepted as a whole, or the end of the window, whose posting is
then finished with the error that is returned. -/
theorem postSendBatch (agrees : Agrees custody tables) (registered : tables.pool.segment.isSome)
    (lane : UrmaLane) (window : WindowId) (shim : ShimPost) (batch : List UrmaLane.PendingSend) :
    ∃ pairs after pool, SendOutcome lane window custody tables batch pairs after pool ∧
      ((lane.postSendBatch tables window shim batch =
          { lane := lane.consumeRemoteReceives pairs.length
            tables := { pool, router := recordSends lane window tables.router pairs }
            accepted := pairs.map Prod.snd
            result := .ok () } ∧ pairs.map Prod.fst = batch) ∨
        ∃ error, lane.postSendBatch tables window shim batch =
          { lane := lane.consumeRemoteReceives pairs.length
            tables := UrmaLane.finishWindow
              { pool, router := recordSends lane window tables.router pairs } window
              (some error)
            accepted := pairs.map Prod.snd
            result := .error error } ∧
          (pairs.length = batch.length → batch = [] ∨ shim.Overrun batch.length)) := by
  have prepared := agrees.prepareSend lane batch
  obtain ⟨⟨pool, entries, result⟩, found⟩ : ∃ outcome,
      lane.prepareSend batch tables.pool = outcome := ⟨_, rfl⟩
  rw [found] at prepared
  unfold UrmaLane.postSendBatch
  simp only [found]
  cases result with
  | error error =>
    obtain ⟨pool', rolled, restored, same⟩ := prepared.rollbackSend _ rfl
    refine ⟨[], custody, pool', .unchanged restored same batch,
      .inr ⟨error, ?_, fun none => .inl (length_eq_zero_iff.mp none.symm)⟩⟩
    simp only [UrmaLane.abandonSend, rolled]
    rfl
  | ok =>
    have full : entries.length = batch.length := by simpa using prepared.complete rfl
    have segment : pool.segment.isSome := prepared.same.segment ▸ registered
    obtain ⟨length, opened⟩ := Option.isSome_iff_exists.mp segment
    simp only [BufferPool.segmentLength, opened]
    cases answer : postList entries.length shim with
    | error error =>
      obtain ⟨pool', rolled, restored, same⟩ :=
        prepared.rollbackSend batch (by simp [full])
      refine ⟨[], custody, pool', .unchanged restored same batch,
        .inr ⟨nativeError "post_jetty_send_imm_wr_list" error, ?_,
          fun none => .inl (length_eq_zero_iff.mp none.symm)⟩⟩
      simp only [UrmaLane.abandonSend, rolled]
      rfl
    | ok reply =>
      obtain ⟨posted, postError⟩ := reply
      obtain ⟨bounded, whole⟩ := of_postList_ok answer
      obtain ⟨pool', after, tracked, outcome⟩ := prepared.acceptSend window posted
        (postError.map (nativeError "post_jetty_send_wr_list"))
      have accepted : entries.take posted = ((batch.zip entries).take posted).map Prod.snd := by
        rw [map_take, map_snd_zip full.le]
      have count : ((batch.zip entries).take posted).length = posted := by
        simp only [length_take, length_zip]
        omega
      refine ⟨_, after, pool', outcome, ?_⟩
      simp only [tracked, accepted, count]
      cases postError with
      | none =>
        refine .inl ⟨rfl, ?_⟩
        rw [map_take, map_fst_zip full.ge, take_of_length_le (by rw [whole rfl, full])]
      | some error =>
        refine .inr ⟨nativeError "post_jetty_send_wr_list" error, rfl, fun all => .inr ?_⟩
        rw [← full]
        exact overrun_of_postList (by rw [answer, full.trans all.symm])

/-- The send loop: the accepted messages are a prefix of the window, all of it
when the loop returns `Ok`, and the posting of the window is finished. -/
theorem postSendBatches (agrees : Agrees custody tables)
    (registered : tables.pool.segment.isSome) (lane : UrmaLane) (window : WindowId)
    (shims : Nat → ShimPost) (groups : List (List PendingSend)) (number : Nat) :
    ∃ pairs after pool failure,
      SendOutcome lane window custody tables groups.flatten pairs after pool ∧
      postSendBatches window shims groups number lane tables =
        { lane := lane.consumeRemoteReceives pairs.length
          tables := finishWindow
            { pool, router := recordSends lane window tables.router pairs } window failure
          accepted := pairs.map Prod.snd
          result := match failure with
            | none => .ok ()
            | some error => .error error } ∧
      (failure = none → pairs.map Prod.fst = groups.flatten) ∧
      (failure ≠ none → groups ≠ [] ∧ (pairs.length = groups.flatten.length →
        groups.flatten = [] ∨ [] ∈ groups.tail ∨ ∃ place batch, groups[place]? = some batch ∧
          (shims (number + place)).Overrun batch.length)) := by
  induction groups generalizing custody tables lane number with
  | nil =>
    exact ⟨[], custody, tables.pool, none,
      .unchanged agrees (.refl _) _, rfl, fun _ => rfl,
      fun failed => absurd rfl failed⟩
  | cons batch later ih =>
    obtain ⟨pairs, after, pool, outcome, ⟨posted, complete⟩ | ⟨error, posted, cut⟩⟩ :=
      agrees.postSendBatch registered lane window (shims number) batch
    · obtain ⟨others, final, pool', failure, rest, looped, finished, cut⟩ :=
        ih outcome.agrees (outcome.same.segment ▸ registered)
          (lane.consumeRemoteReceives pairs.length) (number + 1)
      -- spending credits changes neither the lane's identity nor its tokens
      have sameTokens : SendOutcome lane window after
          { pool, router := recordSends lane window tables.router pairs } later.flatten
          others final pool' :=
        ⟨rest.accepted, rest.tokens, rest.agrees, rest.same, rest.other, rest.leased,
          rest.posted, rest.current, rest.distinct⟩
      refine ⟨pairs ++ others, final, pool', failure, outcome.append complete sameTokens, ?_,
        ?_, ?_⟩
      · simp only [postSendBatches, posted, looped]
        rw [consumeRemoteReceives_add, length_append, map_append]
        have chained : recordSends lane window tables.router (pairs ++ others) =
            recordSends (lane.consumeRemoteReceives pairs.length) window
              (recordSends lane window tables.router pairs) others :=
          foldl_append ..
        rw [chained]
      · intro ok
        rw [map_append, complete, finished ok, flatten_cons]
      · intro failed
        refine ⟨cons_ne_nil _ _, fun all => ?_⟩
        obtain ⟨more, cut⟩ := cut failed
        have same : pairs.length = batch.length := by rw [← complete, length_map]
        rw [length_append, flatten_cons, length_append, same, Nat.add_left_cancel_iff] at all
        rcases cut all with none | empty | ⟨place, group, found, overrun⟩
        · obtain ⟨next, beyond, rfl⟩ := exists_cons_of_ne_nil more
          rw [flatten_cons, append_eq_nil_iff] at none
          exact .inr (.inl (none.1 ▸ mem_cons_self))
        · exact .inr (.inl (mem_of_mem_tail empty))
        · exact .inr (.inr ⟨place + 1, group, found, by
            rwa [Nat.add_comm place, ← Nat.add_assoc]⟩)
    · refine ⟨pairs, after, pool, some error, outcome.weaken, ?_, nofun,
        fun _ => ⟨cons_ne_nil _ _, fun all => ?_⟩⟩
      · simp only [postSendBatches, posted]
      · have fits : pairs.length ≤ batch.length := by
          have shorter := outcome.accepted.length_le
          rwa [length_map] at shorter
        rw [flatten_cons, length_append] at all
        have last : later.flatten = [] := length_eq_zero_iff.mp (by omega)
        rcases cut (by omega) with empty | overrun
        · exact .inl (by rw [flatten_cons, empty, last, nil_append])
        · exact .inr (.inr ⟨0, batch, rfl, overrun⟩)

end Agrees

/-- Some post call of a window fails although it submitted its whole batch. -/
def UrmaLane.Overruns (lane : UrmaLane) (layouts : List (SlotId × Nat × Nat))
    (sequences : List UInt64) (shims : Nat → ShimPost) : Prop :=
  ∃ number batch, (batches lane.postListSize (messages layouts sequences))[number]? = some batch ∧
    (shims number).Overrun batch.length

namespace Agrees

variable {custody : Nat → Custody} {tables : OwnerTables}

/-- What sending a window does once its checks have passed: `pairs` are the
messages the provider accepted.  The lease need not be one of the pool's. -/
theorem sendRegisteredWindow (agrees : Agrees custody tables)
    (registered : tables.pool.segment.isSome) {lane lease sequences} (completion : ChannelId)
    (shims : Nat → ShimPost) {layouts}
    (checked : lane.checkSendWindow tables.pool lease sequences = .ok layouts) :
    let window := tables.router.windows.length
    let opened : OwnerTables :=
      { tables with
        router := UrmaLane.openWindow tables.router
          (TxWindowInner.new lane.id sequences lease completion) }
    ∃ pairs after pool failure,
      SendOutcome lane window custody opened (UrmaLane.messages layouts sequences) pairs after
        pool ∧
      lane.sendRegisteredWindow tables lease sequences completion shims =
        { lane := lane.consumeRemoteReceives pairs.length
          tables := UrmaLane.finishWindow
            { pool, router := recordSends lane window opened.router pairs } window failure
          accepted := pairs.map Prod.snd
          result := match failure with
            | none => .ok ()
            | some error => .error error } ∧
      (failure = none → pairs.map Prod.fst = UrmaLane.messages layouts sequences) ∧
      (failure ≠ none → pairs.length = (UrmaLane.messages layouts sequences).length →
        UrmaLane.messages layouts sequences = [] ∨ lane.Overruns layouts sequences shims) := by
  intro window opened
  have agrees' : Agrees custody opened := agrees.congr_router fun _ => rfl
  obtain ⟨pairs, after, pool, failure, outcome, posted, finished, cut⟩ :=
    agrees'.postSendBatches registered lane window shims
      (batches lane.postListSize (UrmaLane.messages layouts sequences)) 0
  rw [flatten_batches] at outcome finished cut
  refine ⟨pairs, after, pool, failure, outcome, ?_, finished, fun failed all => ?_⟩
  · simp only [UrmaLane.sendRegisteredWindow, checked]
    exact posted
  · rcases (cut failed).2 all with none | empty | ⟨number, batch, found, overrun⟩
    · exact .inl none
    · exact absurd empty (nil_notMem_tail_batches _ _)
    · exact .inr ⟨number, batch, found, by rwa [Nat.zero_add] at overrun⟩

end Agrees

end DragonflyClient.Urma
