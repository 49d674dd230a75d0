import DragonflyClient.Urma.Window

/-!
The receive post path (`post_receive_window_registered`): what each batch does
to the custody map, and the window theorem that chains the batches.
-/

namespace DragonflyClient.Urma

open Library List PendingRecv UrmaLane
open Prod hiding map_map

def recvWr (pair : PendingRecv × PostEntry) : SlotId × OutstandingWr :=
  (pair.1.slot, ⟨pair.2.userCtx, some pair.1.sequence, none⟩)

def recordRecvs (lane : UrmaLane) (router : CompletionRouter)
    (accepted : List (PendingRecv × PostEntry)) : CompletionRouter :=
  accepted.foldl (fun router pair =>
    router.recordRx (lane.token .recv pair.1.slot) pair.2.userCtx pair.1.sequence
      pair.1.completion) router

theorem mem_registered_recordRecvs {lane router accepted key} :
    key ∈ (recordRecvs lane router accepted).registeredRxByIdentity ↔
      (∃ pair ∈ accepted, key = (lane.id, pair.1.sequence)) ∨
        key ∈ router.registeredRxByIdentity := by
  induction accepted generalizing router with
  | nil => simp [recordRecvs]
  | cons pair rest ih =>
    rw [show recordRecvs lane router (pair :: rest) = recordRecvs lane (router.recordRx
      (lane.token .recv pair.1.slot) pair.2.userCtx pair.1.sequence pair.1.completion) rest
      from rfl, ih]
    simp only [CompletionRouter.recordRx, AList.mem_insert, token, exists_mem_cons_iff]
    exact or_left_comm.trans or_assoc.symm

namespace Agrees

variable {custody : Nat → Custody} {tables : OwnerTables}

/-- The track loop of a receive batch: every accepted receive is registered
without an error, every other slot of the batch is free again. -/
theorem trackRecv (agrees : Agrees custody tables) {lane pairs} (posted : Nat)
    (firstError : Option Error)
    (all : HoldsAll custody tables.pool (pairs.map fun pair => pair.1.slot) (.marked .recv))
    (tokens : ∀ pair ∈ pairs, pair.2.Carries lane .recv pair.1.slot)
    (fresh : ∀ pair ∈ pairs, (lane.id, pair.1.sequence) ∉ tables.router.registeredRxByIdentity)
    (distinct : (pairs.map fun pair => pair.1.sequence).Nodup) :
    ∃ pool, trackRecv pairs posted tables firstError =
        ({ pool, router := recordRecvs lane tables.router (pairs.take posted) }, .ok firstError) ∧
      Agrees (dispatch .recv .free recvWr pairs posted custody)
        { pool, router := recordRecvs lane tables.router (pairs.take posted) } ∧
      SamePool tables.pool pool := by
  induction pairs generalizing custody tables posted with
  | nil =>
    refine ⟨tables.pool, ?_, ?_, .refl _⟩
    · simp [trackRecv, recordRecvs]
    · simpa [dispatch, recordRecvs] using agrees
  | cons pair rest ih =>
    obtain ⟨pending, entry⟩ := pair
    obtain ⟨laneId, laneGeneration, userCtx⟩ := tokens (pending, entry) mem_cons_self
    have restTokens := fun pair member => tokens pair (mem_cons_of_mem _ member)
    cases posted with
    | zero =>
      have step : (Custody.marked .recv).Moves (.reserved .rx) :=
        ⟨by simp, by simp, rfl, rfl, fun _ fits => fits⟩
      have rolled := agrees.transition (.reserved .rx) all.head step
      have reserved := agrees.move all.head.custody step
      have nowHeld : Holds (Function.update custody (slotIndex pending.slot)
          (.reserved .rx)) (tables.pool.setState (slotIndex pending.slot) .allocated)
          pending.slot (.reserved .rx) :=
        ⟨by simpa using all.head.generation, Function.update_self ..⟩
      obtain ⟨released, freed, agrees', same⟩ := reserved.release nowHeld rfl
      rw [Function.update_idem] at agrees'
      have since := (SamePool.setState _ _ _).trans same
      obtain ⟨pool, looped, final, same'⟩ := ih agrees' 0 (all.tail since .free) restTokens
        (fun pair member => fresh pair (mem_cons_of_mem _ member)) (nodup_cons.mp distinct).2
      refine ⟨pool, ?_, final, since.trans same'⟩
      rw [show (Custody.reserved .rx).state = SlotState.allocated from rfl] at rolled freed
      simp only [trackRecv, BufferPool.rollbackPost, BufferPool.postedState]
      rw [show (Custody.marked .recv).state = SlotState.postedRecv from rfl] at rolled
      simp only [rolled, commit_ok, andThen_ok, freed]
      simpa using looped
    | succ posted =>
      obtain ⟨tracked, agrees'⟩ := agrees.trackRegisteredRx all.head laneId laneGeneration
        (fresh (pending, entry) mem_cons_self) pending.completion
      rw [← userCtx] at tracked agrees'
      have stillFresh : ∀ pair ∈ rest, (lane.id, pair.1.sequence) ∉
          (tables.router.recordRx (lane.token .recv pending.slot) entry.userCtx
            pending.sequence pending.completion).registeredRxByIdentity := by
        intro pair member registered
        rcases AList.mem_insert _ |>.mp registered with same | before
        · refine (nodup_cons.mp distinct).1 (mem_map.mpr ⟨pair, member, ?_⟩)
          exact (mk.inj same).2
        · exact fresh pair (mem_cons_of_mem _ member) before
      obtain ⟨pool, looped, final, same⟩ := ih agrees' posted (all.tail (.refl _) _) restTokens
        stillFresh (nodup_cons.mp distinct).2
      refine ⟨pool, ?_, final, same⟩
      simp only [trackRecv, tracked]
      simpa [recordRecvs] using looped

end Agrees

/-- The outcome of posting receives of a window: `pairs` were accepted and are
registered, the other slots of the window are in `leftover`. -/
structure RecvOutcome (lane : UrmaLane) (custody : Nat → Custody) (tables : OwnerTables)
    (window : List PendingRecv) (leftover : Custody)
    (pairs : List (PendingRecv × PostEntry)) (after : Nat → Custody)
    (tables' : OwnerTables) : Prop where
  accepted : pairs.map fst <+: window
  tokens : ∀ pair ∈ pairs, pair.2.Carries lane .recv pair.1.slot
  router : tables'.router = recordRecvs lane tables.router pairs
  agrees : Agrees after tables'
  same : SamePool tables.pool tables'.pool
  outside : ∀ index, index ∉ window.map (fun pending => slotIndex pending.slot) →
    after index = custody index
  posted : ∀ pair ∈ pairs, after (slotIndex pair.1.slot) = .posted .recv (recvWr pair).2
  rest : ∀ pending ∈ window.drop pairs.length, after (slotIndex pending.slot) = leftover

namespace Agrees

variable {custody : Nat → Custody} {tables : OwnerTables}

theorem abandonRecv {marked window}
    (agrees : Agrees (assign custody (marked.map slot) (.marked .recv)) tables)
    (all : HoldsAll custody tables.pool (window.map slot) (.reserved .rx))
    (part : marked.Sublist window) (lane : UrmaLane) (error : Error) :
    ∃ tables', UrmaLane.abandonRecv tables marked window error = (tables', .error error) ∧
      RecvOutcome lane custody tables window .free []
        (assign custody (window.map slot) .free) tables' := by
  have markedReserved := all.sublist (part.map slot)
  have step : (Custody.marked .recv).Moves (.reserved .rx) :=
    ⟨by simp, by simp, rfl, rfl, fun _ fits => fits⟩
  obtain ⟨pool, rolled, agrees', same⟩ :=
    agrees.moveAll (markedReserved.assigned (.refl _) (.marked .recv)) step
  rw [assign_assign, markedReserved.assign_self] at agrees'
  obtain ⟨released, freed, final, same'⟩ := agrees'.releaseAll (all.congr same) rfl
  refine ⟨{ tables with pool := released }, ?_, ?_⟩
  · have rollback : UrmaLane.rollbackRecv tables.pool marked = (pool, .ok ()) := by
      rw [← rolled, tryEach_map]
      rfl
    simp only [UrmaLane.abandonRecv, rollback, andThen_ok, freed]
  · exact
      { accepted := nil_prefix
        tokens := by simp
        router := rfl
        agrees := final
        same := same.trans same'
        outside := fun index outside => assign_of_notMem (by simpa using outside)
        posted := by simp
        rest := fun pending member =>
          assign_of_mem (mem_map_of_mem (mem_of_mem_drop member)) }

end Agrees

variable {custody : Nat → Custody} {tables : OwnerTables} {sequences : List UInt64}

/-- The accepted prefix of a prepared batch is registered, the rest is freed. -/
theorem Prepared.acceptRecv {lane batch pool entries}
    (prepared : Prepared custody tables lane (.reserved .rx) .recv
      (batch.map slot) (pool, entries, .ok ())) (posted : Nat) (firstError : Option Error)
    (fresh : ∀ pending ∈ batch, (lane.id, pending.sequence) ∉ tables.router.registeredRxByIdentity)
    (distinct : (batch.map sequence).Nodup) :
    ∃ tables' after,
      trackRecv (batch.zip entries) posted { tables with pool } firstError =
        (tables', .ok firstError) ∧
      RecvOutcome lane custody tables batch .free ((batch.zip entries).take posted) after
        tables' := by
  obtain ⟨full, tokens, before, marked⟩ := prepared.whole
  have firsts : (batch.zip entries).map fst = batch := map_fst_zip full.ge
  obtain ⟨pool', looped, final, same⟩ := marked.trackRecv posted firstError
    (before.assigned prepared.same (.marked .recv)) tokens
    (fun pair member => fresh pair.1 (of_mem_zip member).1)
    (by rwa [map_zip_left sequence full.ge])
  have nodup := before.distinct
  rw [map_map] at nodup
  exact ⟨_, _, looped,
    { accepted := by
        rw [map_take, firsts]
        exact take_prefix _ _
      tokens := fun pair member => tokens pair (mem_of_mem_take member)
      router := rfl
      agrees := final
      same := prepared.same.trans same
      outside := by
        intro index outside
        rw [← map_zip_left _ full.ge] at outside
        exact (dispatch_outside outside).trans (assign_of_notMem (by simpa using outside))
      posted := fun pair => dispatch_accepted recvWr nodup
      rest := by
        intro pending member
        have dropped : pending ∈ ((batch.zip entries).drop posted).map fst := by
          rw [map_drop, firsts]
          simp only [length_take, length_zip, full, Nat.min_self] at member
          rcases le_total posted batch.length with small | large
          · rwa [Nat.min_eq_left small] at member
          · simp [Nat.min_eq_right large] at member
        obtain ⟨pair, unposted, rfl⟩ := mem_map.mp dropped
        exact dispatch_returned recvWr nodup unposted }⟩

namespace RecvOutcome

variable {lane : UrmaLane} {custody after final : Nat → Custody}
  {tables tables' tables'' : OwnerTables} {batch later : List PendingRecv}
  {leftover : Custody} {pairs others : List (PendingRecv × PostEntry)}

/-- The outcome does not depend on work between two pools with one frame. -/
theorem rebase {pool}
    (outcome : RecvOutcome lane custody { tables with pool } batch leftover pairs after tables')
    (same : SamePool tables.pool pool) :
    RecvOutcome lane custody tables batch leftover pairs after tables' :=
  { outcome with same := same.trans outcome.same }

theorem holdsAll (outcome : RecvOutcome lane custody tables batch leftover pairs after tables')
    {ids value} (all : HoldsAll custody tables.pool ids value)
    (disjoint : ∀ id ∈ ids, slotIndex id ∉ batch.map fun pending => slotIndex pending.slot) :
    HoldsAll after tables'.pool ids value where
  distinct := all.distinct
  held id member :=
    ⟨(outcome.same.generation _).trans (all.held id member).generation,
      (outcome.outside _ (disjoint id member)).trans (all.held id member).custody⟩

theorem releaseLater (outcome : RecvOutcome lane custody tables batch .free pairs after tables')
    (all : HoldsAll after tables'.pool (later.map slot) (.reserved .rx)) :
    ∃ pool, tables'.pool.releaseUnpostedRxWindow (later.map slot) = (pool, .ok ()) ∧
      RecvOutcome lane custody tables (batch ++ later) .free pairs
        (assign after (later.map slot) .free) { tables' with pool } := by
  obtain ⟨pool, released, agrees, since⟩ := outcome.agrees.releaseAll all rfl
  have short : pairs.length ≤ batch.length := by
    simpa using outcome.accepted.length_le
  have postedElsewhere : ∀ pair ∈ pairs,
      slotIndex pair.1.slot ∉ (later.map slot).map slotIndex := by
    intro pair member listed
    obtain ⟨id, member', same⟩ := mem_map.mp listed
    have reserved := (all.held id member').custody
    rw [show id.index.toNat = slotIndex pair.1.slot from same,
      outcome.posted pair member] at reserved
    cases reserved
  refine ⟨pool, released, ?_⟩
  exact
    { accepted := outcome.accepted.trans (prefix_append _ _)
      tokens := outcome.tokens
      router := outcome.router
      agrees := agrees
      same := outcome.same.trans since
      outside := by
        intro index outside
        rw [map_append, mem_append, not_or] at outside
        rw [assign_of_notMem (by simpa using outside.2), outcome.outside index outside.1]
      posted := fun pair member => by
        rw [assign_of_notMem (postedElsewhere pair member), outcome.posted pair member]
      rest := by
        intro pending member
        rw [drop_append_of_le_length short, mem_append] at member
        simp only [assign]
        split
        next => rfl
        next absent =>
          rcases member with inBatch | inLater
          · exact outcome.rest pending inBatch
          · exact absurd (mem_map_of_mem (mem_map_of_mem inLater)) absent }

theorem append (outcome : RecvOutcome lane custody tables batch .free pairs after tables')
    (complete : pairs.map fst = batch)
    (rest : RecvOutcome lane after tables' later leftover others final tables'')
    (disjoint : ∀ pending ∈ batch,
      slotIndex pending.slot ∉ later.map fun pending => slotIndex pending.slot) :
    RecvOutcome lane custody tables (batch ++ later) leftover (pairs ++ others) final tables'' where
  accepted := by
    rw [map_append, complete]
    exact prefix_append_right_inj _ |>.mpr rest.accepted
  tokens := by
    intro pair member
    rcases mem_append.mp member with inBatch | inLater
    · exact outcome.tokens pair inBatch
    · exact rest.tokens pair inLater
  router := by
    rw [rest.router, outcome.router]
    exact (foldl_append ..).symm
  agrees := rest.agrees
  same := outcome.same.trans rest.same
  outside := by
    intro index outside
    rw [map_append, mem_append, not_or] at outside
    rw [rest.outside index outside.2, outcome.outside index outside.1]
  posted := by
    intro pair member
    rcases mem_append.mp member with inBatch | inLater
    · have inWindow : pair.1 ∈ batch := complete ▸ mem_map_of_mem inBatch
      rw [rest.outside _ (disjoint pair.1 inWindow), outcome.posted pair inBatch]
    · exact rest.posted pair inLater
  rest := by
    have length : pairs.length = batch.length := by
      rw [← complete, length_map]
    rw [length_append, length, drop_length_add_append]
    exact rest.rest

end RecvOutcome

namespace Agrees

variable {custody : Nat → Custody} {tables : OwnerTables}

/-- One batch: accepted as a whole, or the end of the window with nothing
reserved any more. -/
theorem postRecvBatch (agrees : Agrees custody tables) (lane : UrmaLane) (shim : ShimPost)
    {batch later} (all : HoldsAll custody tables.pool ((batch ++ later).map slot) (.reserved .rx))
    (registered : tables.pool.segment.isSome)
    (fresh : ∀ pending ∈ batch, (lane.id, pending.sequence) ∉ tables.router.registeredRxByIdentity)
    (distinct : (batch.map sequence).Nodup) :
    ∃ tables' pairs after result,
      lane.postRecvBatch tables shim batch later = (tables', pairs.map snd, result) ∧
      ((result = .ok () ∧ pairs.map fst = batch ∧
          RecvOutcome lane custody tables batch .free pairs after tables') ∨
        ∃ error, result = .error error ∧
          RecvOutcome lane custody tables (batch ++ later) .free pairs after tables') := by
  have batchAll := all.sublist ((sublist_append_left batch later).map slot)
  have laterAll := all.sublist ((sublist_append_right batch later).map slot)
  have prepared := agrees.prepareRecv lane batchAll
  obtain ⟨⟨pool, entries, result⟩, found⟩ : ∃ outcome,
      lane.prepareRecv batch tables.pool = outcome := ⟨_, rfl⟩
  rw [found] at prepared
  -- giving up a marked prefix before anything was accepted
  have giveUp : ∀ marked : List PendingRecv, marked.Sublist batch →
      Agrees (assign custody (marked.map slot) (.marked .recv))
        { tables with pool } → ∀ error, ∃ tables',
        UrmaLane.abandonRecv { tables with pool } marked (batch ++ later) error =
          (tables', .error error) ∧
        RecvOutcome lane custody tables (batch ++ later) .free []
          (assign custody ((batch ++ later).map slot) .free) tables' := by
    intro marked part marks error
    obtain ⟨tables', abandoned, outcome⟩ := marks.abandonRecv (all.congr prepared.same)
      (part.trans (sublist_append_left _ _)) lane error
    exact ⟨tables', abandoned, outcome.rebase prepared.same⟩
  unfold UrmaLane.postRecvBatch
  simp only [found]
  cases result with
  | error error =>
    have marks := prepared.agrees
    simp only [← map_take] at marks
    obtain ⟨tables', abandoned, outcome⟩ := giveUp _ (take_sublist _ _) marks error
    exact ⟨tables', [], _, _, by simp only [abandoned]; rfl, .inr ⟨error, rfl, outcome⟩⟩
  | ok =>
    have full : entries.length = batch.length := by simpa using prepared.complete rfl
    have segment : pool.segment.isSome := prepared.same.segment ▸ registered
    obtain ⟨length, opened⟩ := Option.isSome_iff_exists.mp segment
    simp only [BufferPool.segmentLength, opened]
    cases answer : postList entries.length shim with
    | error error =>
      have marks := prepared.agrees
      simp only [full, ← map_take, take_length] at marks
      obtain ⟨tables', abandoned, outcome⟩ := giveUp batch (.refl _) marks
        (nativeError "post_jetty_recv_wr_list" error)
      exact ⟨tables', [], _, _, by simp only [abandoned]; rfl, .inr ⟨_, rfl, outcome⟩⟩
    | ok reply =>
      obtain ⟨posted, postError⟩ := reply
      obtain ⟨bounded, whole⟩ := of_postList_ok answer
      obtain ⟨tables', after, tracked, outcome⟩ := prepared.acceptRecv posted
        (postError.map (nativeError "post_jetty_recv_wr_list")) fresh distinct
      have accepted : entries.take posted = ((batch.zip entries).take posted).map snd := by
        rw [map_take, map_snd_zip full.le]
      simp only [tracked, accepted]
      cases postError with
      | none =>
        refine ⟨tables', _, after, _, rfl, .inl ⟨rfl, ?_, outcome⟩⟩
        rw [map_take, map_fst_zip full.ge, take_of_length_le (by rw [whole rfl, full])]
      | some error =>
        have disjoint : ∀ id ∈ later.map slot,
            slotIndex id ∉ batch.map fun pending => slotIndex pending.slot := by
          intro id member listed
          have nodup := all.distinct
          rw [map_append, map_append] at nodup
          refine disjoint_of_nodup_append nodup ?_
            (mem_map_of_mem (f := slotIndex) member)
          simpa using listed
        obtain ⟨pool', released, ended⟩ := outcome.releaseLater (outcome.holdsAll laterAll disjoint)
        exact ⟨_, _, _, _, by simp only [Option.map_some, released]; rfl, .inr ⟨_, rfl, ended⟩⟩

/-- The receive loop: the accepted receives are a prefix of the window, all of it
when the loop returns `Ok`, and no slot of the window stays reserved. -/
theorem postRecvBatches (agrees : Agrees custody tables) (lane : UrmaLane) (shims : Nat → ShimPost)
    (groups : List (List PendingRecv)) (number : Nat)
    (all : HoldsAll custody tables.pool (groups.flatten.map slot) (.reserved .rx))
    (registered : tables.pool.segment.isSome) (fresh : ∀ pending ∈ groups.flatten,
      (lane.id, pending.sequence) ∉ tables.router.registeredRxByIdentity)
    (distinct : (groups.flatten.map sequence).Nodup) :
    ∃ pairs after, (lane.postRecvBatches shims groups number tables).accepted = pairs.map snd ∧
      ((lane.postRecvBatches shims groups number tables).result = .ok () →
        pairs.map fst = groups.flatten) ∧
      RecvOutcome lane custody tables groups.flatten .free pairs after
        (lane.postRecvBatches shims groups number tables).tables := by
  induction groups generalizing custody tables number with
  | nil =>
    refine ⟨[], custody, rfl, fun _ => rfl, ?_⟩
    exact
      { accepted := nil_prefix
        tokens := by simp
        router := rfl
        agrees := agrees
        same := .refl _
        outside := fun _ _ => rfl
        posted := by simp
        rest := by simp }
  | cons batch later ih =>
    simp only [flatten_cons] at all fresh distinct ⊢
    have nodup := all.distinct
    rw [map_append, map_append] at nodup
    rw [map_append] at distinct
    have laterAll := all.sublist ((sublist_append_right batch later.flatten).map slot)
    obtain ⟨tables', pairs, after, result, posted, outcome⟩ :=
      agrees.postRecvBatch lane (shims number) all registered
        (fun pending member => fresh pending (mem_append_left _ member))
        (List.Nodup.of_append_left distinct)
    simp only [postRecvBatches, posted]
    rcases outcome with ⟨rfl, complete, outcome⟩ | ⟨error, rfl, outcome⟩
    · have disjoint : ∀ id ∈ later.flatten.map slot,
          slotIndex id ∉ batch.map fun pending => slotIndex pending.slot := by
        intro id member listed
        refine disjoint_of_nodup_append nodup ?_
          (mem_map_of_mem (f := slotIndex) member)
        simpa using listed
      have stillFresh : ∀ pending ∈ later.flatten, (lane.id, pending.sequence) ∉
          tables'.router.registeredRxByIdentity := by
        intro pending member
        rw [outcome.router, mem_registered_recordRecvs]
        rintro (⟨pair, inPairs, same⟩ | before)
        · have inBatch : pair.1 ∈ batch := complete ▸ mem_map_of_mem inPairs
          refine disjoint_of_nodup_append distinct
            (mem_map_of_mem (f := sequence) inBatch) ?_
          rw [← (mk.inj same).2]
          exact mem_map_of_mem member
        · exact fresh pending (mem_append_right _ member) before
      obtain ⟨others, final, accepted, finished, rest⟩ :=
        ih outcome.agrees (number + 1)
          (outcome.holdsAll laterAll disjoint) (outcome.same.segment ▸ registered)
          stillFresh (List.Nodup.of_append_right distinct)
      refine ⟨pairs ++ others, final, ?_, ?_, outcome.append complete rest ?_⟩
      · simp only [accepted, map_append]
      · intro ok
        rw [map_append, complete, finished ok]
      · intro pending member listed
        refine disjoint_of_nodup_append nodup
          (mem_map_of_mem (mem_map_of_mem (f := slot) member)) ?_
        simpa using listed
    · exact ⟨pairs, after, rfl, nofun, outcome⟩

end Agrees

/-- What posting a receive window does: `pairs` are the receives the provider
accepted, a prefix of the window.  Every one of them is tracked, its slot was
free before, and no busy slot is touched. -/
structure ReceivePosted (lane : UrmaLane) (custody : Nat → Custody) (tables : OwnerTables)
    (window : List (UInt64 × ChannelId)) (posting : Posting)
    (pairs : List (PendingRecv × PostEntry)) (after : Nat → Custody) : Prop where
  accepted : posting.accepted = pairs.map snd
  identities :
    pairs.map (fun pair => (pair.1.sequence, pair.1.completion)) <+: window
  complete : posting.result = .ok () →
    pairs.map (fun pair => (pair.1.sequence, pair.1.completion)) = window
  tokens : ∀ pair ∈ pairs, pair.2.Carries lane .recv pair.1.slot
  router : posting.tables.router = recordRecvs lane tables.router pairs
  agrees : Agrees after posting.tables
  frame : SameFrame tables.pool posting.tables.pool
  busy : ∀ index, custody index ≠ .free → after index = custody index ∧
    posting.tables.pool.generationAt index = tables.pool.generationAt index
  free : ∀ index, custody index = .free → after index = .free ∨
    ∃ pair ∈ pairs, slotIndex pair.1.slot = index
  posted : ∀ pair ∈ pairs, custody (slotIndex pair.1.slot) = .free ∧
    after (slotIndex pair.1.slot) = .posted .recv (recvWr pair).2
  current : ∀ pair ∈ pairs, posting.tables.pool.generationAt (slotIndex pair.1.slot) =
    some pair.1.slot.generation
  distinct : (pairs.map fun pair => slotIndex pair.1.slot).Nodup

namespace ReceivePosted

theorem refused {lane custody tables} (agrees : Agrees custody tables)
    (window : List (UInt64 × ChannelId)) (error : Error) :
    ReceivePosted lane custody tables window
      { tables, accepted := [], result := .error error } [] custody where
  accepted := rfl
  identities := nil_prefix
  complete := nofun
  tokens := by simp
  router := rfl
  agrees := agrees
  frame := .refl _
  busy _ _ := ⟨rfl, rfl⟩
  free _ wasFree := .inl wasFree
  posted := by simp
  current := by simp
  distinct := nodup_nil

theorem decoded {lane custody after tables window posting pairs}
    (outcome : ReceivePosted lane custody tables window posting pairs after) {pair}
    (member : pair ∈ pairs) :
    WrToken.decode pair.2.userCtx = .ok (lane.token .recv pair.1.slot) := by
  obtain ⟨laneId, generation, word⟩ := outcome.tokens pair member
  rw [word]
  exact outcome.agrees.decode_token _
    ⟨outcome.current pair member, (outcome.posted pair member).2⟩ (by simp) laneId generation

end ReceivePosted

theorem validateIdentities_ok {router : CompletionRouter} {laneId seen}
    (checked : router.validateIdentities laneId seen sequences = .ok ()) :
    (∀ sequence ∈ sequences, sequence ∉ seen ∧
      (laneId, sequence) ∉ router.registeredRxByIdentity) ∧ sequences.Nodup := by
  induction sequences generalizing seen with
  | nil => simp
  | cons sequence rest ih =>
    simp only [CompletionRouter.validateIdentities] at checked
    split at checked
    · cases checked
    next unseen =>
      split at checked
      · cases checked
      next unregistered =>
        obtain ⟨others, nodup⟩ := ih checked
        refine ⟨?_, nodup_cons.mpr ⟨fun again => ?_, nodup⟩⟩
        · intro other member
          rcases mem_cons.mp member with rfl | later
          · exact ⟨unseen, unregistered⟩
          · exact ⟨fun inSeen => (others other later).1 (mem_cons_of_mem _ inSeen),
              (others other later).2⟩
        · exact (others sequence again).1 mem_cons_self

def pendingRecvs (slots : List SlotId) (sequences : List UInt64) (completionTxs : List ChannelId) :
    List PendingRecv :=
  (slots.zip (sequences.zip completionTxs)).map fun item => ⟨item.1, item.2.1, item.2.2⟩

theorem maps_pendingRecvs {slots completionTxs} (length : slots.length = sequences.length)
    (matching : sequences.length = completionTxs.length) :
    (pendingRecvs slots sequences completionTxs).map slot = slots ∧
      (pendingRecvs slots sequences completionTxs).map
        (fun item => (item.sequence, item.completion)) = sequences.zip completionTxs ∧
      (pendingRecvs slots sequences completionTxs).map sequence = sequences := by
  have window : (pendingRecvs slots sequences completionTxs).map
      (fun item => (item.sequence, item.completion)) = sequences.zip completionTxs := by
    rw [pendingRecvs, map_map]
    exact map_snd_zip (by simp [length])
  refine ⟨?_, window, ?_⟩
  · rw [pendingRecvs, map_map]
    exact map_fst_zip (by simp [length, matching])
  · have firsts := congrArg (List.map fst) window
    rw [map_map, map_fst_zip (by omega)] at firsts
    exact firsts

theorem Agrees.postAllocated {pool : BufferPool} {slots}
    (reserved : Agrees (assign custody slots (.reserved .rx)) { tables with pool })
    (held : HoldsAll (assign custody slots (.reserved .rx)) pool slots (.reserved .rx))
    (registered : pool.segment.isSome) (lane : UrmaLane) {completionTxs}
    (length : slots.length = sequences.length) (matching : sequences.length = completionTxs.length)
    (checked : tables.router.validateRegisteredRxIdentities lane.id sequences = .ok ())
    (shims : Nat → ShimPost) :
    let pending := pendingRecvs slots sequences completionTxs
    let posting := lane.postRecvBatches shims (batches lane.postListSize pending) 0
      { tables with pool }
    ∃ pairs after, posting.accepted = pairs.map snd ∧
      (posting.result = .ok () → pairs.map fst = pending) ∧
      RecvOutcome lane (assign custody slots (.reserved .rx)) { tables with pool } pending .free
        pairs after posting.tables := by
  intro pending posting
  obtain ⟨unregistered, nodup⟩ := validateIdentities_ok checked
  obtain ⟨slotsEq, -, sequencesEq⟩ := maps_pendingRecvs length matching
  have flat := flatten_batches lane.postListSize pending
  obtain ⟨pairs, after, accepted, finished, outcome⟩ :=
    reserved.postRecvBatches lane shims (batches lane.postListSize pending) 0
      (by rwa [flat, slotsEq]) registered
      (by
        rw [flat]
        intro item member
        refine (unregistered item.sequence ?_).2
        rw [← sequencesEq]
        exact mem_map_of_mem member)
      (by rwa [flat, sequencesEq])
  rw [flat] at finished outcome
  exact ⟨pairs, after, accepted, finished, outcome⟩

theorem Agrees.postReceiveWindowRegistered (agrees : Agrees custody tables)
    (registered : tables.pool.segment.isSome) (lane : UrmaLane) (sequences : List UInt64)
    (completionTxs : List ChannelId) (shims : Nat → ShimPost) :
    ∃ pairs after, ReceivePosted lane custody tables (sequences.zip completionTxs)
      (lane.postReceiveWindowRegistered tables sequences completionTxs shims) pairs after := by
  unfold UrmaLane.postReceiveWindowRegistered
  split
  · exact ⟨[], custody, .refused agrees _ _⟩
  split
  · exact ⟨[], custody, .refused agrees _ _⟩
  next shape =>
  rw [not_or, not_not] at shape
  split
  · exact ⟨[], custody, .refused agrees _ _⟩
  next checked =>
  rcases agrees.allocateRxWindow sequences.length with
    ⟨error, refused⟩ | ⟨pool, slots, allocated, length, reserved, held, frame, wereFree, generation⟩
  · simp only [refused]
    exact ⟨[], custody, .refused agrees _ _⟩
  simp only [allocated]
  obtain ⟨slotsEq, windowEq, -⟩ := maps_pendingRecvs length shape.2
  obtain ⟨pairs, after, accepted, finished, outcome⟩ :=
    reserved.postAllocated held (frame.segment ▸ registered) lane length shape.2 checked shims
  simp only [pendingRecvs] at slotsEq windowEq accepted finished outcome
  generalize (slots.zip (sequences.zip completionTxs)).map
    (fun item => (⟨item.1, item.2.1, item.2.2⟩ : PendingRecv)) = pending at *
  have indexed : pending.map (fun item => slotIndex item.slot) = slots.map slotIndex := by
    rw [← slotsEq, map_map]
    rfl
  have inWindow : ∀ pair ∈ pairs, pair.1 ∈ pending := fun pair member =>
    outcome.accepted.subset (mem_map_of_mem member)
  have inSlots : ∀ pair ∈ pairs, pair.1.slot ∈ slots := fun pair member =>
    slotsEq ▸ mem_map_of_mem (inWindow pair member)
  have untouched : ∀ index, index ∉ slots.map slotIndex → after index = custody index := by
    intro index outside
    rw [outcome.outside index (indexed ▸ outside), assign_of_notMem outside]
  refine ⟨pairs, after, ?_⟩
  exact
    { accepted := accepted
      identities := by
        rw [← windowEq]
        have mapped := outcome.accepted.map fun item => (item.sequence, item.completion)
        rwa [map_map] at mapped
      complete := by
        intro ok
        rw [← windowEq, ← finished ok, map_map]
        rfl
      tokens := outcome.tokens
      router := outcome.router
      agrees := outcome.agrees
      frame := frame.trans outcome.same.toSameFrame
      busy := by
        intro index busy
        have outside : index ∉ slots.map slotIndex := by
          intro listed
          obtain ⟨id, member, rfl⟩ := mem_map.mp listed
          exact busy (wereFree id member)
        exact ⟨untouched index outside,
          (outcome.same.generation index).trans (generation index outside)⟩
      free := by
        intro index wasFree
        by_cases inside : index ∈ slots.map slotIndex
        · rw [← indexed] at inside
          obtain ⟨item, member, rfl⟩ := mem_map.mp inside
          rw [← take_append_drop pairs.length pending, mem_append] at member
          rcases member with taken | dropped
          · right
            have prefixEq : pairs.map fst = pending.take pairs.length := by
              simpa using prefix_iff_eq_take.mp outcome.accepted
            rw [← prefixEq] at taken
            obtain ⟨pair, member, rfl⟩ := mem_map.mp taken
            exact ⟨pair, member, rfl⟩
          · exact .inl (outcome.rest item dropped)
        · exact .inl ((untouched index inside).trans wasFree)
      posted := fun pair member =>
        ⟨wereFree _ (inSlots pair member), outcome.posted pair member⟩
      current := fun pair member => (outcome.same.generation _).trans
        (held.held _ (inSlots pair member)).generation
      distinct := by
        have mapped := (outcome.accepted.map fun item => slotIndex item.slot).sublist
        rw [map_map, indexed] at mapped
        exact mapped.nodup held.distinct }

end DragonflyClient.Urma
