import DragonflyClient.Urma.Owner

/-!
TX slots and the lease book.

Every TX slot that is leased or posted is listed by an active TX record.  The
converse fails once `fail_pending` has woken the waiters of posted sends, so the
book only bounds what is in use: all TX slots it does not list are free.
-/

namespace DragonflyClient.Urma

open Library List

def LeaseRecord.txSlots (record : LeaseRecord) : List SlotId :=
  if record.kind = .tx then record.slots else []

namespace LeaseBook

def txSlots (book : LeaseBook) : List SlotId :=
  book.active.entries.flatMap fun entry => entry.2.txSlots

def Fresh (book : LeaseBook) : Prop :=
  ∀ leaseId ∈ book.active, leaseId < book.nextLeaseId

variable {book : LeaseBook}

theorem Fresh.issued (fresh : book.Fresh) (kind : LeaseKind)
    (slots : List SlotId) : (book.issued kind slots).Fresh := by
  intro leaseId listed
  rcases (AList.mem_insert _).mp listed with rfl | earlier
  · exact Nat.lt_succ_self _
  · exact Nat.lt_succ_of_lt (fresh leaseId earlier)

theorem Fresh.erase (fresh : book.Fresh) (leaseId : Nat) :
    Fresh { book with active := book.active.erase leaseId } :=
  fun other listed => fresh other (AList.mem_erase.mp listed).2

theorem txSlots_issued (fresh : book.Fresh) (kind : LeaseKind) (slots : List SlotId) :
    (book.issued kind slots).txSlots = LeaseRecord.txSlots { kind, slots } ++ book.txSlots := by
  have absent : book.nextLeaseId ∉ book.active := fun listed =>
    Nat.lt_irrefl _ (fresh _ listed)
  simp only [txSlots, issued, AList.entries_insert_of_notMem absent, flatMap_cons]

theorem txSlots_erase {leaseId record} (found : book.active.lookup leaseId = some record) :
    book.txSlots.Perm
      (record.txSlots ++ txSlots { book with active := book.active.erase leaseId }) := by
  have listed := AList.mem_lookup_iff.mp found
  obtain ⟨value, before, later, absent, entries, erased⟩ :=
    exists_of_kerase (mem_keys_of_mem listed)
  have same : value = record := by
    have stored : (⟨leaseId, value⟩ : Sigma fun _ : Nat => LeaseRecord) ∈ book.active.entries := by
      rw [entries]
      exact mem_append_right _ mem_cons_self
    rw [← AList.mem_lookup_iff, Option.mem_def, found] at stored
    exact (Option.some.inj stored).symm
  subst same
  have remaining : (book.active.erase leaseId).entries = before ++ later := erased
  simp only [txSlots, remaining]
  rw [entries, flatMap_append, flatMap_append, flatMap_cons, ← append_assoc, ← append_assoc]
  exact perm_append_comm.append_right _

end LeaseBook

def BufferPool.TxBusy (pool : BufferPool) (index : Nat) : Prop :=
  pool.stateAt index = some .leasedTx ∨ pool.stateAt index = some .sendPosted

def Custody.TxBusy : Custody → Prop
  | .leased .tx | .marked .send | .posted .send _ => True
  | _ => False

theorem Custody.txBusy_iff (custody : Custody) :
    custody.TxBusy ↔ custody.state = .leasedTx ∨ custody.state = .sendPosted := by
  cases custody with
  | free | reserved => simp [TxBusy, state]
  | marked operation | completed operation => cases operation <;> simp [TxBusy, state]
  | posted operation => cases operation <;> simp [TxBusy, state]
  | leased kind => cases kind <;> simp [TxBusy, state]

theorem Agrees.txBusy_iff {custody tables} (agrees : Agrees custody tables) (index : Nat) :
    tables.pool.TxBusy index ↔ (custody index).TxBusy := by
  by_cases inside : index < tables.pool.slots.length
  · rw [BufferPool.TxBusy, agrees.state index inside, Custody.txBusy_iff]
    simp
  · have free : custody index = .free := by
      by_contra busy
      exact inside (agrees.inside index busy)
    rw [free, BufferPool.TxBusy, BufferPool.stateAt, getElem?_eq_none (Nat.not_lt.mp inside)]
    simp [Custody.TxBusy]

theorem Custody.txBusy_of_update {custody} {other index : Nat} {value : Custody}
    (inUse : (Function.update custody other value index).TxBusy)
    (back : value.TxBusy → (custody other).TxBusy) : (custody index).TxBusy := by
  by_cases same : index = other
  · subst same
    rw [Function.update_self] at inUse
    exact back inUse
  · rwa [Function.update_of_ne same] at inUse

/-- A pool with `slots` TX slots, `leased` of which the lease book lists. -/
structure Stock (slots leased : Nat) (pool : BufferPool) : Prop where
  accepting : pool.accepting = true
  kind : ∀ index < slots, pool.kindAt index = some .tx
  fresh : pool.leases.Fresh
  listed : ∀ index, pool.TxBusy index → index ∈ pool.leases.txSlots.map slotIndex
  leased : pool.leases.txSlots.length = leased

namespace Stock

variable {slots leased : Nat} {after : BufferPool} {custody custody' : Nat → Custody}
  {tables tables' : OwnerTables}

section

variable (stock : Stock slots leased tables.pool)
include stock

section

variable (agrees : Agrees custody tables) (agrees' : Agrees custody' tables')
include agrees agrees'

/-- A change of the pool that issues and recycles no lease and makes no TX slot busy. -/
theorem follow (frame : SameFrame tables.pool tables'.pool)
    (busy : ∀ index, (custody' index).TxBusy → (custody index).TxBusy) :
    Stock slots leased tables'.pool where
  accepting := frame.accepting.trans stock.accepting
  kind index inside := (frame.kind index).trans (stock.kind index inside)
  fresh := frame.leases ▸ stock.fresh
  listed index inUse := frame.leases ▸ stock.listed index
    ((agrees.txBusy_iff index).mpr (busy index ((agrees'.txBusy_iff index).mp inUse)))
  leased := frame.leases ▸ stock.leased

theorem issue (kind : LeaseKind) (ids : List SlotId)
    (frame : SameFrame { tables.pool with leases := tables.pool.leases.issued kind ids }
      tables'.pool)
    (busy : ∀ index, (custody' index).TxBusy → (custody index).TxBusy ∨
      kind = .tx ∧ index ∈ ids.map slotIndex) :
    Stock slots (leased + (LeaseRecord.txSlots { kind, slots := ids }).length)
      tables'.pool where
  accepting := frame.accepting.trans stock.accepting
  kind index inside := (frame.kind index).trans (stock.kind index inside)
  fresh := frame.leases ▸ stock.fresh.issued kind ids
  listed index inUse := by
    rw [frame.leases, LeaseBook.txSlots_issued stock.fresh, map_append, mem_append]
    rcases busy index ((agrees'.txBusy_iff index).mp inUse) with before | ⟨rfl, member⟩
    · exact .inr (stock.listed index ((agrees.txBusy_iff index).mpr before))
    · exact .inl member
  leased := by
    rw [frame.leases, LeaseBook.txSlots_issued stock.fresh, length_append, stock.leased,
      Nat.add_comm]

end

/-- The slots of a recycled lease are free, so no busy slot loses its record. -/
theorem recycled (agrees : Agrees custody tables) {token record}
    (recycled : Recycled custody tables token record after) :
    ∃ remaining, leased = remaining + record.txSlots.length ∧ Stock slots remaining after := by
  have split := LeaseBook.txSlots_erase (LeaseBook.of_record_ok recycled.found).2
  have leases := recycled.same.leases
  dsimp only at leases
  rw [← leases] at split
  refine ⟨after.leases.txSlots.length, ?_, ?_⟩
  · rw [← stock.leased, split.length_eq, length_append, Nat.add_comm]
  refine
    { accepting := recycled.same.accepting.trans stock.accepting
      kind := fun index inside => (recycled.same.kind index).trans (stock.kind index inside)
      fresh := leases ▸ stock.fresh.erase token.leaseId
      listed := ?_
      leased := rfl }
  intro index inUse
  rw [show after.TxBusy index ↔ _ from recycled.agrees.txBusy_iff index] at inUse
  unfold assign at inUse
  split at inUse
  · exact inUse.elim
  next absent =>
    have listed := stock.listed index ((agrees.txBusy_iff index).mpr inUse)
    rw [(split.map slotIndex).mem_iff, map_append, mem_append] at listed
    refine listed.resolve_left fun member => absent ?_
    unfold LeaseRecord.txSlots at member
    split at member
    · exact member
    · simp at member

theorem free_le (sound : Sound tables) : slots ≤ tables.pool.freeTx.length + leased := by
  obtain ⟨custody, agrees, -, settled⟩ := sound.consistent
  have covered : List.range slots ⊆
      tables.pool.freeTx ++ tables.pool.leases.txSlots.map slotIndex := by
    intro index inside
    have kind := stock.kind index (mem_range.mp inside)
    have fits := agrees.kind index .tx kind
    have between := settled index
    rw [mem_append]
    by_cases inUse : (custody index).TxBusy
    · exact .inr (stock.listed index ((agrees.txBusy_iff index).mpr inUse))
    · refine .inl (((agrees.free .tx).2 index).mpr ⟨?_, kind⟩)
      -- a settled TX slot that is not in use can only be free
      cases held : custody index with
      | free => rfl
      | reserved | marked | completed => exact absurd between (by simp [held, Custody.settled])
      | posted operation => cases operation <;> simp_all [Custody.TxBusy, Custody.fits]
      | leased kind => cases kind <;> simp_all [Custody.TxBusy, Custody.fits]
  calc
    slots = (List.range slots).length := length_range.symm
    _ ≤ (tables.pool.freeTx ++ tables.pool.leases.txSlots.map slotIndex).length :=
        (nodup_range.subperm covered).length_le
    _ = tables.pool.freeTx.length + leased := by
        rw [length_append, length_map, stock.leased]

theorem postReceiveWindowRegistered (sound : Sound tables) (lane : UrmaLane)
    (sequences : List UInt64) (completionTxs : List ChannelId) (shims : Nat → ShimPost) :
    Stock slots leased
      (lane.postReceiveWindowRegistered tables sequences completionTxs shims).tables.pool := by
  obtain ⟨custody, agrees, -, -⟩ := sound.consistent
  obtain ⟨pairs, final, outcome⟩ :=
    agrees.postReceiveWindowRegistered sound.segment lane sequences completionTxs shims
  apply stock.follow agrees outcome.agrees outcome.frame
  intro index inUse
  by_cases free : custody index = .free
  · rcases outcome.free index free with still | ⟨pair, member, rfl⟩
    · rw [still] at inUse
      exact inUse.elim
    · rw [(outcome.posted pair member).2] at inUse
      exact inUse.elim
  · rwa [(outcome.busy index free).1] at inUse

theorem sendRegisteredWindow (sound : Sound tables) (lane : UrmaLane) (lease : TxWindowLease)
    (sequences : List UInt64) (completion : ChannelId) (shims : Nat → ShimPost) :
    Stock slots leased
      (lane.sendRegisteredWindow tables lease sequences completion shims).tables.pool := by
  obtain ⟨custody, agrees, -, -⟩ := sound.consistent
  cases checked : lane.checkSendWindow tables.pool lease sequences with
  | error error =>
    simp only [UrmaLane.sendRegisteredWindow, checked]
    exact stock
  | ok layouts =>
    obtain ⟨pairs, final, pool, failure, outcome, sent, -⟩ :=
      agrees.sendRegisteredWindow sound.segment completion shims checked
    rw [sent]
    apply stock.follow agrees outcome.agrees outcome.same.toSameFrame
    intro index inUse
    by_cases held : custody index = .leased .tx
    · rw [held]
      trivial
    · rwa [outcome.other index held] at inUse

theorem routed {recvQueue} {record : CompletionRecord} {outcome : OwnerTables × Result Unit}
    (agrees : Agrees custody tables)
    (routed : Routed custody tables recvQueue record custody' outcome) :
    Stock slots leased outcome.1.pool := by
  cases routed with
  | refused | flushed => exact stock
  | send names operation agrees' same =>
    rw [OwnerTables.deliverTo_pool]
    refine stock.follow agrees agrees' same.toSameFrame fun index inUse =>
      Custody.txBusy_of_update inUse fun _ => ?_
    rw [names.posted.custody, operation]
    trivial
  | recv names operation settled =>
    -- whatever became of the received slot, it is not a TX slot in use
    have unchanged : ∀ {value : Custody} {slot index : Nat},
        (Function.update (Function.update custody slot (.marked .recv)) slot value index).TxBusy →
          ¬ value.TxBusy → (custody index).TxBusy := by
      intro value slot index inUse idle
      rw [Function.update_idem] at inUse
      exact Custody.txBusy_of_update inUse fun busy => absurd busy idle
    rw [OwnerTables.deliverTo_pool]
    cases settled with
    | unclaimed agrees' same | failed _ _ agrees' same =>
      exact stock.follow agrees agrees' same.toSameFrame fun _ inUse => unchanged inUse id
    | delivered _ _ agrees' same =>
      exact stock.issue agrees agrees' .rx _ same.toSameFrame fun _ inUse =>
        .inl (unchanged inUse id)

theorem pollOnce (sound : Sound tables)
    (polled : OwnerTables.Polled) : Stock slots leased (tables.pollOnce polled).1.pool := by
  obtain ⟨custody, consistent⟩ := sound.consistent
  obtain ⟨final, progress⟩ := consistent.pollOnce polled
  exact (progress.invariant (fun _ tables => Stock slots leased tables.pool)
    (fun consistent stock => stock.routed consistent.agrees) consistent stock).2

theorem acquireTxWindowChunks (sound : Sound tables) (chunkLengths : List Nat) :
    (∃ error pool, tables.pool.acquireTxWindowChunks chunkLengths = (pool, .error error) ∧
      Stock slots leased pool) ∨
    ∃ pool lease, tables.pool.acquireTxWindowChunks chunkLengths = (pool, .ok lease) ∧
      Stock slots (leased + chunkLengths.length) pool := by
  obtain ⟨custody, agrees, -, -⟩ := sound.consistent
  rcases agrees.acquireTxWindowChunks chunkLengths with
    ⟨error, pool, refused, agrees', frame, -⟩ | ⟨pool, lease, granted, acquired⟩
  · exact .inl ⟨error, pool, refused, stock.follow agrees agrees' frame fun _ inUse => inUse⟩
  · refine .inr ⟨pool, lease, granted, ?_⟩
    have count : (LeaseRecord.txSlots { kind := .tx, slots := lease.slots }).length =
        chunkLengths.length := by
      simp [LeaseRecord.txSlots, TxWindowLease.slots, ← acquired.lengths]
    rw [← count]
    refine stock.issue agrees acquired.agrees .tx lease.slots acquired.frame fun index inUse => ?_
    unfold assign at inUse
    split at inUse
    next member => exact .inr ⟨rfl, member⟩
    · exact .inl inUse

theorem recycle (sound : Sound tables) (token : LeaseRecycle) (expected : LeaseKind) :
    (∃ error, tables.pool.recycle token expected = (tables.pool, .error error)) ∨
    ∃ pool count remaining, tables.pool.recycle token expected = (pool, .ok count) ∧
      leased = remaining + (if expected = .tx then count else 0) ∧
      Stock slots remaining pool := by
  obtain ⟨custody, agrees, -, -⟩ := sound.consistent
  rcases agrees.recycle sound.distinct token expected with
    refused | ⟨record, pool, rfl, freed, recycled⟩
  · exact .inl refused
  · obtain ⟨remaining, split, stock'⟩ := stock.recycled agrees recycled
    refine .inr ⟨pool, _, remaining, freed, ?_, stock'⟩
    rw [split, LeaseRecord.txSlots]
    split <;> rfl

theorem recycleRxCores (sound : Sound tables) (count : Nat) (cores : List LeaseRecycle) :
    Stock slots leased (tables.pool.recycleRxCores count cores).1 := by
  induction cores generalizing tables count with
  | nil => exact stock
  | cons core rest ih =>
    have sound' := sound.recycle core .rx
    unfold BufferPool.recycleRxCores
    rcases stock.recycle sound core .rx with ⟨error, refused⟩ | ⟨pool, freed, _, done, rfl, stock'⟩
    · rw [refused]
      exact stock
    · rw [done] at sound' ⊢
      dsimp only
      cases checkedAdd count freed with
      | none => exact stock'
      | some count => exact ih stock' sound' count

end

end Stock

def Error.isBufferUnavailable : Error → Bool
  | .bufferUnavailable _ _ _ => true
  | _ => false

def Admitted {α : Type} (result : Result α) : Prop :=
  ∀ error, result = .error error → error.isBufferUnavailable = false

namespace Admitted

variable {α : Type}

theorem ok (value : α) : Admitted (.ok value) :=
  fun _ => nofun

theorem error {failure} (other : failure.isBufferUnavailable = false) :
    Admitted (.error failure : Result α) := by
  intro error refused
  rwa [← Except.error.inj refused]

theorem pass {β : Type} {result : Result α} {failure} (admitted : Admitted result)
    (failed : result = .error failure) : Admitted (.error failure : Result β) :=
  .error (admitted failure failed)

theorem map {β : Type} {result : Result α} (admitted : Admitted result) (image : α → β) :
    Admitted (result.map image) := by
  cases result with
  | ok => exact .ok _
  | error failure => exact admitted.pass rfl

theorem collect {Item Image : Type} {image : Item → Result Image}
    (each : ∀ item, Admitted (image item)) (items : List Item) :
    Admitted (collect image items) := by
  induction items with
  | nil => exact .ok _
  | cons item rest ih =>
    unfold Library.collect
    split
    next failed => exact (each item).pass failed
    next => exact ih.map _

variable {State : Type}

theorem commit {result : Result State} (updated : Admitted result)
    (state : State) : Admitted (commit state result).2 := by
  cases result with
  | ok => exact .ok _
  | error failure => exact updated.pass rfl

theorem andThen {first : State × Result Unit}
    {next : State → State × Result Unit} (before : Admitted first.2)
    (later : ∀ state, Admitted (next state).2) : Admitted (andThen first next).2 := by
  unfold Library.andThen
  split
  · exact later _
  next failed => exact before.pass failed

theorem tryEach {Item : Type} {update : State → Item → State × Result Unit}
    (each : ∀ state item, Admitted (update state item).2) (items : List Item) (state : State) :
    Admitted (tryEach update items state).2 := by
  induction items generalizing state with
  | nil => exact .ok _
  | cons item rest ih =>
    exact (each state item).andThen ih

end Admitted

namespace BufferPool

theorem admitted_transition (pool : BufferPool) (id : SlotId) (source target : SlotState) :
    Admitted (pool.transition id source target) := by
  unfold transition
  dsimp only
  repeat' split
  all_goals first | exact .ok _ | exact .error rfl

theorem admitted_release (pool : BufferPool) (id : SlotId) : Admitted (pool.release id) := by
  unfold release
  dsimp only
  repeat' split
  all_goals first | exact .ok _ | exact .error rfl

theorem admitted_newSlot (index : Nat) (generation : UInt16) :
    Admitted (SlotId.new index generation) := by
  unfold SlotId.new
  repeat' split
  all_goals first | exact .ok _ | exact .error rfl

theorem admitted_prepareTx (pool : BufferPool) (registeredLen : Nat) (candidate : Nat × Nat) :
    Admitted (pool.prepareTx registeredLen candidate) := by
  unfold prepareTx
  dsimp only
  split
  · exact .error rfl
  split
  · exact .error rfl
  split
  · exact .error rfl
  split
  · exact .error rfl
  split
  next failed => exact (admitted_newSlot _ _).pass failed
  · exact .ok _

theorem admitted_totalLength (lengths : List Nat) (total : Nat) :
    Admitted (totalLength lengths total) := by
  induction lengths generalizing total with
  | nil => exact .ok _
  | cons length rest ih =>
    unfold totalLength
    split
    · exact .error rfl
    · exact ih _

variable {pool : BufferPool}

theorem freeTxCandidates_ok {count} (accepting : pool.accepting = true) (some : count ≠ 0)
    (enough : count ≤ pool.freeTx.length) :
    pool.freeTxCandidates count = .ok (pool.freeTx.take count) := by
  rw [freeTxCandidates, if_pos accepting]
  exact if_neg (by omega)

theorem admitted_prepareTxWindow {chunkLengths : List Nat}
    (accepting : pool.accepting = true) (enough : chunkLengths.length ≤ pool.freeTx.length) :
    Admitted (pool.prepareTxWindow chunkLengths) := by
  unfold prepareTxWindow
  split
  · exact .error rfl
  next valid =>
  rw [freeTxCandidates_ok accepting (by simp_all) enough]
  split
  · exact .error rfl
  dsimp only
  split
  · exact .error rfl
  split
  · exact .error rfl
  split
  next failed => exact (admitted_totalLength _ _).pass failed
  unfold segmentLength
  cases pool.segment with
  | none => exact .error rfl
  | some registeredLen =>
    exact (Admitted.collect (admitted_prepareTx pool registeredLen) _).map _

theorem admitted_acquireTxWindowChunks {chunkLengths : List Nat}
    (accepting : pool.accepting = true) (enough : chunkLengths.length ≤ pool.freeTx.length) :
    Admitted (pool.acquireTxWindowChunks chunkLengths).2 := by
  unfold acquireTxWindowChunks
  split
  next failed => exact (admitted_prepareTxWindow accepting enough).pass failed
  dsimp only
  split
  · exact .ok _
  next unissued =>
    split
    next failed =>
      refine Admitted.pass (Admitted.tryEach (fun state slot => ?_) _ _) failed
      exact ((admitted_transition _ _ _ _).commit _).andThen fun state =>
        (admitted_release _ _).commit _
    next =>
      refine Admitted.pass ?_ unissued
      unfold LeaseBook.issue
      repeat' split
      all_goals first | exact .ok _ | exact .error rfl

end BufferPool

end DragonflyClient.Urma
