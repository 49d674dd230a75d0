import DragonflyClient.Urma.Capacity
import DragonflyClient.Urma.Fabric
import DragonflyClient.Urma.Reap

/-!
The admission of TX slots (`tx_slot_admission`).

A permit is available, held by a requester, carried by a queued acquire command,
or spent on a slot that the lease book lists.  Every step of the fabric moves
permits between these four places and none creates or loses one, so a command
that carries its permits finds enough free slots.
-/

namespace DragonflyClient.Urma

open Library List Option BufferPool FabricCommand UrmaRuntime

namespace UrmaRuntime

variable {runtime : UrmaRuntime}

/-! Lane management does not touch the pool. -/

theorem pool_abortLane (runtime : UrmaRuntime) (laneId : UInt16) (marked : Except FfiError Unit)
    (input : ReapInput) :
    (runtime.abortLane laneId marked input).1.tables.pool = runtime.tables.pool := by
  unfold abortLane
  split
  · rfl
  dsimp only
  split
  · rfl
  split
  · rfl
  · exact (Spares.reapDrainedLanes _ _).pool

theorem pool_createLane (runtime : UrmaRuntime) (config : JettyConfig) (input : CreateInput) :
    (runtime.createLane config input).1.tables.pool = runtime.tables.pool := by
  unfold createLane
  split
  · rfl
  split
  · rfl
  dsimp only
  split
  · rfl
  split
  · rfl
  split <;> rfl

theorem pool_bindLane (runtime : UrmaRuntime) (laneId : UInt16) (descriptor : JettyDescriptor)
    (imported bound : Except FfiError Unit) :
    (runtime.bindLane laneId descriptor imported bound).1.tables.pool = runtime.tables.pool := by
  unfold bindLane
  split
  · rfl
  split
  · rfl
  split <;> rfl

theorem pool_grantSendCredit (runtime : UrmaRuntime) (laneId : UInt16) (count : Nat) :
    (runtime.grantSendCredit laneId count).1.tables.pool = runtime.tables.pool := by
  unfold grantSendCredit
  split
  · rfl
  split <;> rfl

end UrmaRuntime

/-- A sound runtime whose lease book lists `leased` of `slots` TX slots. -/
structure Stocked (slots leased : Nat) (runtime : UrmaRuntime) : Prop where
  sound : Sound runtime.tables
  stock : Stock slots leased runtime.tables.pool

namespace Stocked

variable {slots leased : Nat} {runtime after : UrmaRuntime}

section

variable (stocked : Stocked slots leased runtime)
include stocked

theorem samePool (sound : Sound after.tables)
    (same : after.tables.pool = runtime.tables.pool) : Stocked slots leased after :=
  ⟨sound, same ▸ stocked.stock⟩

theorem tracking {router} (same : SameTracking runtime.tables.router router) :
    Stocked slots leased (runtime.withRouter router) :=
  ⟨stocked.sound.tracking same, stocked.stock⟩

theorem createLane (config : JettyConfig)
    (input : CreateInput) : Stocked slots leased (runtime.createLane config input).1 :=
  stocked.samePool (sound_createLane stocked.sound config input)
    (pool_createLane runtime config input)

theorem abortLane (laneId : UInt16) (marked : Except FfiError Unit) (input : ReapInput) :
    Stocked slots leased (runtime.abortLane laneId marked input).1 :=
  stocked.samePool (sound_abortLane stocked.sound laneId marked input)
    (pool_abortLane runtime laneId marked input)

theorem bindLane (laneId : UInt16)
    (descriptor : JettyDescriptor) (imported bound : Except FfiError Unit) :
    Stocked slots leased (runtime.bindLane laneId descriptor imported bound).1 :=
  stocked.samePool (sound_bindLane stocked.sound laneId descriptor imported bound)
    (pool_bindLane runtime laneId descriptor imported bound)

theorem grantSendCredit (laneId : UInt16)
    (count : Nat) : Stocked slots leased (runtime.grantSendCredit laneId count).1 :=
  stocked.samePool (sound_grantSendCredit stocked.sound laneId count)
    (pool_grantSendCredit runtime laneId count)

theorem postReceiveWindowRegistered (laneId : UInt16)
    (sequences : List UInt64) (completionTxs : List ChannelId) (shims : Nat → ShimPost) :
    Stocked slots leased
      (runtime.postReceiveWindowRegistered laneId sequences completionTxs shims).runtime := by
  refine ⟨UrmaRuntime.sound_postReceiveWindowRegistered stocked.sound _ _ _ _, ?_⟩
  unfold UrmaRuntime.postReceiveWindowRegistered
  split
  · exact stocked.stock
  · exact stocked.stock.postReceiveWindowRegistered stocked.sound _ _ _ _

theorem sendRegisteredWindow (laneId : UInt16) (lease : TxWindowLease) (sequences : List UInt64)
    (completion : ChannelId) (shims : Nat → ShimPost) :
    Stocked slots leased
      (runtime.sendRegisteredWindow laneId lease sequences completion shims).runtime := by
  refine ⟨UrmaRuntime.sound_sendRegisteredWindow stocked.sound _ _ _ _ _, ?_⟩
  unfold UrmaRuntime.sendRegisteredWindow
  split
  · exact stocked.stock
  · exact stocked.stock.sendRegisteredWindow stocked.sound _ _ _ _ _

theorem pollOnce (input : PollInput) : Stocked slots leased (runtime.pollOnce input).1 := by
  refine ⟨UrmaRuntime.sound_pollOnce stocked.sound input, ?_⟩
  have polled := stocked.stock.pollOnce stocked.sound input.polled
  unfold UrmaRuntime.pollOnce
  rw [(Spares.reapDrainedLanes _ _).pool]
  -- waking the waiters of a failed poll changes the router only
  cases (runtime.tables.pollOnce input.polled).2 <;> exact polled

theorem recycle (token : LeaseRecycle) (expected : LeaseKind) :
    (∃ error, runtime.tables.pool.recycle token expected = (runtime.tables.pool, .error error)) ∨
    ∃ pool count remaining, runtime.tables.pool.recycle token expected = (pool, .ok count) ∧
      leased = remaining + (if expected = .tx then count else 0) ∧
      Stocked slots remaining (runtime.withPool pool) := by
  have sound := stocked.sound.recycle token expected
  rcases stocked.stock.recycle stocked.sound token expected with
    refused | ⟨pool, count, remaining, freed, split, stock⟩
  · exact .inl refused
  · rw [freed] at sound
    exact .inr ⟨pool, count, remaining, freed, split, sound, stock⟩

theorem recycleRxWindow
    (lease : RegisteredRxWindowLease) : Stocked slots leased (runtime.recycleRxWindow lease).1 :=
  ⟨(stocked.sound.recycleRxCores 0 lease.cores).tracking (.emit _ _),
    stocked.stock.recycleRxCores stocked.sound 0 lease.cores⟩

end

end Stocked

namespace FabricCommand

def txSlots : FabricCommand → Nat
  | .acquireTxWindow _ txSlots | .acquireTxWindowChunks _ txSlots => txSlots
  | _ => 0

def chunkLengths : FabricCommand → Option (List Nat)
  | .acquireTxWindow length _ => some [length]
  | .acquireTxWindowChunks chunkLengths _ => some chunkLengths
  | _ => none

/-- An acquire command carries one permit for each chunk. -/
def Paid (command : FabricCommand) : Prop :=
  ∀ chunkLengths ∈ command.chunkLengths, command.txSlots = chunkLengths.length

end FabricCommand

theorem FabricCommand.reply_acquire {poisoned runtime chunkLengths txSlots}
    (admitted : Admitted (runtime.acquireTxWindowChunks chunkLengths).2)
    {kind requested available} :
    (acquire poisoned runtime chunkLengths txSlots).reply ≠
      .lease (.error (.bufferUnavailable kind requested available)) := by
  intro refused
  unfold acquire at refused
  split at refused
  next rejected =>
    cases poisoned with
    | none => cases rejected
    | some failure =>
      cases rejected
      cases refused
  · split at refused
    next failed =>
      rw [failed] at admitted
      obtain rfl := Except.error.inj (Reply.lease.inj refused)
      exact absurd (admitted _ rfl) (by simp [Error.isBufferUnavailable])
    · cases refused

namespace Stocked

variable {slots leased : Nat} {runtime : UrmaRuntime} {poisoned : Option String}
  {input : OwnerInput}

open FabricCommand

section

variable (stocked : Stocked slots leased runtime)
include stocked

/-- The permits of an acquire are spent on the slots of its lease or go back. -/
theorem acquire (poisoned : Option String) (chunkLengths : List Nat) :
    ∃ after, Stocked slots after
        (FabricCommand.acquire poisoned runtime chunkLengths chunkLengths.length).runtime ∧
      (FabricCommand.acquire poisoned runtime chunkLengths chunkLengths.length).permits + after =
        leased + chunkLengths.length := by
  have sound := stocked.sound.acquireTxWindowChunks chunkLengths
  unfold FabricCommand.acquire UrmaRuntime.acquireTxWindowChunks
  split
  · exact ⟨leased, stocked, Nat.add_comm _ _⟩
  rcases stocked.stock.acquireTxWindowChunks stocked.sound chunkLengths with
    ⟨error, pool, refused, stock⟩ | ⟨pool, lease, granted, stock⟩
  · rw [refused] at sound ⊢
    exact ⟨leased, ⟨sound, stock⟩, Nat.add_comm _ _⟩
  · rw [granted] at sound ⊢
    exact ⟨_, ⟨sound, stock⟩, Nat.zero_add _⟩

theorem handleCreateLane (poisoned : Option String) (input : OwnerInput) (config : JettyConfig) :
    Stocked slots leased (FabricCommand.handleCreateLane poisoned input runtime config).runtime ∧
      (FabricCommand.handleCreateLane poisoned input runtime config).permits = 0 := by
  have created := stocked.createLane config input.create
  unfold FabricCommand.handleCreateLane
  split
  · exact ⟨stocked, rfl⟩
  split
  next made =>
    rw [made] at created
    exact ⟨created, rfl⟩
  next made =>
    rw [made] at created
    split
    · exact ⟨created, rfl⟩
    · exact ⟨created.abortLane _ _ _, rfl⟩

theorem handleBindLane (poisoned : Option String)
    (input : OwnerInput) (laneId : UInt16) (descriptor : List UInt8) :
    Stocked slots leased
        (FabricCommand.handleBindLane poisoned input runtime laneId descriptor).runtime ∧
      (FabricCommand.handleBindLane poisoned input runtime laneId descriptor).permits = 0 := by
  unfold FabricCommand.handleBindLane
  split
  · exact ⟨stocked, rfl⟩
  split
  · exact ⟨stocked, rfl⟩
  · exact ⟨stocked.bindLane _ _ _ _, rfl⟩

theorem handleSend (poisoned : Option String) (input : OwnerInput) (laneId : UInt16)
    (lease : TxWindowLease) (sequences : List UInt64) (completion : ChannelId) :
    Stocked slots leased
        (FabricCommand.handleSend poisoned input runtime laneId lease sequences
          completion).runtime ∧
      (FabricCommand.handleSend poisoned input runtime laneId lease sequences
        completion).permits = 0 := by
  unfold FabricCommand.handleSend
  split
  · exact ⟨stocked.tracking (.emit _ _), rfl⟩
  · exact ⟨stocked.sendRegisteredWindow _ _ _ _ _, rfl⟩

/-- A recycled TX lease gives back as many permits as the book lists slots for it. -/
theorem recycleTxWindow (lease : TxWindowLease) :
    ∃ after, Stocked slots after (runtime.recycleTxWindow lease).1 ∧
      (match (runtime.recycleTxWindow lease).2 with
        | .ok count => count
        | .error _ => 0) + after = leased := by
  unfold UrmaRuntime.recycleTxWindow BufferPool.recycleTxLease
  rcases stocked.recycle lease.core .tx with
    ⟨error, refused⟩ | ⟨pool, count, remaining, freed, split, stocked'⟩
  · rw [refused]
    exact ⟨leased, stocked.tracking (.emit _ _), Nat.zero_add _⟩
  · rw [freed]
    exact ⟨remaining, stocked'.tracking (.emit _ _), by simpa [Nat.add_comm] using split.symm⟩

theorem recycleDroppedLease (token : LeaseRecycle) :
    ∃ after, Stocked slots after (runtime.recycleDroppedLease token).1 ∧
      recycledPermits (runtime.recycleDroppedLease token).2 + after = leased := by
  unfold UrmaRuntime.recycleDroppedLease BufferPool.recycleDroppedLease
  cases runtime.tables.pool.leases.record token with
  | error error => exact ⟨leased, stocked, Nat.zero_add _⟩
  | ok record =>
    dsimp only
    rcases stocked.recycle token record.kind with
      ⟨error, refused⟩ | ⟨pool, count, remaining, freed, split, stocked'⟩
    · rw [refused]
      exact ⟨leased, stocked, Nat.zero_add _⟩
    · rw [freed]
      refine ⟨remaining, stocked', ?_⟩
      rw [split, Nat.add_comm]
      cases record.kind <;> rfl

/-- Every command turns the permits it carries into listed slots or returns
them, and returns those of the slots it recycles. -/
theorem handleCommand {command} (paid : command.Paid) {handled}
    (continued : Urma.handleCommand poisoned input runtime command = .continued handled) :
    ∃ after, Stocked slots after handled.runtime ∧
      handled.permits + after = leased + command.txSlots := by
  have nothing : Stocked slots leased handled.runtime ∧ handled.permits = 0 →
      ∃ after, Stocked slots after handled.runtime ∧ handled.permits + after = leased := by
    rintro ⟨stocked', none⟩
    exact ⟨leased, stocked', by rw [none, Nat.zero_add]⟩
  cases command with
  | createLane config =>
    cases continued
    exact nothing (stocked.handleCreateLane poisoned input config)
  | bindLane laneId descriptor =>
    cases continued
    exact nothing (stocked.handleBindLane poisoned input laneId descriptor)
  | postReceiveWindowRegistered laneId sequences completionTxs =>
    cases continued
    apply nothing
    split
    · exact ⟨stocked, rfl⟩
    · exact ⟨stocked.postReceiveWindowRegistered _ _ _ _, rfl⟩
  | grantSendCredit laneId count =>
    cases continued
    apply nothing
    split
    · exact ⟨stocked, rfl⟩
    · exact ⟨stocked.grantSendCredit _ _, rfl⟩
  | acquireTxWindow length txSlots =>
    cases continued
    obtain rfl : txSlots = 1 := paid _ rfl
    exact stocked.acquire poisoned [length]
  | acquireTxWindowChunks chunkLengths txSlots =>
    cases continued
    obtain rfl : txSlots = chunkLengths.length := paid _ rfl
    exact stocked.acquire poisoned chunkLengths
  | recycleTxWindow lease =>
    cases continued
    exact stocked.recycleTxWindow lease
  | recycleRxWindow lease =>
    cases continued
    exact nothing ⟨stocked.recycleRxWindow lease, rfl⟩
  | sendRegisteredWindow laneId lease sequences completion =>
    cases continued
    exact nothing (stocked.handleSend poisoned input laneId lease sequences completion)
  | closeLane laneId =>
    cases continued
    exact nothing ⟨stocked.abortLane laneId _ _, rfl⟩
  | abortLane laneId =>
    cases continued
    exact nothing ⟨stocked.abortLane laneId _ _, rfl⟩
  | recycleLease recycle =>
    cases continued
    exact stocked.recycleDroppedLease recycle
  | shutdown => cases continued

end

end Stocked

namespace FabricCommand

theorem txSlots_of_chunkLengths_none {command : FabricCommand}
    (free : command.chunkLengths = none) : command.txSlots = 0 ∧ command.Paid := by
  cases command <;> first | exact ⟨rfl, by simp [Paid, chunkLengths]⟩ | cases free

theorem chunkLengths_of_plain {command : FabricCommand} (plain : command.plain = true) :
    command.chunkLengths = none := by
  cases command <;> first | rfl | cases plain

end FabricCommand

namespace Fabric

def queuedPermits (commands : List FabricCommand) : Nat :=
  (commands.map txSlots).sum

theorem queuedPermits_append (commands later : List FabricCommand) :
    queuedPermits (commands ++ later) = queuedPermits commands + queuedPermits later := by
  simp [queuedPermits]

theorem queuedPermits_free {commands : List FabricCommand}
    (free : ∀ command ∈ commands, command.chunkLengths = none) :
    queuedPermits commands = 0 ∧ ∀ command ∈ commands, command.Paid := by
  refine ⟨?_, fun command member => (txSlots_of_chunkLengths_none
    (free command member)).2⟩
  rw [queuedPermits, sum_eq_zero_iff]
  intro count member
  obtain ⟨command, listed, rfl⟩ := mem_map.mp member
  exact (txSlots_of_chunkLengths_none (free command listed)).1

/-- Every permit is in one of four places. -/
structure Balanced (slots : Nat) (fabric : Fabric) : Prop where
  account : ∃ leased, Stocked slots leased fabric.runtime ∧
    fabric.txSlotAdmission + fabric.permits.sum + queuedPermits fabric.commands + leased = slots
  paid : ∀ command ∈ fabric.commands, command.Paid

namespace Balanced

variable {slots : Nat} {fabric after : Fabric}

theorem queue (balanced : Balanced slots fabric) {commands}
    (free : ∀ command ∈ commands, command.chunkLengths = none) :
    Balanced slots (fabric.queue commands) := by
  obtain ⟨leased, stocked, account⟩ := balanced.account
  obtain ⟨none, paid⟩ := queuedPermits_free free
  refine ⟨⟨leased, stocked, ?_⟩, ?_⟩
  · simp only [Fabric.queue, queuedPermits_append, none]
    exact account
  · intro command member
    exact (mem_append.mp member).elim (balanced.paid command) (paid command)

theorem settle {runtime leased} (stocked : Stocked slots leased runtime)
    (account : fabric.txSlotAdmission + fabric.permits.sum + queuedPermits fabric.commands +
      leased = slots) (paid : ∀ command ∈ fabric.commands, command.Paid) :
    Balanced slots (fabric.settle runtime) := by
  have emptied : Stocked slots leased
      (runtime.withRouter { runtime.tables.router with outbox := [] }) :=
    stocked.samePool (stocked.sound.withRouter ⟨rfl, rfl, rfl, rfl⟩ rfl) rfl
  have waiting : Balanced slots
      { fabric with runtime := runtime.withRouter { runtime.tables.router with outbox := [] } } :=
    ⟨⟨leased, emptied, account⟩, paid⟩
  have free : ∀ command ∈ (runtime.tables.router.outbox.filterMap Effect.returned).map
      recycleLease, command.chunkLengths = none := by
    intro command member
    obtain ⟨token, -, rfl⟩ := mem_map.mp member
    rfl
  obtain ⟨account', paid'⟩ := waiting.queue free
  exact ⟨account', paid'⟩

section

variable (balanced : Balanced slots fabric)
include balanced

theorem handle {input phase} (handled : fabric.handle input phase = some after) :
    Balanced slots after := by
  obtain ⟨leased, stocked, account⟩ := balanced.account
  unfold Fabric.handle at handled
  split at handled
  · cases handled
  next command rest queued =>
  rw [queued, queuedPermits, map_cons, sum_cons] at account
  have paid := balanced.paid
  rw [queued, forall_mem_cons] at paid
  split at handled
  next shut =>
    cases handled
    -- only the shutdown command ends the loop
    have none : command.txSlots = 0 := by cases command <;> first | rfl | cases shut
    refine ⟨⟨leased, stocked.samePool stocked.sound rfl, ?_⟩, paid.2⟩
    rw [none, Nat.zero_add] at account
    exact account
  next outcome continued =>
    cases handled
    obtain ⟨remaining, stocked', moved⟩ := stocked.handleCommand paid.1 continued
    refine settle stocked' ?_ paid.2
    dsimp only [queuedPermits]
    omega

theorem ownerStep {action} (step : OwnerStep fabric action after) : Balanced slots after := by
  obtain ⟨leased, stocked, account⟩ := balanced.account
  cases step with
  | handle running later handled => exact balanced.handle handled
  | move => exact ⟨balanced.account, balanced.paid⟩
  | poll => exact settle (stocked.pollOnce _) account balanced.paid
  | abortNext => exact settle (stocked.abortLane _ _ _) account balanced.paid
  | drain => exact settle (stocked.pollOnce _) account balanced.paid

theorem carry {command} (held : command.txSlots ∈ fabric.permits) (paid : command.Paid) :
    Balanced slots
      (Fabric.queue { fabric with permits := fabric.permits.erase command.txSlots } [command]) := by
  obtain ⟨leased, stocked, account⟩ := balanced.account
  refine ⟨⟨leased, stocked, ?_⟩, ?_⟩
  · have sum := sum_erase held
    simp only [Fabric.queue, queuedPermits_append]
    simp only [queuedPermits, map_cons, map_nil, sum_cons, sum_nil] at account ⊢
    omega
  · intro queued member
    rcases mem_append.mp member with earlier | later
    · exact balanced.paid queued earlier
    · rw [mem_singleton.mp later]
      exact paid

/-- Leases change hands among the tasks, and commands without permits are queued. -/
theorem exchange (heldTx : List TxWindowLease) (heldRx : List RegisteredRxWindowLease) {commands}
    (free : ∀ command ∈ commands, command.chunkLengths = none) :
    Balanced slots (Fabric.queue { fabric with heldTx, heldRx } commands) := by
  have exchanged : Balanced slots { fabric with heldTx, heldRx } :=
    ⟨balanced.account, balanced.paid⟩
  exact exchanged.queue free

theorem act {action : FabricAction} (step : fabric.Step action after) : Balanced slots after := by
  obtain ⟨leased, stocked, account⟩ := balanced.account
  unfold Fabric.Step at step
  cases action with
  | submit command =>
    simp only [Fabric.act, ite_none_right_eq_some, some.injEq] at step
    obtain ⟨plain, rfl⟩ := step
    exact balanced.queue (by simpa using FabricCommand.chunkLengths_of_plain plain)
  | acquireTxSlotPermit count =>
    simp only [Fabric.act, ite_none_right_eq_some, some.injEq] at step
    obtain ⟨⟨-, -, enough⟩, rfl⟩ := step
    refine ⟨⟨leased, stocked, ?_⟩, balanced.paid⟩
    dsimp only
    rw [sum_cons]
    omega
  | dropPermit count =>
    simp only [Fabric.act, ite_none_right_eq_some, some.injEq] at step
    obtain ⟨held, rfl⟩ := step
    refine ⟨⟨leased, stocked, ?_⟩, balanced.paid⟩
    have sum := sum_erase held
    dsimp only
    omega
  | acquireTxWindow length =>
    simp only [Fabric.act, ite_none_right_eq_some, some.injEq] at step
    obtain ⟨held, rfl⟩ := step
    have paid : (FabricCommand.acquireTxWindow length 1).Paid := by
      simp [FabricCommand.Paid, FabricCommand.chunkLengths, FabricCommand.txSlots]
    exact balanced.carry held paid
  | acquireTxWindowChunks chunkLengths =>
    simp only [Fabric.act, ite_none_right_eq_some, some.injEq] at step
    obtain ⟨held, rfl⟩ := step
    have paid : (FabricCommand.acquireTxWindowChunks chunkLengths chunkLengths.length).Paid := by
      simp [FabricCommand.Paid, FabricCommand.chunkLengths, FabricCommand.txSlots]
    exact balanced.carry held paid
  | sendRegisteredWindow | recycleTxWindow | recycleRxWindow | dropTxWindow =>
    simp only [Fabric.act, ite_none_right_eq_some, some.injEq] at step
    obtain ⟨-, rfl⟩ := step
    exact balanced.exchange _ _ (by simp [FabricCommand.chunkLengths])
  | dropRxWindow lease =>
    simp only [Fabric.act, ite_none_right_eq_some, some.injEq] at step
    obtain ⟨-, rfl⟩ := step
    exact balanced.exchange _ _ (by simp [FabricCommand.chunkLengths])
  | reshape | withPipelinePermit =>
    simp only [Fabric.act, ite_none_right_eq_some, some.injEq] at step
    obtain ⟨-, rfl⟩ := step
    exact ⟨balanced.account, balanced.paid⟩
  | merge leases =>
    simp only [Fabric.act, ite_none_right_eq_some] at step
    obtain ⟨-, step⟩ := step
    split at step
    · cases step
    · cases step
      exact ⟨balanced.account, balanced.paid⟩
  | handle | beginTick | endTick | poll | abortNext | drain =>
    simp only [Fabric.act] at step
    exact balanced.ownerStep (ownerStep_of_ownerAct step)

end

end Balanced

theorem balanced_start {config capability poolId fabric}
    (started : start config capability poolId = .ok fabric) :
    Balanced config.bufferPool.txSlotCount fabric := by
  unfold start at started
  split at started
  · cases started
  next runtime returned =>
  cases started
  have sound := Started.sound ⟨config, capability, poolId, returned⟩
  obtain ⟨totalLen, router, -, created, tables, -⟩ := of_start_ok returned
  refine ⟨⟨0, ⟨sound, ?_⟩, by simp [queuedPermits]⟩, by simp⟩
  rw [tables]
  exact
    { accepting := rfl
      kind := by
        intro index inside
        exact (kind_initialSlots config.bufferPool index).trans (if_pos inside)
      fresh := by
        intro leaseId listed
        cases listed
      listed := by
        -- every slot of a new pool is free
        intro index inUse
        simp only [BufferPool.TxBusy, BufferPool.stateAt, map_eq_some_iff] at inUse
        rcases inUse with ⟨slot, found, state⟩ | ⟨slot, found, state⟩
        all_goals
          rw [getElem?_initialSlots found] at state
          cases state
      leased := rfl }

theorem le_queuedPermits {commands command} (queued : command ∈ commands) :
    command.txSlots ≤ queuedPermits commands :=
  le_sum_of_mem (mem_map_of_mem queued)

/-- In every run and for every interleaving of its tasks, the free TX slots cover
the available permits and those of the queued acquire commands; no acquire
command fails for want of slots; and there are never more permits than TX slots. -/
theorem tx_slot_admission_sound {config : RuntimeConfig} {capability : UrmaDeviceCapability}
    {poolId : Nat} {initial fabric : Fabric}
    (started : start config capability poolId = .ok initial)
    (reached : Reachable (· = initial) Step fabric) :
    fabric.txSlotAdmission + queuedPermits fabric.commands ≤
        fabric.runtime.tables.pool.freeTx.length ∧
      (∀ command ∈ fabric.commands, ∀ chunkLengths ∈ command.chunkLengths, ∀ input handled,
        handleCommand fabric.poisoned input fabric.runtime command = .continued handled →
        ∀ kind requested available,
          handled.reply ≠ .lease (.error (.bufferUnavailable kind requested available))) ∧
      fabric.txSlotAdmission + fabric.permits.sum + queuedPermits fabric.commands ≤
        config.bufferPool.txSlotCount := by
  have balanced : Balanced config.bufferPool.txSlotCount fabric :=
    Reachable.invariant (Balanced config.bufferPool.txSlotCount)
      (by rintro _ rfl; exact balanced_start started)
      (fun _ _ _ balanced step => balanced.act step) reached
  obtain ⟨leased, stocked, account⟩ := balanced.account
  have free := stocked.stock.free_le stocked.sound
  refine ⟨by omega, ?_, by omega⟩
  intro command queued chunkLengths asked input handled continued kind requested available
  have carried := le_queuedPermits queued
  have paid := balanced.paid command queued chunkLengths asked
  have admitted : Admitted (fabric.runtime.acquireTxWindowChunks chunkLengths).2 :=
    admitted_acquireTxWindowChunks stocked.stock.accepting (by omega)
  cases command with
  | acquireTxWindow length txSlots =>
    cases continued
    cases asked
    exact reply_acquire admitted
  | acquireTxWindowChunks lengths txSlots =>
    cases continued
    cases asked
    exact reply_acquire admitted
  | _ => cases asked

end Fabric

namespace Small

def ownerInput : OwnerInput where
  create := ⟨.ok (), .ok (9, 10), .ok descriptor⟩
  imported := .ok ()
  bound := .ok ()
  shims := accepting 1
  marked := .ok ()
  reap :=
    { order := [1]
      teardown := fun _ => { unbind := .ok (), unimport := .ok (), delete := .ok () } }

def fabric : Fabric where
  runtime := started
  poisoned := none
  phase := .top
  txSlotAdmission := 1
  commands := []
  permits := []
  heldTx := []
  heldRx := []

def lease : TxWindowLease where
  spans := [⟨0, 8⟩]
  layouts := [⟨⟨0, 1⟩, 0, 8⟩]
  length := 8
  core := ⟨0, 1⟩

def reacquire : List FabricAction :=
  [.acquireTxSlotPermit 1, .acquireTxWindowChunks [8], .handle ownerInput,
    .recycleTxWindow lease, .handle ownerInput, .acquireTxSlotPermit 1,
    .acquireTxWindow 8]

end Small

theorem Fabric.tx_slot_admission_reacquire :
    ∃ fabric, perform Fabric.act Small.fabric Small.reacquire = some fabric ∧
      (fabric.commands = [.acquireTxWindow 8 1] ∧ fabric.txSlotAdmission = 0) ∧
      fabric.txSlotAdmission + queuedPermits fabric.commands ≤
        fabric.runtime.tables.pool.freeTx.length := by
  obtain ⟨fabric, performed, seen⟩ :
      ∃ fabric, perform Fabric.act Small.fabric Small.reacquire = some fabric ∧
        (fabric.commands = [.acquireTxWindow 8 1] ∧ fabric.txSlotAdmission = 0) :=
    exists_perform (by decide +kernel)
  have started : Fabric.start Small.config Small.capability 0 = .ok Small.fabric := rfl
  have reached : Reachable (· = Small.fabric) Fabric.Step fabric :=
    Reachable.perform (.start rfl) (fun _ _ _ _ moved => moved) performed
  exact ⟨fabric, performed, seen, (tx_slot_admission_sound started reached).1⟩

end DragonflyClient.Urma
