import DragonflyClient.Urma.Custody

/-!
What the two post paths share.

A window is a list of distinct slots in one custody.  Each loop of a post path
moves the whole list, or a prefix of it, to another custody; the lemmas below
describe the loops one by one.
-/

namespace DragonflyClient.Urma

open Library List Function BufferPool CompletionRouter

abbrev slotIndex (id : SlotId) : Nat := id.index.toNat

def assign (custody : Nat → Custody) (ids : List SlotId) (value : Custody) : Nat → Custody :=
  fun index => if index ∈ ids.map slotIndex then value else custody index

@[simp]
theorem assign_nil (custody : Nat → Custody) (value : Custody) :
    assign custody [] value = custody := by
  funext index
  simp [assign]

theorem assign_update (custody : Nat → Custody) (id : SlotId) (rest : List SlotId)
    (value : Custody) :
    assign (Function.update custody (slotIndex id) value) rest value =
      assign custody (id :: rest) value := by
  funext index
  simp only [assign, update_apply, map_cons, mem_cons]
  split
  next member => simp [member]
  next absent => simp [absent]

theorem assign_of_mem {custody ids value id} (member : id ∈ ids) :
    assign custody ids value (slotIndex id) = value :=
  if_pos (mem_map_of_mem member)

theorem assign_of_notMem {custody ids value index} (absent : index ∉ ids.map slotIndex) :
    assign custody ids value index = custody index :=
  if_neg absent

theorem assign_assign (custody : Nat → Custody) (ids : List SlotId) (first second : Custody) :
    assign (assign custody ids first) ids second = assign custody ids second := by
  funext index
  simp only [assign]
  split <;> rfl

structure HoldsAll (custody : Nat → Custody) (pool : BufferPool) (ids : List SlotId)
    (value : Custody) : Prop where
  distinct : (ids.map slotIndex).Nodup
  held : ∀ id ∈ ids, Holds custody pool id value

namespace HoldsAll

variable {custody : Nat → Custody} {pool : BufferPool} {ids rest : List SlotId}
  {id : SlotId} {value : Custody}

section

variable (all : HoldsAll custody pool (id :: rest) value)
include all

theorem head : Holds custody pool id value :=
  all.held id mem_cons_self

theorem notMem : slotIndex id ∉ rest.map slotIndex :=
  (nodup_cons.mp all.distinct).1

theorem tail {after} (same : SamePool pool after) (next : Custody) :
    HoldsAll (Function.update custody (slotIndex id) next) after rest value where
  distinct := (nodup_cons.mp all.distinct).2
  held := by
    intro other member
    have held := all.held other (mem_cons_of_mem _ member)
    refine ⟨(same.generation _).trans held.generation, ?_⟩
    rw [update_of_ne, held.custody]
    intro same
    exact all.notMem (same ▸ mem_map_of_mem (f := slotIndex) member)

end

theorem sublist (all : HoldsAll custody pool ids value) (part : rest.Sublist ids) :
    HoldsAll custody pool rest value where
  distinct := all.distinct.sublist (part.map slotIndex)
  held id member := all.held id (part.subset member)

theorem assign_self (all : HoldsAll custody pool ids value) :
    assign custody ids value = custody := by
  funext index
  simp only [assign]
  split
  next listed =>
    obtain ⟨id, member, rfl⟩ := mem_map.mp listed
    exact (all.held id member).custody.symm
  next => rfl

theorem congr (all : HoldsAll custody pool ids value) {after} (same : SamePool pool after) :
    HoldsAll custody after ids value where
  distinct := all.distinct
  held id member :=
    ⟨(same.generation _).trans (all.held id member).generation, (all.held id member).custody⟩

theorem assigned (all : HoldsAll custody pool ids value) {after} (same : SamePool pool after)
    (next : Custody) :
    HoldsAll (assign custody ids next) after ids next where
  distinct := all.distinct
  held id member :=
    ⟨(same.generation _).trans (all.held id member).generation, assign_of_mem member⟩

end HoldsAll

/-- The entry carries the word of the token the lane makes for the slot. -/
def PostEntry.Carries (entry : PostEntry) (lane : UrmaLane) (operation : OperationType)
    (slot : SlotId) : Prop :=
  lane.id ≠ 0 ∧ lane.generation ≠ 0 ∧ entry.userCtx = (lane.token operation slot).word

/-- The outcome of a prepare loop: a prefix of the batch is marked posted, the
whole batch unless the loop reports an error, and every entry carries the token
of its slot. -/
structure Prepared (custody : Nat → Custody) (tables : OwnerTables) (lane : UrmaLane)
    (value : Custody) (operation : OperationType) (slots : List SlotId)
    (outcome : BufferPool × List PostEntry × Result Unit) : Prop where
  short : outcome.2.1.length ≤ slots.length
  complete : outcome.2.2 = .ok () → outcome.2.1.length = slots.length
  before : HoldsAll custody tables.pool (slots.take outcome.2.1.length) value
  agrees : Agrees (assign custody (slots.take outcome.2.1.length) (.marked operation))
    { tables with pool := outcome.1 }
  same : SamePool tables.pool outcome.1
  tokens : ∀ pair ∈ slots.zip outcome.2.1, pair.2.Carries lane operation pair.1

namespace Prepared

variable {custody : Nat → Custody} {tables : OwnerTables} {lane : UrmaLane}
  {value : Custody} {operation : OperationType}

theorem stop (agrees : Agrees custody tables) (slots : List SlotId) {result}
    (stopped : result = .ok () → slots = []) :
    Prepared custody tables lane value operation slots (tables.pool, [], result) where
  short := Nat.zero_le _
  complete finished := by simp [stopped finished]
  before := ⟨by simp, by simp⟩
  agrees := by simpa using agrees
  same := .refl _
  tokens := by simp

theorem cons {slot rest entry outcome}
    (prepared : Prepared (Function.update custody (slotIndex slot) (.marked operation))
      { tables with
        pool := tables.pool.setState (slotIndex slot) (Custody.marked operation).state }
      lane value operation rest outcome) (held : Holds custody tables.pool slot value)
    (differs : value ≠ .marked operation)
    (encoded : (lane.token operation slot).encode = .ok entry.userCtx) :
    Prepared custody tables lane value operation (slot :: rest)
      (outcome.1, entry :: outcome.2.1, outcome.2.2) where
  short := by simpa using prepared.short
  complete finished := by simpa using prepared.complete finished
  before := by
    have different : ∀ id ∈ rest.take outcome.2.1.length, slotIndex id ≠ slotIndex slot := by
      intro id member same
      have later := (prepared.before.held id member).custody
      rw [show id.index.toNat = slotIndex slot from same, update_self] at later
      exact differs later.symm
    rw [length_cons, take_succ_cons]
    refine ⟨?_, ?_⟩
    · rw [map_cons, nodup_cons]
      refine ⟨fun member => ?_, prepared.before.distinct⟩
      obtain ⟨id, member, same⟩ := mem_map.mp member
      exact different id member same
    · intro id member
      rcases mem_cons.mp member with rfl | later
      · exact held
      · have kept := prepared.before.held id later
        refine ⟨?_, ?_⟩
        · rw [← kept.generation]
          exact (generationAt_setState _ _ _ _).symm
        · rw [← kept.custody, update_of_ne (different id later)]
  agrees := by
    rw [length_cons, take_succ_cons, ← assign_update]
    exact prepared.agrees
  same := (SamePool.setState _ _ _).trans prepared.same
  tokens pair member := by
    rcases mem_cons.mp member with rfl | later
    · exact WrToken.of_encode_ok encoded
    · exact prepared.tokens pair later

/-- A batch that was prepared without an error is prepared as a whole. -/
theorem whole {Item : Type} {slot : Item → SlotId} {batch : List Item} {pool entries}
    (prepared : Prepared custody tables lane value operation (batch.map slot)
      (pool, entries, .ok ())) :
    entries.length = batch.length ∧
      (∀ pair ∈ batch.zip entries, pair.2.Carries lane operation (slot pair.1)) ∧
      HoldsAll custody tables.pool ((batch.zip entries).map fun pair => slot pair.1) value ∧
      Agrees (assign custody ((batch.zip entries).map fun pair => slot pair.1)
        (.marked operation)) { tables with pool } := by
  have full : entries.length = batch.length := by simpa using prepared.complete rfl
  have taken : (batch.map slot).take entries.length =
      (batch.zip entries).map fun pair => slot pair.1 := by
    rw [map_zip_left slot full.ge, take_of_length_le (by simp [full])]
  refine ⟨full, fun pair member => prepared.tokens (slot pair.1, pair.2) ?_,
    taken ▸ prepared.before, taken ▸ prepared.agrees⟩
  rw [zip_map_left]
  exact mem_map.mpr ⟨pair, member, rfl⟩

end Prepared

namespace Agrees

variable {custody : Nat → Custody} {tables : OwnerTables}

section

variable (agrees : Agrees custody tables)
include agrees

variable {value : Custody} {slot : SlotId} {lane : UrmaLane}

/-- A transition that succeeds tells which custody the slot was in. -/
theorem of_transition {id target pool}
    (unique : ∀ other : Custody, other.state = value.state → other = value)
    (moved : tables.pool.transition id value.state target = .ok pool) :
    Holds custody tables.pool id value ∧ pool = tables.pool.setState (slotIndex id) target := by
  obtain ⟨generation, state⟩ := of_transition_ok moved
  have inside : slotIndex id < tables.pool.slots.length := by
    simp only [BufferPool.stateAt, Option.map_eq_some_iff] at state
    obtain ⟨slot, found, -⟩ := state
    exact (List.getElem?_eq_some_iff.mp found).1
  have same := (agrees.state _ inside).symm.trans state
  refine ⟨⟨generation, unique _ (Option.some.inj same)⟩, ?_⟩
  rw [transition_eq target generation state] at moved
  exact (Except.ok.inj moved).symm

theorem moveAll {ids next} (all : HoldsAll custody tables.pool ids value)
    (step : value.Moves next) :
    ∃ pool, tryEach (fun pool id =>
        commit pool (pool.transition id value.state next.state)) ids tables.pool =
        (pool, .ok ()) ∧
      Agrees (assign custody ids next) { tables with pool } ∧
      SamePool tables.pool pool := by
  induction ids generalizing custody tables with
  | nil => exact ⟨tables.pool, rfl, by simpa using agrees, .refl _⟩
  | cons id rest ih =>
    have moved := agrees.transition next all.head step
    obtain ⟨pool, looped, final, same⟩ :=
      ih (agrees.move all.head.custody step) (all.tail (.setState _ _ _) next)
    refine ⟨pool, ?_, ?_, (SamePool.setState _ _ _).trans same⟩
    · rw [tryEach, moved, commit_ok, andThen_ok, looped]
    · rwa [assign_update] at final

theorem releaseAll {ids} (all : HoldsAll custody tables.pool ids value)
    (allowed : releasable value.state = true) :
    ∃ pool, tables.pool.releaseUnpostedRxWindow ids = (pool, .ok ()) ∧
      Agrees (assign custody ids .free) { tables with pool } ∧
      SamePool tables.pool pool := by
  unfold releaseUnpostedRxWindow
  induction ids generalizing custody tables with
  | nil => exact ⟨tables.pool, rfl, by simpa using agrees, .refl _⟩
  | cons id rest ih =>
    obtain ⟨released, freed, agrees', same⟩ := agrees.release all.head allowed
    obtain ⟨pool, looped, final, same'⟩ := ih agrees' (all.tail same .free)
    refine ⟨pool, ?_, ?_, same.trans same'⟩
    · rw [tryEach, freed, commit_ok, andThen_ok, looped]
    · rwa [assign_update] at final

theorem index_of_mem_freeOf {kind index} (free : index ∈ tables.pool.freeOf kind) :
    ∃ slot, tables.pool.slots[index]? = some slot ∧ (UInt16.ofNat index).toNat = index := by
  obtain ⟨-, sameKind⟩ := ((agrees.free kind).2 index).mp free
  simp only [kindAt, Option.map_eq_some_iff] at sameKind
  obtain ⟨slot, found, -⟩ := sameKind
  have inside := (List.getElem?_eq_some_iff.mp found).1
  have bounded := agrees.bounded
  exact ⟨slot, found, by simp; omega⟩

theorem allocate_eq {index rest} (accepting : tables.pool.accepting = true)
    (free : tables.pool.freeRx = index :: rest) :
    ∃ generation, generation ≠ 0 ∧
      tables.pool.allocate .rx =
        (tables.pool.claim .rx index generation .allocated,
          some ⟨UInt16.ofNat index, generation⟩) := by
  have member : index ∈ tables.pool.freeOf .rx := by simp [BufferPool.freeOf, free]
  obtain ⟨slot, found, -⟩ := agrees.index_of_mem_freeOf member
  have inside := (List.getElem?_eq_some_iff.mp found).1
  have bounded := agrees.bounded
  refine ⟨nextGeneration slot.generation, nextGeneration_ne_zero _, ?_⟩
  have modified : tables.pool.slots.set index
      { slot with generation := nextGeneration slot.generation, state := .allocated } =
      tables.pool.slots.modify index fun slot' =>
        { slot' with generation := nextGeneration slot.generation, state := .allocated } := by
    rw [List.modify_eq_set_getElem?, found]
    rfl
  simp only [BufferPool.allocate, accepting, if_true, free, BufferPool.allocate.take, found,
    SlotId.new_of_lt (nextGeneration_ne_zero _) (Nat.lt_of_lt_of_le inside bounded), modified]
  simp [BufferPool.claim, free, accepting, Except.toOption]

/-- The slots were free and now have the value; no other slot has a new generation. -/
structure Claimed (custody : Nat → Custody) (tables : OwnerTables) (value : Custody)
    (slots : List SlotId) (pool : BufferPool) : Prop where
  agrees : Agrees (assign custody slots value) { tables with pool }
  held : HoldsAll (assign custody slots value) pool slots value
  frame : SameFrame tables.pool pool
  wereFree : ∀ id ∈ slots, custody (slotIndex id) = .free
  generations : ∀ index, index ∉ slots.map slotIndex →
    pool.generationAt index = tables.pool.generationAt index

theorem Claimed.nil (value : Custody) : Claimed custody tables value [] tables.pool :=
  ⟨by simpa using agrees, ⟨nodup_nil, by simp⟩, .refl _, by simp, fun _ _ => rfl⟩

theorem Claimed.cons {kind first value slots pool}
    (member : slotIndex first ∈ tables.pool.freeOf kind)
    (claimed : Claimed (update custody (slotIndex first) value)
      { tables with
        pool := tables.pool.claim kind (slotIndex first) first.generation value.state }
      value slots pool) (busy : value ≠ .free) :
    Claimed custody tables value (first :: slots) pool := by
  obtain ⟨final, held, frame, wereFree, generations⟩ := claimed
  obtain ⟨slot, found, -⟩ := agrees.index_of_mem_freeOf member
  have inside := (List.getElem?_eq_some_iff.mp found).1
  have different : ∀ id ∈ slots, slotIndex id ≠ slotIndex first := by
    intro id listed same
    have free := wereFree id listed
    rw [same, update_self] at free
    exact busy free
  have absent : slotIndex first ∉ slots.map slotIndex := by
    intro listed
    obtain ⟨id, listed, same⟩ := mem_map.mp listed
    exact different id listed same
  rw [assign_update] at final held
  refine ⟨final, ⟨nodup_cons.mpr ⟨absent, held.distinct⟩, ?_⟩, (SameFrame.claim ..).trans frame,
    ?_, ?_⟩
  · refine forall_mem_cons.mpr ⟨⟨?_, assign_of_mem mem_cons_self⟩, held.held⟩
    rw [generations _ absent, generationAt_claim]
    simp [inside]
  · refine forall_mem_cons.mpr ⟨(((agrees.free kind).2 _).mp member).1, fun id listed => ?_⟩
    have free := wereFree id listed
    rwa [update_of_ne (different id listed)] at free
  · intro other outside
    simp only [map_cons, mem_cons, not_or] at outside
    rw [generations other outside.2, generationAt_claim]
    simp [outside.1]

theorem allocateRx (count : Nat) (accepting : tables.pool.accepting = true)
    (enough : count ≤ tables.pool.freeRx.length) :
    ∃ pool slots, BufferPool.allocateRx count tables.pool = (pool, .ok slots) ∧
      slots.length = count ∧ Claimed custody tables (.reserved .rx) slots pool := by
  induction count generalizing custody tables with
  | zero => exact ⟨tables.pool, [], rfl, rfl, .nil agrees _⟩
  | succ count ih =>
    cases free : tables.pool.freeRx with
    | nil => simp [free] at enough
    | cons index rest =>
      obtain ⟨generation, fresh, allocated⟩ := agrees.allocate_eq accepting free
      have member : index ∈ tables.pool.freeOf .rx := by simp [BufferPool.freeOf, free]
      obtain ⟨slot, found, indexed⟩ := agrees.index_of_mem_freeOf member
      let first : SlotId := ⟨UInt16.ofNat index, generation⟩
      have firstIndex : slotIndex first = index := indexed
      rw [← firstIndex] at member
      obtain ⟨pool, slots, looped, length, claimed⟩ :=
        ih (agrees.claim (.reserved .rx) member fresh (by simp) rfl rfl)
          ((SameFrame.claim ..).accepting.trans accepting) (by
          simp only [free, length_cons] at enough
          simp only [BufferPool.claim, free, firstIndex, erase_cons_head]
          omega)
      refine ⟨pool, first :: slots, ?_, by simp [length], claimed.cons agrees member (by simp)⟩
      rw [firstIndex, show (Custody.reserved .rx).state = SlotState.allocated from rfl] at looped
      simp only [BufferPool.allocateRx, allocated, looped]
      rfl

theorem allocateRxWindow (count : Nat) :
    (∃ error, tables.pool.allocateRxWindow count = (tables.pool, .error error)) ∨
    ∃ pool slots, tables.pool.allocateRxWindow count = (pool, .ok slots) ∧
      slots.length = count ∧ Claimed custody tables (.reserved .rx) slots pool := by
  unfold BufferPool.allocateRxWindow
  split
  · exact .inl ⟨_, rfl⟩
  split
  · exact .inl ⟨_, rfl⟩
  next available =>
    rw [not_or, not_not, Nat.not_lt] at available
    exact .inr (agrees.allocateRx count available.1 available.2)

theorem prepareRecv (lane : UrmaLane) {pending}
    (all : HoldsAll custody tables.pool (pending.map PendingRecv.slot) (.reserved .rx)) :
    Prepared custody tables lane (.reserved .rx) .recv (pending.map PendingRecv.slot)
      (lane.prepareRecv pending tables.pool) := by
  induction pending generalizing custody tables with
  | nil => exact .stop agrees [] fun _ => rfl
  | cons item rest ih =>
    have step : (Custody.reserved .rx).Moves (.marked .recv) :=
      ⟨by simp, by simp, rfl, rfl, fun _ fits => fits⟩
    simp only [UrmaLane.prepareRecv]
    split
    next => exact .stop agrees _ nofun
    next offset length layout =>
      have marked : tables.pool.markPosted item.slot .rx =
          .ok (tables.pool.setState (slotIndex item.slot) .postedRecv) := by
        simp only [recvPostLayout] at layout
        split at layout
        · cases layout
        next slot fields =>
          split at layout
          · cases layout
          next checked =>
            rw [not_or, not_not, not_not] at checked
            simp only [markPosted, fields, checked.1, ne_eq,
              not_true_eq_false, if_false, postedState]
            exact agrees.transition (.marked .recv) all.head step
      split
      next => exact .stop agrees _ nofun
      next userCtx encoded =>
        simp only [marked]
        exact .cons (ih (agrees.move all.head.custody step)
          (all.tail (.setState _ _ _) (.marked .recv))) all.head (by simp) encoded

theorem prepareSend (lane : UrmaLane) (pending : List UrmaLane.PendingSend) :
    Prepared custody tables lane (.leased .tx) .send (pending.map UrmaLane.PendingSend.slot)
      (lane.prepareSend pending tables.pool) := by
  induction pending generalizing custody tables with
  | nil => exact .stop agrees [] fun _ => rfl
  | cons item rest ih =>
    have step : (Custody.leased .tx).Moves (.marked .send) :=
      ⟨by simp, by simp, rfl, rfl, fun _ fits => fits⟩
    simp only [UrmaLane.prepareSend]
    split
    next => exact .stop agrees _ nofun
    next userCtx encoded =>
      split
      next => exact .stop agrees _ nofun
      next pool marked =>
        obtain ⟨held, rfl⟩ := agrees.of_transition
          (fun _ same => Custody.eq_leased_of_state .tx same) marked
        exact .cons (ih (agrees.move held.custody step)) held (by simp)
          encoded

theorem track {operation} (held : Holds custody tables.pool slot (.marked operation))
    (laneId : lane.id ≠ 0) (laneGeneration : lane.generation ≠ 0) {wr}
    (userCtx : wr.userCtx = (lane.token operation slot).word)
    (untargeted : operation = .recv → wr.completion = none) {router}
    (outstanding : ∀ other, router.outstandingAt other =
      if other = slotIndex slot then some wr else tables.router.outstandingAt other) :
    Agrees (Function.update custody (slotIndex slot) (.posted operation wr))
      { tables with router } := by
  have state : ∀ kind, (Custody.marked operation).fits kind →
      (Custody.posted operation wr).fits kind := by
    intro kind fits
    cases operation <;> exact fits
  refine agrees.retrack (held.custody ▸ by simp) (by simp) ?_ (held.custody ▸ state)
    outstanding ?_
  · rw [held.custody]
    cases operation <;> rfl
  · rintro operation' wr' same
    obtain ⟨rfl, rfl⟩ : operation = operation' ∧ wr = wr' := by simpa using same
    refine ⟨⟨lane.id, lane.generation, slot.generation, laneId, laneGeneration,
      held.generation, ?_⟩, untargeted⟩
    rw [userCtx]
    simp [UrmaLane.token]

theorem decode_token (operation : OperationType) (held : Holds custody tables.pool slot value)
    (busy : value ≠ .free) (laneId : lane.id ≠ 0) (laneGeneration : lane.generation ≠ 0) :
    WrToken.decode (lane.token operation slot).word = .ok (lane.token operation slot) := by
  obtain ⟨generation, found, live⟩ := agrees.live (slotIndex slot) (held.custody ▸ busy)
  obtain rfl : slot.generation = generation := Option.some.inj (held.generation.symm.trans found)
  exact WrToken.decode_word laneId laneGeneration live

/-- Registering a receive after its post never fails: the slot carries no other
work request and its identity was checked before. -/
theorem trackRegisteredRx (held : Holds custody tables.pool slot (.marked .recv))
    (laneId : lane.id ≠ 0) (laneGeneration : lane.generation ≠ 0) {sequence}
    (fresh : (lane.id, sequence) ∉ tables.router.registeredRxByIdentity) (channel : ChannelId) :
    let token := lane.token .recv slot
    let router := tables.router.recordRx token token.word sequence channel
    tables.router.trackRegisteredRx token.word (some sequence) channel = .ok router ∧
      Agrees (update custody (slotIndex slot)
        (.posted .recv ⟨token.word, some sequence, none⟩)) { tables with router } := by
  intro token router
  have decoded := agrees.decode_token .recv held (by simp) laneId laneGeneration
  have vacant : tables.router.outstandingAt (slotIndex slot) = none := by
    rw [agrees.tracked, held.custody]
    rfl
  refine ⟨?_, agrees.track held laneId laneGeneration rfl (fun _ => rfl)
    fun _ => join_putOutstanding _ _ _ _⟩
  simp only [CompletionRouter.trackRegisteredRx, token, decoded]
  simp [UrmaLane.token, fresh, vacant, router, token]

theorem trackRegisteredTx (held : Holds custody tables.pool slot (.marked .send))
    (laneId : lane.id ≠ 0) (laneGeneration : lane.generation ≠ 0) (sequence : UInt64)
    (window : WindowId) :
    let token := lane.token .send slot
    let router := tables.router.recordTx token token.word sequence window
    tables.router.trackRegisteredTx token.word sequence window = .ok router ∧
      Agrees (update custody (slotIndex slot)
        (.posted .send ⟨token.word, some sequence, some window⟩)) { tables with router } := by
  intro token router
  have decoded := agrees.decode_token .send held (by simp) laneId laneGeneration
  have vacant : tables.router.outstandingAt (slotIndex slot) = none := by
    rw [agrees.tracked, held.custody]
    rfl
  refine ⟨?_, agrees.track held laneId laneGeneration rfl nofun
    fun _ => join_putOutstanding _ _ _ _⟩
  simp only [CompletionRouter.trackRegisteredTx, token, decoded]
  simp [UrmaLane.token, vacant, router, token]

end

end Agrees

section Dispatch

variable {Item : Type}

/-- The custody map after a post call accepted the first items of a batch: their
slots are posted with their work requests, the others fall to `leftover`. -/
def dispatch (operation : OperationType) (leftover : Custody)
    (wr : Item → SlotId × OutstandingWr) : List Item → Nat → (Nat → Custody) → Nat → Custody
  | [], _, custody => custody
  | item :: rest, 0, custody =>
    dispatch operation leftover wr rest 0 (update custody (slotIndex (wr item).1) leftover)
  | item :: rest, posted + 1, custody =>
    dispatch operation leftover wr rest posted
      (update custody (slotIndex (wr item).1) (.posted operation (wr item).2))

variable {operation : OperationType} {leftover : Custody} {wr : Item → SlotId × OutstandingWr}
  {items : List Item} {posted : Nat} {custody : Nat → Custody}

theorem dispatch_outside {index} (outside : index ∉ items.map fun item => slotIndex (wr item).1) :
    dispatch operation leftover wr items posted custody index = custody index := by
  induction items generalizing posted custody with
  | nil => rfl
  | cons item rest ih =>
    simp only [map_cons, mem_cons, not_or] at outside
    cases posted with
    | zero => rw [dispatch, ih outside.2, update_of_ne outside.1]
    | succ posted => rw [dispatch, ih outside.2, update_of_ne outside.1]

section

variable (wr) (distinct : (items.map fun item => slotIndex (wr item).1).Nodup) {item : Item}
include distinct

theorem dispatch_returned (member : item ∈ items.drop posted) :
    dispatch operation leftover wr items posted custody (slotIndex (wr item).1) = leftover := by
  induction items generalizing posted custody with
  | nil => simp at member
  | cons first rest ih =>
    simp only [map_cons, nodup_cons] at distinct
    cases posted with
    | zero =>
      rcases mem_cons.mp member with rfl | later
      · rw [dispatch, dispatch_outside distinct.1, update_self]
      · exact ih distinct.2 (by simpa using later)
    | succ posted => exact ih distinct.2 member

theorem dispatch_accepted (member : item ∈ items.take posted) :
    dispatch operation leftover wr items posted custody (slotIndex (wr item).1) =
      .posted operation (wr item).2 := by
  induction items generalizing posted custody with
  | nil => simp at member
  | cons first rest ih =>
    simp only [map_cons, nodup_cons] at distinct
    cases posted with
    | zero => simp at member
    | succ posted =>
      rcases mem_cons.mp member with rfl | later
      · rw [dispatch, dispatch_outside distinct.1, update_self]
      · exact ih distinct.2 later

end

end Dispatch

/-- An accepted post call reports a prefix, the whole list unless it failed. -/
theorem of_postList_ok {count posted shim error}
    (accepted : postList count shim = .ok (posted, error)) :
    posted ≤ count ∧ (error = none → posted = count) := by
  unfold postList at accepted
  split at accepted
  · cases accepted
  split at accepted
  · cases accepted
  next checked =>
    split at accepted
    · cases accepted
    next =>
      rw [not_or, not_and, not_not] at checked
      cases accepted
      refine ⟨by omega, fun finished => checked.2 ?_⟩
      by_contra failed
      simp [failed] at finished

end DragonflyClient.Urma
