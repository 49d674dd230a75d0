import DragonflyClient.Library.Transition
import DragonflyClient.Urma.Runtime

/-!
Who has custody of each buffer slot.

The pool and the completion router are two tables in two modules.  The abstract
view of both is one map from slots to their custodian; `Agrees` says that the
tables represent that map.  Every table operation is shown to follow one update
of the map, and the ownership results are read off the map.
-/

namespace DragonflyClient.Urma

open Library List Function Option BufferPool

inductive Custody where
  | free
  /-- Allocated to a window that is being posted. -/
  | reserved (kind : SlotKind)
  /-- In a posted state without a tracked work request. -/
  | marked (operation : OperationType)
  /-- Owned by the provider through a tracked work request. -/
  | posted (operation : OperationType) (wr : OutstandingWr)
  | completed (operation : OperationType)
  | leased (kind : LeaseKind)
  deriving DecidableEq, Repr

namespace Custody

def state : Custody → SlotState
  | .free => .free
  | .reserved _ => .allocated
  | .marked .send | .posted .send _ => .sendPosted
  | .marked .recv | .posted .recv _ => .postedRecv
  | .completed .send => .sendCompleted
  | .completed .recv => .recvCompleted
  | .leased .rx => .leasedRx
  | .leased .tx => .leasedTx

/-- The work request the router tracks for a slot in this custody. -/
def wr : Custody → Option OutstandingWr
  | .posted _ wr => some wr
  | _ => none

def fits : Custody → SlotKind → Prop
  | .free, _ => True
  | .reserved expected, kind => kind = expected
  | .marked .send, kind | .posted .send _, kind | .completed .send, kind => kind = .tx
  | .marked .recv, kind | .posted .recv _, kind | .completed .recv, kind => kind = .rx
  | .leased .rx, kind => kind = .rx
  | .leased .tx, kind => kind = .tx

theorem wr_eq_some {custody : Custody} {request} :
    custody.wr = some request ↔ ∃ operation, custody = .posted operation request := by
  cases custody <;> simp [wr]

theorem eq_leased_of_state {custody} (kind : LeaseKind)
    (same : custody.state = (leased kind).state) : custody = leased kind := by
  cases kind <;> cases custody with
  | leased kind => cases kind <;> simp_all [state]
  | marked operation | completed operation => cases operation <;> simp [state] at same
  | posted operation wr => cases operation <;> simp [state] at same
  | free | reserved => simp [state] at same

/-- A change between two custodies that are neither free nor tracked. -/
structure Moves (value next : Custody) : Prop where
  busy : value ≠ .free
  stillBusy : next ≠ .free
  untracked : value.wr = none
  stillUntracked : next.wr = none
  fits : ∀ kind, value.fits kind → next.fits kind

def settled : Custody → Prop
  | .free | .posted _ _ | .leased _ => True
  | _ => False

end Custody

namespace BufferPool

def freeOf (pool : BufferPool) : SlotKind → List Nat
  | .tx => pool.freeTx
  | .rx => pool.freeRx

def kindAt (pool : BufferPool) (index : Nat) : Option SlotKind :=
  pool.slots[index]?.map BufferSlot.kind

def generationAt (pool : BufferPool) (index : Nat) : Option UInt16 :=
  pool.slots[index]?.map BufferSlot.generation

def stateAt (pool : BufferPool) (index : Nat) : Option SlotState :=
  pool.slots[index]?.map BufferSlot.state

def setState (pool : BufferPool) (index : Nat) (state : SlotState) : BufferPool :=
  { pool with slots := pool.slots.modify index fun slot => { slot with state } }

section Modify

variable {Value : Type} {read : BufferSlot → Value} {change : BufferSlot → BufferSlot}
  (slots : List BufferSlot) (index other : Nat)

theorem read_modify_of_const {value} (written : ∀ slot, read (change slot) = value) :
    (slots.modify index change)[other]?.map read =
      if other = index ∧ other < slots.length then some value else slots[other]?.map read := by
  rw [getElem?_modify]
  by_cases same : index = other
  · subst same
    by_cases inside : index < slots.length <;> simp [inside, written]
  · simp [same, Ne.symm same]

theorem read_modify_of_same (kept : ∀ slot, read (change slot) = read slot) :
    (slots.modify index change)[other]?.map read = slots[other]?.map read := by
  rw [getElem?_modify]
  split <;> cases slots[other]? <;> simp [kept]

end Modify

theorem stateAt_setState (pool : BufferPool) (index other : Nat) (state : SlotState) :
    (pool.setState index state).stateAt other =
      if other = index ∧ other < pool.slots.length then some state
      else pool.stateAt other :=
  read_modify_of_const _ _ _ fun _ => rfl

@[simp]
theorem kindAt_setState (pool : BufferPool) (index other : Nat) (state : SlotState) :
    (pool.setState index state).kindAt other = pool.kindAt other :=
  read_modify_of_same _ _ _ fun _ => rfl

@[simp]
theorem generationAt_setState (pool : BufferPool) (index other : Nat) (state : SlotState) :
    (pool.setState index state).generationAt other = pool.generationAt other :=
  read_modify_of_same _ _ _ fun _ => rfl

@[simp]
theorem length_setState (pool : BufferPool) (index : Nat) (state : SlotState) :
    (pool.setState index state).slots.length = pool.slots.length := by
  simp [setState]

@[simp]
theorem freeOf_setState (pool : BufferPool) (index : Nat) (state : SlotState)
    (kind : SlotKind) : (pool.setState index state).freeOf kind = pool.freeOf kind := by
  cases kind <;> rfl

variable {pool : BufferPool} {id : SlotId}

theorem transition_eq {source} (target : SlotState)
    (generation : pool.generationAt id.index.toNat = some id.generation)
    (state : pool.stateAt id.index.toNat = some source) :
    pool.transition id source target = .ok (pool.setState id.index.toNat target) := by
  simp only [generationAt, stateAt, Option.map_eq_some_iff] at generation state
  obtain ⟨slot, found, sameGeneration⟩ := generation
  obtain ⟨slot', found', sameState⟩ := state
  obtain rfl : slot = slot' := Option.some.inj (found.symm.trans found')
  have modified : pool.slots.set id.index.toNat { slot with state := target } =
      pool.slots.modify id.index.toNat fun slot => { slot with state := target } := by
    rw [List.modify_eq_set_getElem?, found]
    rfl
  simp only [transition, found]
  rw [if_neg (not_not.mpr sameGeneration), if_neg (not_not.mpr sameState), modified]
  rfl

theorem of_transition_ok {after source target}
    (moved : pool.transition id source target = .ok after) :
    pool.generationAt id.index.toNat = some id.generation ∧
      pool.stateAt id.index.toNat = some source := by
  simp only [transition] at moved
  split at moved
  · cases moved
  next slot found =>
    split at moved
    · cases moved
    next sameGeneration =>
      split at moved
      · cases moved
      next sameState =>
        rw [not_not] at sameGeneration sameState
        simp [generationAt, stateAt, found, sameGeneration, sameState]

theorem of_slotFields_ok {slot} (fields : pool.slotFields id = .ok slot) :
    pool.generationAt id.index.toNat = some id.generation ∧
      pool.stateAt id.index.toNat = some slot.state := by
  simp only [slotFields] at fields
  split at fields
  · cases fields
  next found =>
    split at fields
    · cases fields
    next sameGeneration =>
      rw [not_not] at sameGeneration
      cases fields
      simp [generationAt, stateAt, found, sameGeneration]

def addFree (pool : BufferPool) (kind : SlotKind) (index : Nat) : BufferPool :=
  match kind with
  | .tx => { pool with freeTx := index :: pool.freeTx }
  | .rx => { pool with freeRx := pool.freeRx ++ [index] }

@[simp]
theorem slots_addFree (pool : BufferPool) (kind : SlotKind) (index : Nat) :
    (pool.addFree kind index).slots = pool.slots := by
  cases kind <;> rfl

section AddFree

variable (pool : BufferPool) (kind : SlotKind) (index other : Nat)

@[simp]
theorem stateAt_addFree : (pool.addFree kind index).stateAt other = pool.stateAt other := by
  simp only [stateAt, slots_addFree]

@[simp]
theorem kindAt_addFree : (pool.addFree kind index).kindAt other = pool.kindAt other := by
  simp only [kindAt, slots_addFree]

@[simp]
theorem generationAt_addFree :
    (pool.addFree kind index).generationAt other = pool.generationAt other := by
  simp only [generationAt, slots_addFree]

end AddFree

theorem mem_freeOf_addFree (pool : BufferPool) (kind other : SlotKind) (index candidate : Nat) :
    candidate ∈ (pool.addFree kind index).freeOf other ↔
      (other = kind ∧ candidate = index) ∨ candidate ∈ pool.freeOf other := by
  cases kind <;> cases other <;> simp [addFree, freeOf, or_comm]

theorem nodup_freeOf_addFree {kind index} (absent : index ∉ pool.freeOf kind) {other}
    (nodup : (pool.freeOf other).Nodup) :
    ((pool.addFree kind index).freeOf other).Nodup := by
  cases kind <;> cases other
  · exact nodup_cons.mpr ⟨absent, nodup⟩
  · exact nodup
  · exact nodup
  · rw [show ((pool.addFree .rx index).freeOf .rx) = pool.freeRx ++ [index] from rfl,
      ← concat_eq_append, nodup_concat]
    exact ⟨absent, nodup⟩

theorem release_eq {state kind} (generation : pool.generationAt id.index.toNat = some id.generation)
    (found : pool.stateAt id.index.toNat = some state) (allowed : releasable state = true)
    (sameKind : pool.kindAt id.index.toNat = some kind) :
    pool.release id = .ok ((pool.setState id.index.toNat .free).addFree kind id.index.toNat) := by
  simp only [generationAt, stateAt, kindAt, map_eq_some_iff]
    at generation found sameKind
  obtain ⟨slot, present, rfl⟩ := found
  simp only [present, some.injEq, exists_eq_left'] at generation sameKind
  have modified : pool.slots.set id.index.toNat { slot with state := .free } =
      pool.slots.modify id.index.toNat fun slot => { slot with state := .free } := by
    rw [modify_eq_set_getElem?, present]
    rfl
  simp only [release, present]
  rw [if_neg (not_not.mpr generation), if_neg (not_not.mpr allowed), modified]
  cases kind <;> simp only [sameKind] <;> rfl

def claim (pool : BufferPool) (kind : SlotKind) (index : Nat) (generation : UInt16)
    (state : SlotState) : BufferPool :=
  let slots := pool.slots.modify index fun slot => { slot with generation, state }
  match kind with
  | .tx => { pool with slots, freeTx := pool.freeTx.erase index }
  | .rx => { pool with slots, freeRx := pool.freeRx.erase index }

section Claim

variable (pool : BufferPool) (kind : SlotKind) (index : Nat) (generation : UInt16)
  (state : SlotState)

theorem slots_claim :
    (pool.claim kind index generation state).slots =
      pool.slots.modify index fun slot => { slot with generation, state } := by
  cases kind <;> rfl

theorem freeOf_claim (other : SlotKind) :
    (pool.claim kind index generation state).freeOf other =
      if other = kind then (pool.freeOf other).erase index else pool.freeOf other := by
  cases kind <;> cases other <;> rfl

@[simp]
theorem kindAt_claim (other : Nat) :
    (pool.claim kind index generation state).kindAt other = pool.kindAt other := by
  rw [kindAt, slots_claim]
  exact read_modify_of_same _ _ _ fun _ => rfl

theorem generationAt_claim (other : Nat) :
    (pool.claim kind index generation state).generationAt other =
      if other = index ∧ other < pool.slots.length then some generation
      else pool.generationAt other := by
  rw [generationAt, slots_claim]
  exact read_modify_of_const _ _ _ fun _ => rfl

theorem stateAt_claim (other : Nat) :
    (pool.claim kind index generation state).stateAt other =
      if other = index ∧ other < pool.slots.length then some state
      else pool.stateAt other := by
  rw [stateAt, slots_claim]
  exact read_modify_of_const _ _ _ fun _ => rfl

end Claim

end BufferPool

theorem CompletionRouter.join_putOutstanding (entries : List (Option OutstandingWr))
    (index other : Nat) (entry : Option OutstandingWr) :
    (putOutstanding entries index entry)[other]?.join =
      if other = index then entry else entries[other]?.join := by
  have long : index < (entries ++ List.replicate (index + 1 - entries.length) none).length := by
    simp
    omega
  rw [putOutstanding, getElem?_set]
  by_cases same : index = other
  · subst same
    rw [if_pos rfl, if_pos long, if_pos rfl]
    rfl
  · simp only [same, if_false, Ne.symm same]
    rw [getElem?_append]
    split
    next => rfl
    next outside =>
      rw [getElem?_eq_none (Nat.le_of_not_lt outside), getElem?_replicate]
      split <;> rfl

/-- The `user_ctx` of a work request names its slot, the slot's generation and its
operation; a receive has no completion target of its own. -/
structure Stamped (pool : BufferPool) (index : Nat) (operation : OperationType)
    (wr : OutstandingWr) : Prop where
  token : ∃ (laneId : UInt16) (laneGeneration : UInt8) (generation : UInt16),
    laneId ≠ 0 ∧ laneGeneration ≠ 0 ∧ pool.generationAt index = some generation ∧
    wr.userCtx = WrToken.word
      ⟨laneId, laneGeneration, operation, ⟨UInt16.ofNat index, generation⟩⟩
  untargeted : operation = .recv → wr.completion = none

theorem Stamped.congr {before after index operation wr}
    (stamped : Stamped before index operation wr)
    (same : after.generationAt index = before.generationAt index) :
    Stamped after index operation wr :=
  ⟨by simpa only [same] using stamped.token, stamped.untargeted⟩

structure Agrees (custody : Nat → Custody) (tables : OwnerTables) : Prop where
  bounded : tables.pool.slots.length ≤ 65536
  state : ∀ index, index < tables.pool.slots.length →
    tables.pool.stateAt index = some (custody index).state
  kind : ∀ index kind, tables.pool.kindAt index = some kind → (custody index).fits kind
  live : ∀ index, custody index ≠ .free →
    ∃ generation, tables.pool.generationAt index = some generation ∧ generation ≠ 0
  tracked : ∀ index, tables.router.outstandingAt index = (custody index).wr
  stamped : ∀ index operation wr, custody index = .posted operation wr →
    Stamped tables.pool index operation wr
  free : ∀ kind, (tables.pool.freeOf kind).Nodup ∧
    ∀ index, index ∈ tables.pool.freeOf kind ↔
      custody index = .free ∧ tables.pool.kindAt index = some kind

/-- A slot identity is current and its slot is in the given custody. -/
structure Holds (custody : Nat → Custody) (pool : BufferPool) (id : SlotId)
    (value : Custody) : Prop where
  generation : pool.generationAt id.index.toNat = some id.generation
  custody : custody id.index.toNat = value

structure SameFrame (before after : BufferPool) : Prop where
  length : after.slots.length = before.slots.length
  kind : ∀ index, after.kindAt index = before.kindAt index
  leases : after.leases = before.leases
  segment : after.segment = before.segment
  accepting : after.accepting = before.accepting

namespace SameFrame

@[refl]
theorem refl (pool : BufferPool) : SameFrame pool pool :=
  ⟨rfl, fun _ => rfl, rfl, rfl, rfl⟩

theorem trans {first second third} (left : SameFrame first second)
    (right : SameFrame second third) : SameFrame first third where
  length := right.length.trans left.length
  kind index := (right.kind index).trans (left.kind index)
  leases := right.leases.trans left.leases
  segment := right.segment.trans left.segment
  accepting := right.accepting.trans left.accepting

theorem setState (pool : BufferPool) (index : Nat) (state : SlotState) :
    SameFrame pool (pool.setState index state) :=
  ⟨by simp, by simp, rfl, rfl, rfl⟩

theorem claim (pool : BufferPool) (kind : SlotKind) (index : Nat) (generation : UInt16)
    (state : SlotState) : SameFrame pool (pool.claim kind index generation state) where
  length := by simp [slots_claim]
  kind := by simp
  leases := by cases kind <;> rfl
  segment := by cases kind <;> rfl
  accepting := by cases kind <;> rfl

theorem withLeases {before after} (same : SameFrame before after) (leases : LeaseBook) :
    SameFrame { before with leases } { after with leases } :=
  ⟨same.length, same.kind, rfl, same.segment, same.accepting⟩

end SameFrame

/-- Nothing a later step reads differs, except the states of slots. -/
structure SamePool (before after : BufferPool) : Prop extends SameFrame before after where
  generation : ∀ index, after.generationAt index = before.generationAt index

namespace SamePool

@[refl]
theorem refl (pool : BufferPool) : SamePool pool pool :=
  ⟨.refl _, fun _ => rfl⟩

theorem trans {first second third} (left : SamePool first second) (right : SamePool second third) :
    SamePool first third :=
  ⟨left.toSameFrame.trans right.toSameFrame,
    fun index => (right.generation index).trans (left.generation index)⟩

theorem setState (pool : BufferPool) (index : Nat) (state : SlotState) :
    SamePool pool (pool.setState index state) :=
  ⟨.setState _ _ _, fun _ => generationAt_setState _ _ _ _⟩

theorem withLeases {before after} (same : SamePool before after) (leases : LeaseBook) :
    SamePool { before with leases } { after with leases } :=
  ⟨same.toSameFrame.withLeases leases, same.generation⟩

end SamePool

namespace Agrees

variable {custody : Nat → Custody} {tables : OwnerTables}

section

variable (agrees : Agrees custody tables)
include agrees

theorem inside (index : Nat) (busy : custody index ≠ .free) : index < tables.pool.slots.length := by
  obtain ⟨generation, found, -⟩ := agrees.live index busy
  simp only [generationAt, map_eq_some_iff] at found
  obtain ⟨slot, found, -⟩ := found
  exact (List.getElem?_eq_some_iff.mp found).1

variable {index : Nat} {value : Custody}

theorem stateAt (held : custody index = value) (busy : value ≠ .free) :
    tables.pool.stateAt index = some value.state := by
  rw [agrees.state index (agrees.inside index (held ▸ busy)), held]

theorem congr_router {router}
    (same : ∀ index, router.outstandingAt index = tables.router.outstandingAt index) :
    Agrees custody { tables with router } :=
  { agrees with tracked := fun index => (same index).trans (agrees.tracked index) }

theorem congr_pool (pool : BufferPool) (slots : pool.slots = tables.pool.slots)
    (freeTx : pool.freeTx = tables.pool.freeTx) (freeRx : pool.freeRx = tables.pool.freeRx) :
    Agrees custody { tables with pool } := by
  have kindAt : pool.kindAt = tables.pool.kindAt := by
    funext index
    simp only [BufferPool.kindAt, slots]
  have generationAt : pool.generationAt = tables.pool.generationAt := by
    funext index
    simp only [BufferPool.generationAt, slots]
  have freeOf : pool.freeOf = tables.pool.freeOf := by
    funext kind
    cases kind <;> assumption
  exact
    { bounded := slots ▸ agrees.bounded
      state := by
        simp only [BufferPool.stateAt, slots]
        exact agrees.state
      kind := by simpa only [kindAt] using agrees.kind
      live := by simpa only [generationAt] using agrees.live
      tracked := agrees.tracked
      stamped := fun index operation wr posted =>
        (agrees.stamped index operation wr posted).congr (congrFun generationAt index)
      free := by simpa only [kindAt, freeOf] using agrees.free }

theorem notMem_freeOf (busy : custody index ≠ .free) (kind : SlotKind) :
    index ∉ tables.pool.freeOf kind :=
  fun member => busy (((agrees.free kind).2 index).mp member).1

/-- One slot changes its custody: what the tables do there, and nowhere else. -/
theorem change {next pool router} (length : pool.slots.length = tables.pool.slots.length)
    (state : ∀ other, pool.stateAt other =
      if other = index ∧ other < tables.pool.slots.length then some next.state
      else tables.pool.stateAt other)
    (kind : ∀ other, pool.kindAt other = tables.pool.kindAt other)
    (fits : ∀ kind, tables.pool.kindAt index = some kind → next.fits kind)
    (generation : ∀ other, other ≠ index →
      pool.generationAt other = tables.pool.generationAt other)
    (live : next ≠ .free → ∃ generation,
      pool.generationAt index = some generation ∧ generation ≠ 0)
    (tracked : ∀ other, router.outstandingAt other =
      if other = index then next.wr else tables.router.outstandingAt other)
    (stamped : ∀ operation wr, next = .posted operation wr → Stamped pool index operation wr)
    (free : ∀ kind, (pool.freeOf kind).Nodup ∧ ∀ other, other ∈ pool.freeOf kind ↔
      if other = index then next = .free ∧ tables.pool.kindAt other = some kind
      else other ∈ tables.pool.freeOf kind) :
    Agrees (Function.update custody index next) { pool, router } := by
  constructor
  case bounded => exact length ▸ agrees.bounded
  case state =>
    intro other bound
    rw [length] at bound
    rw [state, update_apply]
    by_cases same : other = index
    · rw [if_pos ⟨same, bound⟩, if_pos same]
    · simpa [same] using agrees.state other bound
  case kind =>
    intro other otherKind found
    rw [kind] at found
    rw [update_apply]
    split
    next same => exact fits otherKind (same ▸ found)
    next => exact agrees.kind other otherKind found
  case live =>
    intro other busy
    rw [update_apply] at busy
    split at busy
    next same => exact same ▸ live busy
    next apart => exact (generation other apart).symm ▸ agrees.live other busy
  case tracked =>
    intro other
    rw [tracked, agrees.tracked, update_apply]
    split <;> rfl
  case stamped =>
    intro other operation wr posted
    rw [update_apply] at posted
    split at posted
    next same => exact same ▸ stamped operation wr posted
    next apart => exact (agrees.stamped other operation wr posted).congr (generation other apart)
  case free =>
    intro kind'
    refine ⟨(free kind').1, fun other => ?_⟩
    rw [(free kind').2, (agrees.free kind').2, kind, update_apply]
    split <;> rfl

theorem move {next} (held : custody index = value) (step : value.Moves next) :
    Agrees (Function.update custody index next)
      { tables with pool := tables.pool.setState index next.state } := by
  have busy : custody index ≠ .free := held ▸ step.busy
  refine agrees.change (by simp) (fun other => stateAt_setState ..) (by simp) ?_ (by simp) ?_ ?_
    ?_ ?_
  · exact fun kind found => step.fits kind (held ▸ agrees.kind index kind found)
  · intro _
    rw [generationAt_setState]
    exact agrees.live index busy
  · intro other
    split
    next same => rw [agrees.tracked, same, held, step.untracked, step.stillUntracked]
    next => rfl
  · intro operation wr posted
    have untracked := step.stillUntracked
    rw [posted] at untracked
    cases untracked
  · intro kind
    rw [freeOf_setState]
    refine ⟨(agrees.free kind).1, fun other => ?_⟩
    split
    next same => simp [same, agrees.notMem_freeOf busy kind, step.stillBusy]
    next => rfl

theorem transition {id} (next : Custody) (held : Holds custody tables.pool id value)
    (step : value.Moves next) :
    tables.pool.transition id value.state next.state =
      .ok (tables.pool.setState id.index.toNat next.state) :=
  transition_eq _ held.generation (agrees.stateAt held.custody step.busy)

theorem release {id} (held : Holds custody tables.pool id value)
    (allowed : releasable value.state = true) :
    ∃ pool, tables.pool.release id = .ok pool ∧
      Agrees (Function.update custody id.index.toNat .free) { tables with pool } ∧
      SamePool tables.pool pool := by
  have busy : value ≠ .free := by
    rintro rfl
    simp [Custody.state, releasable] at allowed
  have untracked : value.wr = none := by
    cases value with
    | posted operation wr => cases operation <;> simp [Custody.state, releasable] at allowed
    | _ => rfl
  have inside := agrees.inside _ (held.custody ▸ busy)
  have absent := agrees.notMem_freeOf (held.custody ▸ busy)
  obtain ⟨kind, sameKind⟩ : ∃ kind, tables.pool.kindAt id.index.toNat = some kind :=
    ⟨tables.pool.slots[id.index.toNat].kind, by
      simp only [kindAt, getElem?_eq_getElem inside, map_some]⟩
  have same : SamePool tables.pool
      ((tables.pool.setState id.index.toNat .free).addFree kind id.index.toNat) := by
    refine ⟨⟨by simp, by simp, ?_, ?_, ?_⟩, by simp⟩ <;> cases kind <;> rfl
  refine ⟨_, release_eq held.generation (agrees.stateAt held.custody busy) allowed sameKind,
    agrees.change same.length ?_ same.kind (fun _ _ => trivial) (fun other _ =>
      same.generation other) (fun busy => absurd rfl busy) ?_ (by simp) ?_, same⟩
  · intro other
    rw [stateAt_addFree, stateAt_setState]
    rfl
  · intro other
    split
    next same => rw [agrees.tracked, same, held.custody, untracked]; rfl
    next => rfl
  · intro other
    refine ⟨nodup_freeOf_addFree (by simpa using absent kind)
      (by simpa using (agrees.free other).1), fun candidate => ?_⟩
    rw [mem_freeOf_addFree, freeOf_setState]
    split
    next same => simp [same, sameKind, absent, eq_comm]
    next apart => simp [apart]

theorem claim {kind generation} (next : Custody) (free : index ∈ tables.pool.freeOf kind)
    (fresh : generation ≠ 0) (busy : next ≠ .free) (untracked : next.wr = none)
    (fits : next.fits kind) :
    Agrees (Function.update custody index next)
      { tables with pool := tables.pool.claim kind index generation next.state } := by
  obtain ⟨held, sameKind⟩ := ((agrees.free kind).2 index).mp free
  obtain ⟨slot, found, -⟩ := map_eq_some_iff.mp sameKind
  have inside := (List.getElem?_eq_some_iff.mp found).1
  refine agrees.change (by simp [slots_claim]) (fun other => stateAt_claim ..) (by simp) ?_ ?_ ?_
    ?_ ?_ ?_
  · exact fun otherKind found => some.inj (sameKind.symm.trans found) ▸ fits
  · exact fun other apart => by rw [generationAt_claim, if_neg (by simp [apart])]
  · exact fun _ => ⟨generation, by simp [generationAt_claim, inside], fresh⟩
  · intro other
    split
    next same => rw [agrees.tracked, same, held, untracked]; rfl
    next => rfl
  · intro operation wr posted
    rw [posted] at untracked
    cases untracked
  · intro other
    have nodup := (agrees.free other).1
    rw [freeOf_claim]
    split
    next =>
      refine ⟨nodup.erase index, fun candidate => ?_⟩
      rw [nodup.mem_erase_iff]
      split
      next taken => simp [taken, busy]
      next apart => simp [apart]
    next different =>
      refine ⟨nodup, fun candidate => ?_⟩
      split
      next taken => simp [(agrees.free other).2, taken, sameKind, busy, Ne.symm different]
      next => rfl

/-- The router tracks, forgets or rewrites the work request of one slot. -/
theorem retrack {next router} (busy : custody index ≠ .free) (stillBusy : next ≠ .free)
    (sameState : next.state = (custody index).state)
    (fits : ∀ kind, (custody index).fits kind → next.fits kind)
    (outstanding : ∀ other, router.outstandingAt other =
      if other = index then next.wr else tables.router.outstandingAt other)
    (stamped : ∀ operation wr, next = .posted operation wr →
      Stamped tables.pool index operation wr) :
    Agrees (Function.update custody index next) { tables with router } := by
  refine agrees.change rfl (fun other => ?_) (fun _ => rfl) ?_ (fun _ _ => rfl) ?_ outstanding
    stamped fun kind => ⟨(agrees.free kind).1, fun other => ?_⟩
  · split
    next here => rw [agrees.state other here.2, here.1, sameState]
    next => rfl
  · exact fun kind found => fits kind (agrees.kind index kind found)
  · exact fun _ => agrees.live index busy
  · split
    next same => simp [same, agrees.notMem_freeOf busy kind, stillBusy]
    next => rfl

end

end Agrees

end DragonflyClient.Urma
