import DragonflyClient.Urma.Routing
import DragonflyClient.Urma.PostReceive
import DragonflyClient.Urma.PostSend

/-!
The counters of the completion router.

`outstanding_total`, the two per-operation counts and the per-lane counts are
kept beside the outstanding table.  `Counted` says that each of them is the
number of tracked work requests it stands for.
-/

namespace DragonflyClient.Urma

open Library List Table CompletionRouter

def OutstandingWr.has (wr : OutstandingWr) (predicate : WrToken → Bool) : Bool :=
  match WrToken.decode wr.userCtx with
  | .ok token => predicate token
  | .error _ => false

def weight (predicate : WrToken → Bool) (entry : Option OutstandingWr) : Nat :=
  if entry.any (·.has predicate) then 1 else 0

@[simp]
theorem weight_none (predicate : WrToken → Bool) : weight predicate none = 0 := rfl

theorem weight_some {predicate wr token} (decoded : WrToken.decode wr.userCtx = .ok token) :
    weight predicate (some wr) = if predicate token then 1 else 0 := by
  simp [weight, OutstandingWr.has, decoded]

namespace CompletionRouter

def tally (router : CompletionRouter) (predicate : WrToken → Bool) : Nat :=
  router.outstanding.countP fun entry => entry.any (·.has predicate)

theorem tally_congr {router after : CompletionRouter}
    (same : after.outstanding = router.outstanding) (predicate : WrToken → Bool) :
    after.tally predicate = router.tally predicate := by
  rw [tally, tally, same]

theorem countP_putOutstanding (entries : List (Option OutstandingWr)) (index : Nat)
    (entry : Option OutstandingWr) (counts : OutstandingWr → Bool) :
    (putOutstanding entries index entry).countP (·.any counts) +
        (if entries[index]?.join.any counts then 1 else 0) =
      entries.countP (·.any counts) + if entry.any counts then 1 else 0 := by
  set padded := entries ++ List.replicate (index + 1 - entries.length) none
  have inside : index < padded.length := by
    simp only [padded, length_append, length_replicate]
    omega
  have paddedCount : padded.countP (·.any counts) = entries.countP (·.any counts) := by
    simp [padded, countP_append, countP_replicate]
  have current : padded[index] = entries[index]?.join := by
    by_cases short : index < entries.length
    · simp only [padded, getElem_append_left short, getElem?_eq_getElem short]
      rfl
    · rw [getElem?_eq_none (Nat.le_of_not_lt short)]
      simp only [padded, getElem_append_right (Nat.le_of_not_lt short), getElem_replicate]
      rfl
  have counted : (putOutstanding entries index entry).countP (·.any counts) =
      padded.countP (·.any counts) - (if padded[index].any counts then 1 else 0) +
        if entry.any counts then 1 else 0 := by
    rw [putOutstanding, countP_set inside]
  have enough : (if padded[index].any counts then 1 else 0) ≤ padded.countP (·.any counts) := by
    split
    next counting => exact countP_pos_iff.mpr ⟨_, getElem_mem inside, counting⟩
    next => exact Nat.zero_le _
  rw [current, paddedCount] at counted enough
  omega

theorem tally_put {router after : CompletionRouter} {index entry}
    (stored : after.outstanding = putOutstanding router.outstanding index entry)
    (predicate : WrToken → Bool) :
    after.tally predicate + weight predicate (router.outstandingAt index) =
      router.tally predicate + weight predicate entry := by
  rw [tally, stored]
  exact countP_putOutstanding _ _ _ _

theorem tally_pos {router : CompletionRouter} {index wr token predicate}
    (found : router.outstandingAt index = some wr) (decoded : WrToken.decode wr.userCtx = .ok token)
    (holds : predicate token = true) :
    0 < router.tally predicate := by
  rw [tally, countP_pos_iff]
  rw [outstandingAt, Option.join_eq_some_iff] at found
  exact ⟨some wr, mem_of_getElem? found, by simp [OutstandingWr.has, decoded, holds]⟩

end CompletionRouter

/-- Every counter of the router is the number of work requests it stands for. -/
structure Counted (router : CompletionRouter) : Prop where
  total : router.outstandingTotal = router.tally fun _ => true
  send : router.outstandingSend = router.tally fun token => token.operation = .send
  recv : router.outstandingRecv = router.tally fun token => token.operation = .recv
  lane : ∀ laneId, router.laneCount laneId = router.tally fun token => token.laneId = laneId
  present : ∀ laneId, router.outstandingByLane.lookup laneId ≠ some 0

structure SameCounts (router after : CompletionRouter) : Prop where
  total : after.outstandingTotal = router.outstandingTotal
  send : after.outstandingSend = router.outstandingSend
  recv : after.outstandingRecv = router.outstandingRecv
  byLane : after.outstandingByLane = router.outstandingByLane

namespace Counted

variable {router after : CompletionRouter}

theorem congr (counted : Counted router) (same : SameCounts router after)
    (outstanding : after.outstanding = router.outstanding) : Counted after where
  total := by rw [same.total, counted.total, tally_congr outstanding]
  send := by rw [same.send, counted.send, tally_congr outstanding]
  recv := by rw [same.recv, counted.recv, tally_congr outstanding]
  lane laneId := by
    rw [tally_congr outstanding, ← counted.lane laneId, laneCount, same.byLane, laneCount]
  present := same.byLane ▸ counted.present

theorem laneCount_insert (router : CompletionRouter) (laneId other : UInt16) (count : Nat) :
    (((router.outstandingByLane.insert laneId count).lookup other).getD 0) =
      if other = laneId then count else router.laneCount other := by
  rw [lookup_insert_eq]
  split <;> rfl

theorem record (counted : Counted router) {index : Nat} (wr : OutstandingWr) {token}
    (vacant : router.outstandingAt index = none) (decoded : WrToken.decode wr.userCtx = .ok token)
    (stored : after.outstanding = putOutstanding router.outstanding index (some wr))
    (total : after.outstandingTotal = router.outstandingTotal + 1) (send : after.outstandingSend =
      router.outstandingSend + if token.operation = .send then 1 else 0)
    (recv : after.outstandingRecv =
      router.outstandingRecv + if token.operation = .recv then 1 else 0)
    (byLane : after.outstandingByLane =
      router.outstandingByLane.insert token.laneId (router.laneCount token.laneId + 1)) :
    Counted after := by
  have counts := fun predicate => tally_put stored predicate
  simp only [vacant, weight_none, weight_some decoded, Nat.add_zero] at counts
  constructor
  case total => rw [total, counted.total, counts]; rfl
  case send =>
    rw [send, counted.send, counts]
    simp
  case recv =>
    rw [recv, counted.recv, counts]
    simp
  case lane =>
    intro laneId
    rw [counts, laneCount, byLane, laneCount_insert, ← counted.lane]
    by_cases same : laneId = token.laneId
    · simp [same]
    · simp [same, Ne.symm same]
  case present =>
    intro laneId
    rw [byLane, lookup_insert_eq]
    split
    · simp
    · exact counted.present laneId

theorem forget (counted : Counted router) {token : WrToken} {wr count}
    (found : router.outstandingAt token.slot.index.toNat = some wr)
    (decoded : WrToken.decode wr.userCtx = .ok token)
    (listed : router.outstandingByLane.lookup token.laneId = some count) :
    Counted ((CompletionRouter.forget
      { router with outstandingTotal := router.outstandingTotal - 1 } token
      count).decrementOperation token.operation) := by
  set after := (CompletionRouter.forget
      { router with outstandingTotal := router.outstandingTotal - 1 } token
      count).decrementOperation token.operation with afterEq
  have stored : after.outstanding =
      CompletionRouter.putOutstanding router.outstanding token.slot.index.toNat none := by
    rw [afterEq]
    cases token.operation <;> rfl
  have counts := fun predicate => CompletionRouter.tally_put stored predicate
  simp only [found, weight_none, weight_some decoded, Nat.add_zero] at counts
  have laneCount : router.laneCount token.laneId = count := by
    rw [CompletionRouter.laneCount, listed]
    rfl
  have byLane : after.outstandingByLane = if count - 1 = 0 then
      router.outstandingByLane.erase token.laneId
      else router.outstandingByLane.insert token.laneId (count - 1) := by
    rw [afterEq]
    cases token.operation <;> rfl
  constructor
  case total =>
    have total : after.outstandingTotal = router.outstandingTotal - 1 := by
      rw [afterEq]
      cases token.operation <;> rfl
    rw [total, counted.total, ← counts]
    rfl
  case send =>
    have send : after.outstandingSend =
        router.outstandingSend - if token.operation = .send then 1 else 0 := by
      rw [afterEq]
      cases token.operation <;> rfl
    rw [send, counted.send, ← counts]
    simp
  case recv =>
    have recv : after.outstandingRecv =
        router.outstandingRecv - if token.operation = .recv then 1 else 0 := by
      rw [afterEq]
      cases token.operation <;> rfl
    rw [recv, counted.recv, ← counts]
    simp
  case lane =>
    intro laneId
    have before := counts fun token => token.laneId = laneId
    rw [← counted.lane laneId] at before
    rw [CompletionRouter.laneCount, byLane]
    by_cases same : laneId = token.laneId
    · subst same
      simp only [decide_true, if_true, laneCount] at before
      split
      next last =>
        rw [lookup_erase_eq, if_pos rfl]
        simp only [Option.getD_none]
        omega
      next more =>
        rw [laneCount_insert, if_pos rfl]
        omega
    · simp only [Ne.symm same, decide_false, Bool.false_eq_true, if_false] at before
      split
      next =>
        rw [lookup_erase_eq, if_neg same]
        exact before.symm
      next =>
        rw [laneCount_insert, if_neg same]
        exact before.symm
  case present =>
    intro laneId
    rw [byLane]
    split
    · rw [lookup_erase_eq]
      split
      · simp
      · exact counted.present laneId
    next more =>
      rw [lookup_insert_eq]
      split
      · simpa using more
      · exact counted.present laneId

theorem recordRx (counted : Counted router) (token : WrToken) {userCtx}
    (vacant : router.outstandingAt token.slot.index.toNat = none) (recv : token.operation = .recv)
    (decoded : WrToken.decode userCtx = .ok token) (sequence : UInt64) (completion : ChannelId) :
    Counted (router.recordRx token userCtx sequence completion) :=
  counted.record ⟨userCtx, some sequence, none⟩ vacant decoded rfl rfl
    (by simp [recv, CompletionRouter.recordRx]) (by simp [recv, CompletionRouter.recordRx]) rfl

theorem recordTx (counted : Counted router) (token : WrToken) {userCtx}
    (vacant : router.outstandingAt token.slot.index.toNat = none) (send : token.operation = .send)
    (decoded : WrToken.decode userCtx = .ok token) (sequence : UInt64) (window : WindowId) :
    Counted (router.recordTx token userCtx sequence window) :=
  counted.record ⟨userCtx, some sequence, some window⟩ vacant decoded rfl rfl
    (by simp [send, CompletionRouter.recordTx]) (by simp [send, CompletionRouter.recordTx]) rfl

end Counted

/-- The fields of the router that waking the waiters does not touch. -/
structure SameLanes (router after : CompletionRouter) : Prop extends SameCounts router after where
  batch : after.batch = router.batch
  retirement : after.retirementByLane = router.retirementByLane
  jetty : after.laneByJettyId = router.laneByJettyId

namespace SameLanes

variable {router middle after : CompletionRouter}

@[refl]
theorem refl (router : CompletionRouter) : SameLanes router router :=
  ⟨⟨rfl, rfl, rfl, rfl⟩, rfl, rfl, rfl⟩

theorem trans (left : SameLanes router middle) (right : SameLanes middle after) :
    SameLanes router after where
  total := right.total.trans left.total
  send := right.send.trans left.send
  recv := right.recv.trans left.recv
  byLane := right.byLane.trans left.byLane
  batch := right.batch.trans left.batch
  retirement := right.retirement.trans left.retirement
  jetty := right.jetty.trans left.jetty

end SameLanes

/-- Two routers differ only in their windows and in what they have sent. -/
structure SameTracking (router after : CompletionRouter) : Prop extends SameLanes router after where
  outstanding : after.outstanding = router.outstanding
  registered : after.registeredRxByIdentity = router.registeredRxByIdentity

namespace SameTracking

variable {router middle after : CompletionRouter}

theorem outside (router : CompletionRouter) (windows : List TxWindowInner)
    (outbox : List Effect) : SameTracking router { router with windows, outbox } :=
  ⟨⟨⟨rfl, rfl, rfl, rfl⟩, rfl, rfl, rfl⟩, rfl, rfl⟩

theorem trans (left : SameTracking router middle) (right : SameTracking middle after) :
    SameTracking router after :=
  ⟨left.toSameLanes.trans right.toSameLanes, right.outstanding.trans left.outstanding,
    right.registered.trans left.registered⟩

theorem outstandingAt (same : SameTracking router after) (index : Nat) :
    after.outstandingAt index = router.outstandingAt index := by
  rw [CompletionRouter.outstandingAt, same.outstanding, CompletionRouter.outstandingAt]

theorem counted (same : SameTracking router after) (counted : Counted router) : Counted after :=
  counted.congr same.toSameCounts same.outstanding

theorem agrees {custody tables after} (same : SameTracking tables.router after)
    (agrees : Agrees custody tables) :
    Agrees custody { tables with router := after } :=
  agrees.congr_router same.outstandingAt

theorem emit (router : CompletionRouter) (effects : List Effect) :
    SameTracking router (router.emit effects) :=
  outside _ _ _

theorem openWindow (router : CompletionRouter) (inner : TxWindowInner) :
    SameTracking router (UrmaLane.openWindow router inner) :=
  outside _ _ _

theorem withWindow (router : CompletionRouter) (window : WindowId)
    (update : TxWindowInner → TxWindowInner × List Effect) :
    SameTracking router (router.withWindow window update) := by
  unfold CompletionRouter.withWindow
  split <;> exact outside _ _ _

theorem dropReference (router : CompletionRouter) (window : WindowId) :
    SameTracking router (router.dropReference window) := by
  unfold CompletionRouter.dropReference
  split
  · exact outside _ _ _
  · exact withWindow _ _ _

theorem deliver (router : CompletionRouter) (result : Result RoutedCompletion)
    (target : CompletionTarget) : SameTracking router (router.deliver result target) := by
  unfold CompletionRouter.deliver
  split
  · exact (withWindow _ _ _).trans (dropReference _ _)
  · split <;> exact .emit _ _

theorem finishWindow (tables : OwnerTables) (window : WindowId) (error : Option Error) :
    SameTracking tables.router (UrmaLane.finishWindow tables window error).router :=
  (withWindow _ _ _).trans (dropReference _ _)

end SameTracking

namespace CompletionRouter

theorem outstandingAt_recordRx (router : CompletionRouter) (token : WrToken)
    (userCtx sequence : UInt64) (completion : ChannelId) (index : Nat) :
    (router.recordRx token userCtx sequence completion).outstandingAt index =
      if index = slotIndex token.slot then some ⟨userCtx, some sequence, none⟩
      else router.outstandingAt index :=
  join_putOutstanding _ _ _ _

theorem outstandingAt_recordTx (router : CompletionRouter) (token : WrToken)
    (userCtx sequence : UInt64) (window : WindowId) (index : Nat) :
    (router.recordTx token userCtx sequence window).outstandingAt index =
      if index = slotIndex token.slot then some ⟨userCtx, some sequence, some window⟩
      else router.outstandingAt index :=
  join_putOutstanding _ _ _ _

end CompletionRouter

namespace Counted

variable {router : CompletionRouter} {lane : UrmaLane}

theorem recordRecvs (counted : Counted router) {pairs}
    (decoded : ∀ pair ∈ pairs, WrToken.decode pair.2.userCtx = .ok (lane.token .recv pair.1.slot))
    (vacant : ∀ pair ∈ pairs, router.outstandingAt (slotIndex pair.1.slot) = none)
    (distinct : (pairs.map fun pair => slotIndex pair.1.slot).Nodup) :
    Counted (recordRecvs lane router pairs) := by
  induction pairs generalizing router with
  | nil => exact counted
  | cons pair rest ih =>
    rw [map_cons, nodup_cons] at distinct
    refine ih
      (counted.recordRx (lane.token .recv pair.1.slot)
        (vacant pair mem_cons_self) rfl (decoded pair mem_cons_self) _ _)
      (fun other later => decoded other (mem_cons_of_mem _ later))
      (fun other later => ?_) distinct.2
    rw [outstandingAt_recordRx, if_neg]
    · exact vacant other (mem_cons_of_mem _ later)
    · exact fun same => distinct.1 (mem_map.mpr ⟨other, later, same⟩)

theorem recordSends (counted : Counted router) {window pairs}
    (decoded : ∀ pair ∈ pairs, WrToken.decode pair.2.userCtx = .ok (lane.token .send pair.1.slot))
    (vacant : ∀ pair ∈ pairs, router.outstandingAt (slotIndex pair.1.slot) = none)
    (distinct : (pairs.map fun pair => slotIndex pair.1.slot).Nodup) :
    Counted (recordSends lane window router pairs) := by
  induction pairs generalizing router with
  | nil => exact counted
  | cons pair rest ih =>
    rw [map_cons, nodup_cons] at distinct
    refine ih
      (counted.recordTx (lane.token .send pair.1.slot)
        (vacant pair mem_cons_self) rfl (decoded pair mem_cons_self) _ _)
      (fun other later => decoded other (mem_cons_of_mem _ later))
      (fun other later => ?_) distinct.2
    rw [outstandingAt_recordTx, if_neg]
    · exact vacant other (mem_cons_of_mem _ later)
    · exact fun same => distinct.1 (mem_map.mpr ⟨other, later, same⟩)

theorem failEntry (counted : Counted router) (error : Error) (index : Nat) :
    Counted (router.failEntry error index) := by
  unfold CompletionRouter.failEntry
  split
  · exact counted
  next wr found =>
  split
  · exact counted
  next window targeted =>
  refine ((SameTracking.withWindow _ _ _).trans (.dropReference _ _)).counted ?_
  have same : ∀ predicate, (router.orphan index wr).tally predicate = router.tally predicate := by
    intro predicate
    have stored : (router.orphan index wr).outstanding = CompletionRouter.putOutstanding
        router.outstanding index (some { wr with completion := none }) := rfl
    have replaced := CompletionRouter.tally_put stored predicate
    rw [found] at replaced
    exact Nat.add_right_cancel replaced
  exact
    { total := counted.total.trans (same _).symm
      send := counted.send.trans (same _).symm
      recv := counted.recv.trans (same _).symm
      lane := fun laneId => (counted.lane laneId).trans (same _).symm
      present := counted.present }

end Counted

end DragonflyClient.Urma
