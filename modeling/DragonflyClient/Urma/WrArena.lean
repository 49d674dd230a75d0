import DragonflyClient.Library.Transition
import Mathlib.Data.UInt

/-!
The work requests of a native Jetty (`ffi/shim.c`).  The free nodes of the arena are linked; a post
takes nodes from them and a completion returns its node.
-/

namespace DragonflyClient.Urma.Shim

open Library List Function Option

inductive Operation where
  | send
  | sendImm
  | recv
  deriving DecidableEq, Repr

structure PostEntry where
  offset : UInt64
  length : UInt32
  userCtx : UInt64
  immData : UInt64

/-- A node of the arena; the segment 0 is `NULL`.  The default is a node after `memset`. -/
structure Wr where
  nextFree : Option Nat := none
  segment : Nat := 0
  offset : UInt64 := 0
  length : UInt32 := 0
  operation : Option Operation := none
  userCtx : UInt64 := 0
  immData : UInt64 := 0
  next : Option Nat := none

structure Segment where
  ofRuntime : Bool
  registered : Bool
  length : UInt64

/-- `held` are the nodes that the caller has got through `out` and not completed. -/
structure Jetty where
  capacity : Nat
  arena : Nat → Wr
  freeWr : Option Nat
  segments : Nat → Segment
  created : Bool
  connected : Bool
  outstanding : UInt32
  runtimeOutstanding : UInt32
  segmentOutstanding : Nat → UInt32
  held : List Nat

/-- What the provider answers to a post; `badWr` is any pointer. -/
inductive Answer where
  | success
  | failure (status : Int) (badWr : Option Nat)

structure Reply where
  status : Int
  out : List Nat
  posted : Option Nat

def einval : Int := -22
def enomem : Int := -12
def enotconn : Int := -107
def eproto : Int := -71
def maxPostList : Nat := 64

namespace Jetty

def segmentRange (segment : Segment) (offset : UInt64) (length : UInt32) : Bool :=
  segment.registered && length ≠ 0 && offset ≤ segment.length &&
    length.toUInt64 ≤ segment.length - offset

def wrAcquire (segment : Nat) (entry : PostEntry) (jetty : Jetty) : Except Int (Nat × Jetty) :=
  if jetty.created && segment ≠ 0 && (jetty.segments segment).ofRuntime &&
      segmentRange (jetty.segments segment) entry.offset entry.length then
    match jetty.freeWr with
    | none => .error enomem
    | some wr => .ok (wr,
        { jetty with
          freeWr := (jetty.arena wr).nextFree
          arena := update jetty.arena wr
            { segment, offset := entry.offset, length := entry.length } })
  else .error einval

def wrReturn (jetty : Jetty) (wr : Nat) : Jetty :=
  { jetty with
    arena := update jetty.arena wr { nextFree := jetty.freeWr }
    freeWr := some wr }

/-- `dfurma_wr_posted`, and the store to `out`. -/
def wrPosted (jetty : Jetty) (wr : Nat) : Jetty :=
  let segment := (jetty.arena wr).segment
  { jetty with
    runtimeOutstanding := jetty.runtimeOutstanding + 1
    segmentOutstanding := update jetty.segmentOutstanding segment
      (jetty.segmentOutstanding segment + 1)
    outstanding := jetty.outstanding + 1
    held := jetty.held ++ [wr] }

def clampedPred (count : UInt32) : UInt32 := if 0 < count then count - 1 else count

def wrComplete (jetty : Jetty) (wr : Nat) : Jetty :=
  let segment := (jetty.arena wr).segment
  { jetty with
    runtimeOutstanding := clampedPred jetty.runtimeOutstanding
    segmentOutstanding := update jetty.segmentOutstanding segment
      (clampedPred (jetty.segmentOutstanding segment))
    outstanding := clampedPred jetty.outstanding
    held := jetty.held.erase wr }.wrReturn wr

def fill (operation : Operation) (jetty : Jetty) (wr : Nat) (entry : PostEntry)
    (next : Option Nat) : Jetty :=
  { jetty with
    arena := update jetty.arena wr
      { jetty.arena wr with
        operation := some operation
        userCtx := entry.userCtx
        immData := if operation = .sendImm then entry.immData else 0
        next } }

/-- The loop that links the nodes of a list. -/
def fillAll (operation : Operation) : List Nat → List PostEntry → Jetty → Jetty
  | wr :: wrs, entry :: entries, jetty =>
    fillAll operation wrs entries (jetty.fill operation wr entry wrs.head?)
  | _, _, jetty => jetty

def connects (jetty : Jetty) (operation : Operation) : Bool :=
  operation = .recv || jetty.connected

/-- `dfurma_post_send`, `dfurma_post_send_imm` and `dfurma_post_recv`.  A success is stored through
`out` unseen: `none` is a store through `NULL`. -/
def post (jetty : Jetty) (operation : Operation) (segment : Nat) (entry : PostEntry) (out : Bool)
    (answer : Answer) : Option (Jetty × Reply) :=
  if jetty.connects operation then
    match jetty.wrAcquire segment entry with
    | .error status => some (jetty, ⟨status, [], none⟩)
    | .ok (wr, jetty) =>
      let jetty := jetty.fill operation wr entry none
      match answer with
      | .failure status _ => some (jetty.wrReturn wr, ⟨status, [], none⟩)
      | .success => if out then some (jetty.wrPosted wr, ⟨0, [wr], none⟩) else none
  else some (jetty, ⟨enotconn, [], none⟩)

/-- The loop of `dfurma_post_list_prepare`; `wrs` are the nodes it has got. -/
def acquireAll (segment : Nat) : List PostEntry → List Nat → Jetty → Jetty × Except Int (List Nat)
  | [], wrs, jetty => (jetty, .ok wrs)
  | entry :: entries, wrs, jetty =>
    match jetty.wrAcquire segment entry with
    | .error status => (wrs.foldl wrReturn jetty, .error status)
    | .ok (wr, jetty) => acquireAll segment entries (wrs ++ [wr]) jetty

/-- The status of a list, and how many of its nodes count as posted. -/
def submitted (wrs : List Nat) : Answer → Int × Nat
  | .success => (0, wrs.length)
  | .failure status badWr =>
    let found := wrs.findIdx fun wr => badWr = some wr
    (if found = wrs.length then eproto else status, found)

/-- `dfurma_post_list_prepare` behind the check of the target; `stores` says whether `out` and
`posted` are given. -/
def postListPrepare (jetty : Jetty) (operation : Operation) (segment : Nat)
    (entries : Option (List PostEntry)) (stores : Bool) : Jetty × Except Reply (List Nat) :=
  if jetty.connects operation then
    match entries with
    | none => (jetty, .error ⟨einval, [], none⟩)
    | some entries =>
      if segment = 0 ∨ stores = false ∨ entries = [] ∨ maxPostList < entries.length then
        (jetty, .error ⟨einval, [], none⟩)
      else
        match acquireAll segment entries [] jetty with
        | (jetty, .error status) => (jetty, .error ⟨status, [], some 0⟩)
        | (jetty, .ok wrs) => (jetty, .ok wrs)
  else (jetty, .error ⟨enotconn, [], none⟩)

/-- `dfurma_post_send_list`, `dfurma_post_send_imm_list` and `dfurma_post_recv_list`. -/
def postList (jetty : Jetty) (operation : Operation) (segment : Nat)
    (entries : Option (List PostEntry)) (stores : Bool) (answer : Answer) : Jetty × Reply :=
  match jetty.postListPrepare operation segment entries stores with
  | (jetty, .error reply) => (jetty, reply)
  | (jetty, .ok wrs) =>
    let (status, count) := submitted wrs answer
    let jetty := fillAll operation wrs (entries.getD []) jetty
    ((wrs.drop count).foldl wrReturn ((wrs.take count).foldl wrPosted jetty),
      ⟨status, wrs.take count, some count⟩)

/-- The nodes from a head along the links of free nodes. -/
def Linked (arena : Nat → Wr) : Option Nat → List Nat → Prop
  | head, [] => head = none
  | head, wr :: rest => head = some wr ∧ Linked arena (arena wr).nextFree rest

/-- Each node is free, taken by the call that runs, or held, and the counters count the last. -/
structure Conserved (jetty : Jetty) (free taken : List Nat) : Prop where
  linked : Linked jetty.arena jetty.freeWr free
  once : (free ++ (taken ++ jetty.held)).Perm (List.range jetty.capacity)
  small : jetty.capacity < 2 ^ 32
  named : ∀ wr ∈ taken ++ jetty.held, (jetty.arena wr).segment ≠ 0
  jettyCount : jetty.outstanding.toNat = jetty.held.length
  runtimeCount : jetty.runtimeOutstanding.toNat = jetty.held.length
  segmentCount : ∀ segment, (jetty.segmentOutstanding segment).toNat =
    jetty.held.countP fun wr => (jetty.arena wr).segment == segment

variable {wr : Nat}

theorem Linked.update {arena head free} (linked : Linked arena head free) (absent : wr ∉ free)
    (node : Wr) :
    Linked (update arena wr node) head free := by
  induction free generalizing head with
  | nil => exact linked
  | cons first rest ih =>
    rw [mem_cons, not_or] at absent
    refine ⟨linked.1, ?_⟩
    rw [update_of_ne (Ne.symm absent.1)]
    exact ih linked.2 absent.2

theorem of_wrAcquire_ok {jetty next : Jetty} {segment entry}
    (acquires : jetty.wrAcquire segment entry = .ok (wr, next)) :
    segment ≠ 0 ∧ jetty.freeWr = some wr ∧ next =
      { jetty with
        freeWr := (jetty.arena wr).nextFree
        arena := update jetty.arena wr
          { segment, offset := entry.offset, length := entry.length } } := by
  unfold wrAcquire at acquires
  split at acquires
  next passes =>
    split at acquires
    next => cases acquires
    next head =>
      cases acquires
      simp only [Bool.and_eq_true, decide_eq_true_eq] at passes
      exact ⟨passes.1.1.2, head, rfl⟩
  next => cases acquires

/-- What is asked of an entry before a node is taken for it. -/
def takes (jetty : Jetty) (segment : Nat) (entry : PostEntry) : Bool :=
  jetty.created && segment ≠ 0 && (jetty.segments segment).ofRuntime &&
    segmentRange (jetty.segments segment) entry.offset entry.length

theorem wrAcquire_isOk_iff {jetty : Jetty} {segment entry} :
    (jetty.wrAcquire segment entry).isOk = true ↔
      jetty.takes segment entry = true ∧ jetty.freeWr.isSome = true := by
  have guarded : jetty.wrAcquire segment entry =
      if jetty.takes segment entry then _ else .error einval := rfl
  rw [guarded]
  cases jetty.takes segment entry
  · simp [Except.isOk, Except.toBool]
  · cases jetty.freeWr <;> simp [Except.isOk, Except.toBool]

def Places (arena : Nat → Wr) (segment : Nat) : List Nat → List PostEntry → Prop :=
  Forall₂ fun wr entry => arena wr = { segment, offset := entry.offset, length := entry.length }

theorem Places.update {arena segment wrs entries} (places : Places arena segment wrs entries)
    (absent : wr ∉ wrs) (node : Wr) : Places (update arena wr node) segment wrs entries := by
  induction places with
  | nil => exact .nil
  | cons here _ ih =>
    rw [mem_cons, not_or] at absent
    exact .cons ((update_of_ne (Ne.symm absent.1) _ _).trans here) (ih absent.2)

namespace Conserved

variable {jetty : Jetty} {free taken : List Nat} {wr : Nat}

theorem nodup (conserved : jetty.Conserved free taken) :
    (free ++ (taken ++ jetty.held)).Nodup :=
  conserved.once.nodup_iff.mpr nodup_range

theorem nodup_taken (conserved : jetty.Conserved free taken) : taken.Nodup :=
  (nodup_append'.mp (nodup_append'.mp conserved.nodup).2.1).1

/-- A node that is not held is written; nodes change between the free and the taken ones. -/
theorem write (conserved : jetty.Conserved free taken) {nowFree nowTaken head node}
    (absent : wr ∉ jetty.held) (linked : Linked (update jetty.arena wr node) head nowFree)
    (once : (nowFree ++ nowTaken).Perm (free ++ taken))
    (named : ∀ other ∈ nowTaken, (update jetty.arena wr node other).segment ≠ 0) :
    Conserved { jetty with arena := update jetty.arena wr node, freeWr := head }
      nowFree nowTaken := by
  have same (other : Nat) (held : other ∈ jetty.held) :
      update jetty.arena wr node other = jetty.arena other :=
    update_of_ne (fun written : other = wr => absent (written ▸ held)) _ _
  refine ⟨linked, ?_, conserved.small, ?_, conserved.jettyCount, conserved.runtimeCount, ?_⟩
  · rw [← append_assoc]
    refine (once.append_right _).trans ?_
    rw [append_assoc]
    exact conserved.once
  · intro other listed
    rcases mem_append.mp listed with inTaken | held
    · exact named other inTaken
    · have kept := conserved.named other (mem_append_right _ held)
      rwa [← same other held] at kept
  · intro segment
    rw [conserved.segmentCount]
    refine countP_congr fun other held => ?_
    dsimp only
    rw [same other held]

theorem acquired (conserved : jetty.Conserved free taken) {segment : Nat} {entry next}
    (acquires : jetty.wrAcquire segment entry = .ok (wr, next)) :
    next.held = jetty.held ∧ ∃ rest, next.Conserved rest (taken ++ [wr]) := by
  obtain ⟨named, head, rfl⟩ := of_wrAcquire_ok acquires
  have nodup := conserved.nodup
  have linked := conserved.linked
  cases free with
  | nil => rw [Linked, head] at linked; cases linked
  | cons other rest =>
    obtain ⟨same, links⟩ := linked
    obtain rfl : wr = other := some.inj (head.symm.trans same)
    rw [cons_append, nodup_cons, mem_append, mem_append, not_or, not_or] at nodup
    refine ⟨rfl, rest, conserved.write nodup.1.2.2 (links.update nodup.1.1 _) ?_ ?_⟩
    · rw [← append_assoc]
      exact perm_append_comm
    · intro other listed
      by_cases written : other = wr
      · subst written
        rwa [update_self]
      · rw [update_of_ne written]
        refine conserved.named other (mem_append_left _ ?_)
        simpa [written] using listed

theorem wrReturn (conserved : jetty.Conserved free (wr :: taken)) :
    (jetty.wrReturn wr).Conserved (wr :: free) taken := by
  have nodup := conserved.nodup
  rw [cons_append, nodup_middle, nodup_cons, mem_append, mem_append, not_or, not_or] at nodup
  refine conserved.write nodup.1.2.2 ⟨rfl, ?_⟩ perm_middle.symm fun other listed => ?_
  · rw [update_self]
    exact conserved.linked.update nodup.1.1 _
  · rw [update_of_ne fun written : other = wr => nodup.1.2.1 (written ▸ listed)]
    exact conserved.named other (by simp [listed])

variable {wrs : List Nat}

theorem returnAll (conserved : jetty.Conserved free (wrs ++ taken)) :
    (wrs.foldl Jetty.wrReturn jetty).held = jetty.held ∧
      ∃ rest, (wrs.foldl Jetty.wrReturn jetty).Conserved rest taken := by
  induction wrs generalizing jetty free with
  | nil => exact ⟨rfl, free, conserved⟩
  | cons wr wrs ih => exact ih conserved.wrReturn

theorem fill (conserved : jetty.Conserved free taken) (listed : wr ∈ taken)
    (operation : Operation) (entry : PostEntry) (next : Option Nat) :
    (jetty.fill operation wr entry next).Conserved free taken := by
  obtain ⟨-, both, apart⟩ := nodup_append'.mp conserved.nodup
  refine conserved.write (disjoint_of_nodup_append both listed)
    (conserved.linked.update (fun inFree => apart inFree (mem_append_left _ listed)) _)
    (.refl _) fun other inTaken => ?_
  have named := conserved.named other (mem_append_left _ inTaken)
  by_cases written : other = wr
  · subst written
    rwa [update_self]
  · rwa [update_of_ne written]

theorem fillAll (conserved : jetty.Conserved free taken)
    (listed : ∀ wr ∈ wrs, wr ∈ taken) (operation : Operation) (entries : List PostEntry) :
    (Jetty.fillAll operation wrs entries jetty).held = jetty.held ∧
      (Jetty.fillAll operation wrs entries jetty).Conserved free taken := by
  induction wrs generalizing entries jetty with
  | nil => exact ⟨rfl, conserved⟩
  | cons wr wrs ih =>
    cases entries with
    | nil => exact ⟨rfl, conserved⟩
    | cons entry entries =>
      exact ih (conserved.fill (listed wr (by simp)) operation entry _)
        (fun other later => listed other (by simp [later])) entries

theorem acquireAll (segment : Nat) (entries : List PostEntry) {placed : List PostEntry}
    (conserved : jetty.Conserved free taken) (places : Places jetty.arena segment taken placed) :
    (Jetty.acquireAll segment entries taken jetty).1.held = jetty.held ∧
      ∃ rest, match Jetty.acquireAll segment entries taken jetty with
        | (next, .error _) => next.Conserved rest []
        | (next, .ok wrs) =>
          next.Conserved rest wrs ∧ Places next.arena segment wrs (placed ++ entries) := by
  induction entries generalizing jetty free taken placed with
  | nil =>
    rw [append_nil]
    exact ⟨rfl, free, conserved, places⟩
  | cons entry entries ih =>
    rw [Jetty.acquireAll]
    cases acquires : jetty.wrAcquire segment entry with
    | error status =>
      rw [← append_nil taken] at conserved
      exact conserved.returnAll
    | ok both =>
      obtain ⟨held, rest, next⟩ := conserved.acquired acquires
      obtain ⟨-, -, same⟩ := of_wrAcquire_ok acquires
      rw [append_cons]
      refine (ih next (rel_append ?_ ?_)).imp_left (·.trans held)
      · rw [same]
        exact places.update (fun listed =>
          disjoint_of_nodup_append next.nodup_taken listed (mem_singleton_self _)) _
      · rw [same]
        exact .cons (update_self ..) .nil

theorem postListPrepare (conserved : jetty.Conserved free []) (operation : Operation)
    (segment : Nat) (entries : Option (List PostEntry)) (stores : Bool) :
    (jetty.postListPrepare operation segment entries stores).1.held = jetty.held ∧
      ∃ rest, match jetty.postListPrepare operation segment entries stores with
        | (next, .error reply) => next.Conserved rest [] ∧ reply.out = [] ∧ reply.posted.getD 0 = 0
        | (next, .ok wrs) =>
          next.Conserved rest wrs ∧ Places next.arena segment wrs (entries.getD []) := by
  unfold Jetty.postListPrepare
  split
  next =>
    split
    next => exact ⟨rfl, free, conserved, rfl, rfl⟩
    next entries =>
      split
      next => exact ⟨rfl, free, conserved, rfl, rfl⟩
      next =>
        obtain ⟨held, rest, outcome⟩ := conserved.acquireAll segment entries .nil
        rcases acquires : Jetty.acquireAll segment entries [] jetty with ⟨next, status | wrs⟩
        · rw [acquires] at held outcome
          exact ⟨held, rest, outcome, rfl, rfl⟩
        · rw [acquires] at held outcome
          exact ⟨held, rest, outcome⟩
  next => exact ⟨rfl, free, conserved, rfl, rfl⟩

theorem length_held (conserved : jetty.Conserved free taken) :
    free.length + (taken.length + jetty.held.length) = jetty.capacity := by
  rw [← length_append, ← length_append, conserved.once.length_eq, length_range]

theorem acquireAll_isOk_iff (conserved : jetty.Conserved free taken) (segment : Nat)
    (entries : List PostEntry) :
    (Jetty.acquireAll segment entries taken jetty).2.isOk = true ↔
      entries.length ≤ free.length ∧ ∀ entry ∈ entries, jetty.takes segment entry = true := by
  induction entries generalizing jetty free taken with
  | nil => simp [Jetty.acquireAll, Except.isOk, Except.toBool]
  | cons entry entries ih =>
    have found : jetty.freeWr.isSome = true ↔ free ≠ [] := by
      have linked := conserved.linked
      cases free with
      | nil => simp [show jetty.freeWr = none from linked]
      | cons wr free => simp [linked.1]
    have acquired := @wrAcquire_isOk_iff jetty segment entry
    rw [Jetty.acquireAll, length_cons, forall_mem_cons]
    cases acquires : jetty.wrAcquire segment entry with
    | error status =>
      rw [acquires, found, ← length_pos_iff] at acquired
      simp only [Except.isOk, Except.toBool, Bool.false_eq_true, false_iff] at acquired ⊢
      rintro ⟨room, takes, -⟩
      exact acquired ⟨takes, by omega⟩
    | ok both =>
      obtain ⟨held, rest, next⟩ := conserved.acquired acquires
      obtain ⟨-, -, same⟩ := of_wrAcquire_ok acquires
      have before := conserved.length_held
      have after := next.length_held
      have kept : both.2.takes segment = jetty.takes segment := by rw [same]; rfl
      rw [held, length_append, length_singleton,
        show both.2.capacity = jetty.capacity by rw [same]] at after
      rw [acquires] at acquired
      rw [ih next, kept, and_iff_right (acquired.mp rfl).1,
        show free.length = rest.length + 1 by omega, Nat.add_le_add_iff_right]

/-- A list is handed to the provider when it may be posted, its entries lie in the segment and
enough nodes are free. -/
theorem postListPrepare_isOk_iff (conserved : jetty.Conserved free []) {operation segment entries} :
    (jetty.postListPrepare operation segment (some entries) true).2.isOk = true ↔
      jetty.connects operation = true ∧ entries ≠ [] ∧
        entries.length ≤ min maxPostList free.length ∧
        ∀ entry ∈ entries, jetty.takes segment entry = true := by
  have acquired := conserved.acquireAll_isOk_iff segment entries
  unfold Jetty.postListPrepare
  cases jetty.connects operation
  · simp [Except.isOk, Except.toBool]
  dsimp only
  rw [if_pos rfl, and_iff_right rfl]
  split
  next refused =>
    simp only [Except.isOk, Except.toBool, Bool.false_eq_true, false_iff]
    rintro ⟨more, short, all⟩
    obtain ⟨entry, rest, rfl⟩ := exists_cons_of_ne_nil more
    have first := all entry mem_cons_self
    rcases refused with rfl | same | same | long
    · simp [takes] at first
    · cases same
    · cases same
    · omega
  next allowed =>
    simp only [not_or, Nat.not_lt] at allowed
    rw [and_iff_right allowed.2.2.1, Nat.le_min, and_assoc, and_iff_right allowed.2.2.2, ← acquired]
    rcases Jetty.acquireAll segment entries [] jetty with ⟨next, status | wrs⟩ <;> rfl

theorem wrPosted (conserved : jetty.Conserved free (wr :: taken)) :
    (jetty.wrPosted wr).Conserved free taken := by
  have once : (free ++ (taken ++ (jetty.held ++ [wr]))).Perm
      (free ++ (wr :: taken ++ jetty.held)) := by
    rw [← append_assoc taken]
    exact (perm_append_singleton wr _).append_left free
  have room := conserved.length_held
  have small := conserved.small
  rw [length_cons] at room
  have next (count : UInt32) (bounded : count.toNat ≤ jetty.held.length) :
      (count + 1).toNat = count.toNat + 1 := by
    rw [UInt32.toNat_add]
    exact Nat.mod_eq_of_lt (by rw [UInt32.toNat_one]; omega)
  refine ⟨conserved.linked, once.trans conserved.once, small, fun other listed => ?_, ?_, ?_,
    fun segment => ?_⟩
  · refine conserved.named other ?_
    have listed : other ∈ taken ++ (jetty.held ++ [wr]) := listed
    simp only [mem_append, mem_cons, not_mem_nil, or_false] at listed ⊢
    tauto
  · exact (next _ conserved.jettyCount.le).trans (by simp [conserved.jettyCount, Jetty.wrPosted])
  · exact (next _ conserved.runtimeCount.le).trans
      (by simp [conserved.runtimeCount, Jetty.wrPosted])
  · have bounded := (conserved.segmentCount (jetty.arena wr).segment).trans_le
      countP_le_length
    simp only [Jetty.wrPosted, countP_append, countP_singleton]
    by_cases same : (jetty.arena wr).segment = segment
    · subst same
      rw [update_self, next _ bounded, conserved.segmentCount]
      simp
    · rw [update_of_ne (Ne.symm same), conserved.segmentCount]
      simp [same]

theorem postAll (conserved : jetty.Conserved free (wrs ++ taken)) :
    (wrs.foldl Jetty.wrPosted jetty).held = jetty.held ++ wrs ∧
      (wrs.foldl Jetty.wrPosted jetty).Conserved free taken := by
  induction wrs generalizing jetty with
  | nil => exact ⟨(append_nil _).symm, conserved⟩
  | cons wr wrs ih =>
    obtain ⟨held, posted⟩ := ih conserved.wrPosted
    exact ⟨held.trans (append_assoc _ _ _), posted⟩

/-- A list is posted up to a count and returned from there on. -/
theorem settle (conserved : jetty.Conserved free taken) (count : Nat) :
    let settled := (taken.drop count).foldl Jetty.wrReturn
      ((taken.take count).foldl Jetty.wrPosted jetty)
    (∃ rest, settled.Conserved rest []) ∧ settled.held = jetty.held ++ taken.take count := by
  have parts : jetty.Conserved free (taken.take count ++ (taken.drop count ++ [])) := by
    rwa [append_nil, take_append_drop]
  obtain ⟨held, posted⟩ := parts.postAll
  obtain ⟨kept, returned⟩ := posted.returnAll
  exact ⟨returned, kept.trans held⟩

theorem wrComplete (conserved : jetty.Conserved free taken) (held : wr ∈ jetty.held) :
    0 < jetty.outstanding ∧ 0 < jetty.runtimeOutstanding ∧
      0 < jetty.segmentOutstanding (jetty.arena wr).segment ∧
      (jetty.wrComplete wr).Conserved (wr :: free) taken := by
  have moved := perm_cons_erase held
  have length := moved.length_eq
  rw [length_cons] at length
  have counts (segment : Nat) := moved.countP_eq fun other => (jetty.arena other).segment == segment
  simp only [countP_cons] at counts
  have positive (count : UInt32) (some : 0 < count.toNat) : 0 < count :=
    UInt32.lt_iff_toNat_lt.mpr some
  have pred (count : UInt32) (some : 0 < count.toNat) :
      (clampedPred count).toNat = count.toNat - 1 := by
    rw [clampedPred, if_pos (positive count some), UInt32.toNat_sub_of_le]
    · rfl
    · exact UInt32.le_iff_toNat_le.mpr some
  have jettyCount := conserved.jettyCount
  have runtimeCount := conserved.runtimeCount
  have segmentCount := conserved.segmentCount
  have here := counts (jetty.arena wr).segment
  rw [beq_self_eq_true, if_pos rfl, ← segmentCount] at here
  refine ⟨positive _ (by omega), positive _ (by omega), positive _ (by omega), wrReturn ?_⟩
  refine ⟨conserved.linked, ?_, conserved.small, fun other listed => ?_, ?_, ?_, fun segment => ?_⟩
  · refine List.Perm.trans ?_ conserved.once
    refine (perm_middle.symm.trans ?_).append_left free
    exact moved.symm.append_left taken
  · refine conserved.named other ?_
    rw [cons_append, mem_cons, mem_append] at listed
    rcases listed with rfl | inTaken | later
    · exact mem_append_right _ held
    · exact mem_append_left _ inTaken
    · exact mem_append_right _ (mem_of_mem_erase later)
  · exact (pred _ (by omega)).trans (by dsimp only; omega)
  · exact (pred _ (by omega)).trans (by dsimp only; omega)
  · dsimp only
    by_cases same : segment = (jetty.arena wr).segment
    · subst same
      rw [update_self, pred _ (by omega)]
      omega
    · have there := counts segment
      rw [if_neg (by simpa using Ne.symm same), ← segmentCount] at there
      rw [update_of_ne same]
      omega

end Conserved

inductive Call where
  | post (operation : Operation) (segment : Nat) (entry : PostEntry) (out : Bool) (answer : Answer)
  | postList (operation : Operation) (segment : Nat) (entries : Option (List PostEntry))
      (stores : Bool) (answer : Answer)
  | complete (wr : Option Nat)

/-- A call; a completion names a node that is held. -/
def act (jetty : Jetty) : Call → Option (Jetty × Reply)
  | .post operation segment entry out answer => jetty.post operation segment entry out answer
  | .postList operation segment entries stores answer =>
    some (jetty.postList operation segment entries stores answer)
  | .complete none => some (jetty, ⟨0, [], none⟩)
  | .complete (some wr) =>
    if wr ∈ jetty.held then some (jetty.wrComplete wr, ⟨0, [], none⟩) else none

/-- The free list before a round of the loop that links the nodes. -/
def headAt : Nat → Option Nat
  | 0 => none
  | wr + 1 => some wr

def create (sendDepth recvDepth : UInt32) (segments : Nat → Segment) (created connected : Bool) :
    Option Jetty :=
  if sendDepth > UInt32.ofNat (2 ^ 32 - 1) - recvDepth then none
  else
    let capacity := sendDepth.toNat + recvDepth.toNat
    some { capacity, segments, created, connected, outstanding := 0, runtimeOutstanding := 0
           arena := fun wr => { nextFree := headAt wr }
           freeWr := headAt capacity
           segmentOutstanding := fun _ => 0
           held := [] }

def Initial (jetty : Jetty) : Prop :=
  ∃ sendDepth recvDepth segments created connected,
    create sendDepth recvDepth segments created connected = some jetty

def Step (jetty : Jetty) (call : Call) (target : Jetty) : Prop :=
  ∃ reply, jetty.act call = some (target, reply)

/-- The nodes of a list that count as posted: those before `badWr`, or all. -/
def Cut (wrs : List Nat) (count : Nat) : Answer → Prop
  | .success => count = wrs.length
  | .failure _ badWr =>
    (∀ index wr, wrs[index]? = some wr → badWr = some wr → count = index) ∧
      ((∀ wr ∈ wrs, badWr ≠ some wr) → count = wrs.length)

def Reported (jetty target : Jetty) (reply : Reply) : Call → Prop
  | .post _ _ _ _ _ => target.held = jetty.held ++ reply.out
  | .postList operation segment entries stores answer =>
    target.held = jetty.held ++ reply.out ∧
      match (jetty.postListPrepare operation segment entries stores).2 with
      | .error _ => reply.out = [] ∧ reply.posted.getD 0 = 0
      | .ok wrs => wrs.length = (entries.getD []).length ∧ ∃ count, Cut wrs count answer ∧
          reply.posted = some count ∧ reply.out = wrs.take count
  | .complete none => target = jetty
  | .complete (some wr) =>
    target.held = jetty.held.erase wr ∧ 0 < jetty.outstanding ∧ 0 < jetty.runtimeOutstanding ∧
      0 < jetty.segmentOutstanding (jetty.arena wr).segment

theorem cut_submitted {wrs} (nodup : wrs.Nodup) (answer : Answer) :
    Cut wrs (submitted wrs answer).2 answer := by
  cases answer with
  | success => rfl
  | failure status badWr =>
    refine ⟨fun index wr here bad => ?_, fun absent => ?_⟩
    · obtain ⟨inside, rfl⟩ := List.getElem?_eq_some_iff.mp here
      refine (findIdx_eq inside).mpr ⟨decide_eq_true bad, fun other earlier => ?_⟩
      refine decide_eq_false fun same => ?_
      exact earlier.ne (nodup.getElem_inj_iff.mp (some.inj (same.symm.trans bad)))
    · exact findIdx_eq_length.mpr fun wr listed => decide_eq_false (absent wr listed)

variable {free : List Nat} {jetty : Jetty}

theorem Conserved.postList (conserved : jetty.Conserved free [])
    (operation : Operation) (segment : Nat) (entries : Option (List PostEntry)) (stores : Bool)
    (answer : Answer) :
    (∃ rest, (jetty.postList operation segment entries stores answer).1.Conserved rest []) ∧
      Reported jetty (jetty.postList operation segment entries stores answer).1
        (jetty.postList operation segment entries stores answer).2
        (.postList operation segment entries stores answer) := by
  obtain ⟨held, rest, outcome⟩ := conserved.postListPrepare operation segment entries stores
  rw [Reported, Jetty.postList]
  rcases prepares : jetty.postListPrepare operation segment entries stores with ⟨next, reply | wrs⟩
  · rw [prepares] at held outcome
    exact ⟨⟨rest, outcome.1⟩, by rw [outcome.2.1, append_nil]; exact held, outcome.2⟩
  · rw [prepares] at held outcome
    obtain ⟨next, places⟩ := outcome
    obtain ⟨heldFilled, filled⟩ := next.fillAll (fun _ listed => listed) operation (entries.getD [])
    obtain ⟨settled, heldSettled⟩ := filled.settle (submitted wrs answer).2
    exact ⟨settled, heldSettled.trans (by rw [heldFilled, held]), places.length_eq, _,
      cut_submitted next.nodup_taken answer, rfl, rfl⟩

theorem Conserved.post {target operation segment entry out answer reply}
    (conserved : jetty.Conserved free [])
    (posts : jetty.post operation segment entry out answer = some (target, reply)) :
    (∃ rest, target.Conserved rest []) ∧ target.held = jetty.held ++ reply.out := by
  unfold Jetty.post at posts
  split at posts
  next =>
    split at posts
    next =>
      cases posts
      exact ⟨⟨free, conserved⟩, (append_nil _).symm⟩
    next wr next acquires =>
      obtain ⟨held, rest, taken⟩ := conserved.acquired acquires
      have filled := taken.fill (mem_singleton_self wr) operation entry none
      cases answer with
      | failure status badWr =>
        cases posts
        exact ⟨⟨_, filled.wrReturn⟩, held.trans (append_nil _).symm⟩
      | success =>
        cases out with
        | false => cases posts
        | true =>
          cases posts
          exact ⟨⟨rest, filled.wrPosted⟩, congrArg (· ++ [wr]) held⟩
  next =>
    cases posts
    exact ⟨⟨free, conserved⟩, (append_nil _).symm⟩

theorem Conserved.act {target call reply} (conserved : jetty.Conserved free [])
    (acts : jetty.act call = some (target, reply)) :
    (∃ rest, target.Conserved rest []) ∧ Reported jetty target reply call := by
  cases call with
  | post operation segment entry out answer => exact conserved.post acts
  | postList operation segment entries stores answer =>
    have same : jetty.postList operation segment entries stores answer = (target, reply) :=
      some.inj acts
    have posted := conserved.postList operation segment entries stores answer
    rwa [same] at posted
  | complete named =>
    cases named with
    | none =>
      cases acts
      exact ⟨⟨free, conserved⟩, rfl⟩
    | some wr =>
      obtain ⟨held, same⟩ := ite_none_right_eq_some.mp acts
      cases same
      obtain ⟨jettyCount, runtimeCount, segmentCount, completed⟩ := conserved.wrComplete held
      exact ⟨⟨_, completed⟩, rfl, jettyCount, runtimeCount, segmentCount⟩

theorem linked_headAt (count : Nat) :
    Linked (fun wr => { nextFree := headAt wr }) (headAt count) (List.range count).reverse := by
  induction count with
  | zero => rfl
  | succ count ih =>
    rw [range_succ, reverse_append]
    exact ⟨rfl, ih⟩

theorem Conserved.create (initial : Initial jetty) :
    ∃ free, jetty.Conserved free [] := by
  obtain ⟨sendDepth, recvDepth, segments, created, connected, creates⟩ := initial
  obtain ⟨fits, same⟩ := ite_none_left_eq_some.mp creates
  cases same
  refine ⟨_, linked_headAt _, ?_, ?_, fun _ => nofun, rfl, rfl, fun _ => rfl⟩
  · rw [append_nil, append_nil]
    exact reverse_perm _
  · have bound := UInt32.le_iff_toNat_le.mp (UInt32.not_lt.mp fits)
    have below : recvDepth ≤ UInt32.ofNat (2 ^ 32 - 1) :=
      UInt32.le_iff_toNat_le.mpr (Nat.le_of_lt_succ recvDepth.toNat_lt)
    rw [UInt32.toNat_sub_of_le _ _ below] at bound
    have depth := recvDepth.toNat_lt
    have whole : (UInt32.ofNat (2 ^ 32 - 1)).toNat = 2 ^ 32 - 1 := rfl
    dsimp only
    omega

theorem Conserved.of_reachable (reached : Reachable Initial Step jetty) :
    ∃ free, jetty.Conserved free [] := by
  refine reached.invariant (fun jetty => ∃ free, jetty.Conserved free [])
    (fun _ => Conserved.create) ?_
  rintro state call target ⟨free, conserved⟩ ⟨reply, acts⟩
  exact (conserved.act acts).1

section Chain

variable {operation : Operation} {segment : Nat} {entries : List PostEntry}

/-- From a head the provider finds the entries in their order, and then `NULL`. -/
def Chains (arena : Nat → Wr) (operation : Operation) (segment : Nat) :
    Option Nat → List PostEntry → Prop
  | head, [] => head = none
  | head, entry :: entries => ∃ wr next, head = some wr ∧
      arena wr =
        { segment, next
          offset := entry.offset
          length := entry.length
          operation := some operation
          userCtx := entry.userCtx
          immData := if operation = .sendImm then entry.immData else 0 } ∧
      Chains arena operation segment next entries

theorem arena_fillAll {jetty wrs wr} (absent : wr ∉ wrs) :
    (fillAll operation wrs entries jetty).arena wr = jetty.arena wr := by
  induction wrs generalizing entries jetty with
  | nil => rfl
  | cons first wrs ih =>
    rw [mem_cons, not_or] at absent
    cases entries with
    | nil => rfl
    | cons entry entries => exact (ih absent.2).trans (update_of_ne absent.1 _ _)

theorem Places.fillAll {jetty wrs} (places : Places jetty.arena segment wrs entries)
    (nodup : wrs.Nodup) :
    Chains (Jetty.fillAll operation wrs entries jetty).arena operation segment wrs.head?
      entries := by
  induction wrs generalizing entries jetty with
  | nil =>
    cases places
    rfl
  | cons wr wrs ih =>
    cases places with
    | cons here rest =>
      rw [nodup_cons] at nodup
      refine ⟨wr, wrs.head?, rfl, (arena_fillAll nodup.1).trans ?_, ih ?_ nodup.2⟩
      · refine (update_self ..).trans ?_
        rw [here]
      · exact Places.update rest nodup.1 _

/-- The chain that a list post hands to the provider is the list of its entries. -/
theorem post_list_chain {jetty next : Jetty} {wrs : List Nat} (stores : Bool)
    (reached : Reachable Initial Step jetty)
    (prepares : jetty.postListPrepare operation segment (some entries) stores = (next, .ok wrs)) :
    Chains (fillAll operation wrs entries next).arena operation segment wrs.head? entries := by
  obtain ⟨free, conserved⟩ := Conserved.of_reachable reached
  obtain ⟨-, rest, outcome⟩ := conserved.postListPrepare operation segment (some entries) stores
  rw [prepares] at outcome
  exact outcome.2.fillAll outcome.1.nodup_taken

theorem post_list_chain_two :
    let entries := [⟨0, 8, 0, 0⟩, ⟨8, 8, 1, 0⟩]
    ∃ jetty next, Reachable Initial Step jetty ∧
      jetty.postListPrepare .recv 1 (some entries) true = (next, .ok [1, 0]) ∧
      Chains (fillAll .recv [1, 0] entries next).arena .recv 1 (some 1) entries := by
  intro entries
  have begins : Reachable Initial Step _ :=
    .start ⟨1, 1, fun _ => ⟨true, true, 16⟩, true, true, rfl⟩
  exact ⟨_, _, begins, rfl, post_list_chain true begins rfl⟩

end Chain

end Jetty

end DragonflyClient.Urma.Shim
