import DragonflyClient.Library.Table

/-!
Doubly linked lists in a heap.

A pointer is an address; following one to a node that has been freed has no result.  A list
holds its cells if the nodes at their addresses are linked in their order, from the head to the
tail.  Parts of a list are linked between a node before them and a node after them, so that a
list can be cut and joined.
-/

namespace DragonflyClient.Library

open List Option Table

structure Node (Payload : Type) where
  payload : Payload
  prev : Option Nat
  next : Option Nat
  deriving DecidableEq, Repr

structure DoublyLinked (Payload : Type) where
  heap : Table Nat (Node Payload)
  head : Option Nat
  tail : Option Nat

namespace DoublyLinked

variable {Payload : Type}

def modify (list : DoublyLinked Payload) (address : Nat) (change : Node Payload → Node Payload) :
    Option (DoublyLinked Payload) :=
  (list.heap.lookup address).map fun node =>
    { list with heap := list.heap.insert address (change node) }

/-- What comes after `prev`, or at the head without one. -/
def relinkNext (list : DoublyLinked Payload) (prev next : Option Nat) :
    Option (DoublyLinked Payload) :=
  match prev with
  | some prev => list.modify prev ({ · with next })
  | none => some { list with head := next }

/-- What comes before `next`, or at the tail without one. -/
def relinkPrev (list : DoublyLinked Payload) (prev next : Option Nat) :
    Option (DoublyLinked Payload) :=
  match next with
  | some next => list.modify next ({ · with prev })
  | none => some { list with tail := prev }

def detach (list : DoublyLinked Payload) (address : Nat) : Option (DoublyLinked Payload) :=
  (list.heap.lookup address).bind fun node =>
    (list.relinkNext node.prev node.next).bind fun list =>
      (list.relinkPrev node.prev node.next).bind fun list =>
        list.modify address ({ · with prev := none, next := none })

/-- A node without links goes to the front. -/
def attach (list : DoublyLinked Payload) (address : Nat) : Option (DoublyLinked Payload) :=
  match list.head with
  | some head =>
    (list.modify address ({ · with next := some head })).bind fun list =>
      (list.modify head ({ · with prev := some address })).map fun list =>
        { list with head := some address }
  | none => some { list with head := some address, tail := some address }

def promote (list : DoublyLinked Payload) (address : Nat) : Option (DoublyLinked Payload) :=
  (list.detach address).bind (·.attach address)

def setPayload (list : DoublyLinked Payload) (address : Nat) (payload : Payload) :
    Option (DoublyLinked Payload) :=
  list.modify address ({ · with payload })

def allocate (list : DoublyLinked Payload) (address : Nat) (payload : Payload) :
    DoublyLinked Payload :=
  { list with heap := list.heap.insert address ⟨payload, none, none⟩ }

def take (list : DoublyLinked Payload) (address : Nat) : Option (Payload × DoublyLinked Payload) :=
  (list.heap.lookup address).map fun node =>
    (node.payload, { list with heap := list.heap.erase address })

/-- An allocator finds an address that is not in use, which may be one that was freed. -/
structure Allocator (Payload : Type) where
  address : Table Nat (Node Payload) → Nat
  unused : ∀ heap, address heap ∉ heap

/-- The address above all addresses in use. -/
def Allocator.next (Payload : Type) : Allocator Payload where
  address heap := heap.keys.foldr max 0 + 1
  unused heap used := by
    have above (keys : List Nat) : ∀ key ∈ keys, key ≤ keys.foldr max 0 := by
      induction keys with
      | nil => simp
      | cons first rest ih =>
        intro key listed
        rcases List.mem_cons.mp listed with rfl | later
        · exact Nat.le_max_left ..
        · exact Nat.le_trans (ih key later) (Nat.le_max_right ..)
    have := above heap.keys _ (AList.mem_keys.mp used)
    omega

section Parts

variable {heap after : Table Nat (Node Payload)} {cells left right : List (Nat × Payload)}
  {prev next : Option Nat} {address : Nat}

/-- The first address of the cells, or what follows them. -/
def firstOf : List (Nat × Payload) → Option Nat → Option Nat
  | [], next => next
  | cell :: _, _ => some cell.1

/-- The last address of the cells, or what precedes them. -/
def lastOf : Option Nat → List (Nat × Payload) → Option Nat
  | prev, [] => prev
  | _, cell :: cells => lastOf (some cell.1) cells

def Linked (heap : Table Nat (Node Payload)) :
    Option Nat → List (Nat × Payload) → Option Nat → Prop
  | _, [], _ => True
  | prev, cell :: cells, next =>
    heap.lookup cell.1 = some ⟨cell.2, prev, firstOf cells next⟩ ∧
      Linked heap (some cell.1) cells next

theorem firstOf_append (left right : List (Nat × Payload)) (next : Option Nat) :
    firstOf (left ++ right) next = firstOf left (firstOf right next) := by
  cases left <;> rfl

theorem lastOf_append (prev : Option Nat) (left right : List (Nat × Payload)) :
    lastOf prev (left ++ right) = lastOf (lastOf prev left) right := by
  induction left generalizing prev with
  | nil => rfl
  | cons cell left ih => exact ih _

theorem linked_append : Linked heap prev (left ++ right) next ↔
    Linked heap prev left (firstOf right next) ∧ Linked heap (lastOf prev left) right next := by
  induction left generalizing prev with
  | nil => exact (true_and _).symm.to_iff
  | cons cell left ih =>
    rw [cons_append, Linked, Linked, ih, firstOf_append, and_assoc]
    rfl

theorem Linked.frame (linked : Linked heap prev cells next)
    (same : ∀ cell ∈ cells, after.lookup cell.1 = heap.lookup cell.1) :
    Linked after prev cells next := by
  induction cells generalizing prev with
  | nil => trivial
  | cons cell cells ih =>
    rw [forall_mem_cons] at same
    exact ⟨same.1.trans linked.1, ih linked.2 same.2⟩

variable {cell : Nat × Payload}

theorem Linked.lookup (linked : Linked heap prev cells next)
    (listed : cell ∈ cells) : ∃ node, heap.lookup cell.1 = some node ∧ node.payload = cell.2 := by
  induction cells generalizing prev with
  | nil => cases listed
  | cons first cells ih =>
    rcases mem_cons.mp listed with rfl | later
    · exact ⟨_, linked.1, rfl⟩
    · exact ih linked.2 later

theorem firstOf_mem (member : address ∈ firstOf cells next) :
    address ∈ cells.map (·.1) ∨ address ∈ next := by
  cases cells with
  | nil => exact .inr member
  | cons cell cells => exact .inl (mem_some.mp member ▸ mem_cons_self)

theorem lastOf_mem (member : address ∈ lastOf prev cells) :
    address ∈ cells.map (·.1) ∨ address ∈ prev := by
  induction cells generalizing prev with
  | nil => exact .inr member
  | cons cell cells ih =>
    rcases ih member with later | here
    · exact .inl (mem_cons_of_mem _ later)
    · exact .inl (mem_some.mp here ▸ mem_cons_self)

theorem Linked.links (linked : Linked heap none (left ++ cell :: right) none) :
    ∃ node, heap.lookup cell.1 = some node ∧ (∀ address ∈ node.prev, address ∈ left.map (·.1)) ∧
      ∀ address ∈ node.next, address ∈ right.map (·.1) := by
  refine ⟨_, (linked_append.mp linked).2.1, fun address member => ?_, fun address member => ?_⟩
  · exact (lastOf_mem member).resolve_right (not_mem_none _)
  · exact (firstOf_mem member).resolve_right (not_mem_none _)

theorem Linked.relink_last {node} (linked : Linked heap prev (left ++ [cell]) next)
    (nodup : ((left ++ [cell]).map (·.1)).Nodup) (found : heap.lookup cell.1 = some node)
    (after : Option Nat) :
    Linked (heap.insert cell.1 { node with next := after }) prev (left ++ [cell]) after := by
  rw [linked_append] at linked ⊢
  have this : node = ⟨cell.2, lastOf prev left, next⟩ := some.inj (found.symm.trans linked.2.1)
  refine ⟨linked.1.frame fun other listed => ?_, ?_, trivial⟩
  · have different : other.1 ≠ cell.1 := by
      rintro same
      rw [map_append, nodup_append] at nodup
      exact nodup.2.2 _ (mem_map_of_mem listed) _ mem_cons_self same
    rw [lookup_insert_eq, if_neg different]
  · rw [lookup_insert_eq, if_pos rfl, this]
    rfl

theorem Linked.relink_first {node} (linked : Linked heap prev (cell :: right) next)
    (nodup : ((cell :: right).map (·.1)).Nodup) (found : heap.lookup cell.1 = some node)
    (before : Option Nat) :
    Linked (heap.insert cell.1 { node with prev := before }) before (cell :: right) next := by
  have this : node = ⟨cell.2, prev, firstOf right next⟩ := some.inj (found.symm.trans linked.1)
  refine ⟨?_, linked.2.frame fun other listed => ?_⟩
  · rw [lookup_insert_eq, if_pos rfl, this]
  · have different : other.1 ≠ cell.1 := by
      rintro same
      exact (nodup_cons.mp nodup).1 (mem_map.mpr ⟨other, listed, same⟩)
    rw [lookup_insert_eq, if_neg different]

end Parts

structure Holds (list : DoublyLinked Payload) (cells : List (Nat × Payload)) : Prop where
  head : list.head = firstOf cells none
  tail : list.tail = lastOf none cells
  linked : Linked list.heap none cells none
  nodup : (cells.map (·.1)).Nodup

section Operations

variable {list after : DoublyLinked Payload} {cells left right : List (Nat × Payload)}
  {prev next : Option Nat} {address : Nat} {node : Node Payload}

theorem modify_of_lookup (found : list.heap.lookup address = some node)
    (change : Node Payload → Node Payload) :
    list.modify address change =
      some { list with heap := list.heap.insert address (change node) } := by
  rw [modify, found]
  rfl

theorem take_of_lookup {payload} (found : list.heap.lookup address = some ⟨payload, prev, next⟩) :
    list.take address = some (payload, { list with heap := list.heap.erase address }) := by
  rw [take, found]
  rfl

def Frames (list after : DoublyLinked Payload) (cells : List (Nat × Payload)) : Prop :=
  ∀ address, address ∉ cells.map (·.1) → after.heap.lookup address = list.heap.lookup address

theorem frames_insert (listed : address ∈ cells.map (·.1)) (node : Node Payload) :
    Frames list { list with heap := list.heap.insert address node } cells := by
  intro other outside
  refine (lookup_insert_eq ..).trans (if_neg ?_)
  rintro rfl
  exact outside listed

theorem relinkNext_spec (linked : Linked list.heap none left next) (nodup : (left.map (·.1)).Nodup)
    (head : list.head = firstOf left next) (follower : Option Nat) :
    ∃ after, list.relinkNext (lastOf none left) follower = some after ∧
      Linked after.heap none left follower ∧ after.head = firstOf left follower ∧
      after.tail = list.tail ∧ Frames list after left := by
  rcases eq_nil_or_concat' left with rfl | ⟨before, cell, rfl⟩
  · exact ⟨_, rfl, trivial, rfl, rfl, fun _ _ => rfl⟩
  · rw [lastOf_append]
    have found := (linked_append.mp linked).2.1
    refine ⟨_, modify_of_lookup found _, linked.relink_last nodup found _, ?_, rfl,
      frames_insert (by simp) _⟩
    rw [head, firstOf_append, firstOf_append]
    rfl

theorem relinkPrev_spec (linked : Linked list.heap prev right none)
    (nodup : (right.map (·.1)).Nodup) (tail : list.tail = lastOf prev right) (leader : Option Nat) :
    ∃ after, list.relinkPrev leader (firstOf right none) = some after ∧
      Linked after.heap leader right none ∧ after.tail = lastOf leader right ∧
      after.head = list.head ∧ Frames list after right := by
  cases right with
  | nil => exact ⟨_, rfl, trivial, rfl, rfl, fun _ _ => rfl⟩
  | cons cell right =>
    exact ⟨_, modify_of_lookup linked.1 _, linked.relink_first nodup linked.1 _, tail, rfl,
      frames_insert (by simp) _⟩

/-- A cell of the list is cut out of it; its node stays in the heap, without links. -/
theorem detach_spec {cell} (holds : Holds list (left ++ cell :: right)) :
    ∃ after, list.detach cell.1 = some after ∧ Holds after (left ++ right) ∧
      after.heap.lookup cell.1 = some ⟨cell.2, none, none⟩ ∧
      Frames list after (left ++ cell :: right) := by
  have ⟨linkedLeft, found, linkedRight⟩ := linked_append.mp holds.linked
  have nodup := holds.nodup
  rw [map_append, map_cons, nodup_middle, nodup_cons, mem_append, not_or, ← map_append] at nodup
  obtain ⟨⟨notLeft, notRight⟩, nodupParts⟩ := nodup
  have nodupBoth := nodupParts
  rw [map_append, nodup_append] at nodupParts
  obtain ⟨nodupLeft, nodupRight, disjoint⟩ := nodupParts
  obtain ⟨first, relinkedLeft, firstLinked, firstHead, firstTail, firstFrame⟩ :=
    relinkNext_spec linkedLeft nodupLeft (holds.head.trans (firstOf_append ..))
      (firstOf right none)
  have firstRight : Linked first.heap (some cell.1) right none :=
    linkedRight.frame fun other listed => firstFrame _ fun both =>
      disjoint _ both _ (mem_map_of_mem listed) rfl
  obtain ⟨second, relinkedRight, secondLinked, secondTail, secondHead, secondFrame⟩ :=
    relinkPrev_spec firstRight nodupRight
      (firstTail.trans (holds.tail.trans (lastOf_append ..))) (lastOf none left)
  have secondFound : second.heap.lookup cell.1 = some ⟨cell.2, lastOf none left,
      firstOf right none⟩ :=
    (secondFrame _ notRight).trans ((firstFrame _ notLeft).trans found)
  have cut (other : Nat × Payload) (different : other.1 ≠ cell.1) :
      (second.heap.insert cell.1 ⟨cell.2, none, none⟩).lookup other.1 =
        second.heap.lookup other.1 := (lookup_insert_eq ..).trans (if_neg different)
  refine ⟨{ second with heap := second.heap.insert cell.1 ⟨cell.2, none, none⟩ }, ?_, ?_, ?_, ?_⟩
  · rw [detach, found, bind_some, relinkedLeft, bind_some, relinkedRight,
      bind_some, modify_of_lookup secondFound]
  · refine ⟨?_, ?_, linked_append.mpr ⟨?_, ?_⟩, nodupBoth⟩
    · exact secondHead.trans (firstHead.trans (firstOf_append ..).symm)
    · exact secondTail.trans (lastOf_append ..).symm
    · refine firstLinked.frame fun other listed => ?_
      have inLeft := mem_map_of_mem (f := (·.1)) listed
      exact (cut other fun same => notLeft (same ▸ inLeft)).trans
        (secondFrame _ fun both => disjoint _ inLeft _ both rfl)
    · refine secondLinked.frame fun other listed => ?_
      have inRight := mem_map_of_mem (f := (·.1)) listed
      exact cut other fun same => notRight (same ▸ inRight)
  · exact (lookup_insert_eq ..).trans (if_pos rfl)
  · intro other outside
    rw [map_append, map_cons, mem_append, mem_cons, not_or, not_or] at outside
    exact (lookup_insert_eq ..).trans ((if_neg outside.2.1).trans
      ((secondFrame _ outside.2.2).trans (firstFrame _ outside.1)))

theorem attach_of_head {first} (head : list.head = some first) :
    list.attach address =
      (list.modify address ({ · with next := some first })).bind fun list =>
        (list.modify first ({ · with prev := some address })).map fun list =>
          { list with head := some address } := by
  rw [attach, head]

theorem attach_spec {payload} (holds : Holds list cells)
    (found : list.heap.lookup address = some ⟨payload, none, none⟩)
    (outside : address ∉ cells.map (·.1)) :
    ∃ after, list.attach address = some after ∧ Holds after ((address, payload) :: cells) ∧
      Frames list after ((address, payload) :: cells) := by
  have nodup : (((address, payload) :: cells).map (·.1)).Nodup :=
    nodup_cons.mpr ⟨outside, holds.nodup⟩
  cases cells with
  | nil =>
    refine ⟨{ list with head := some address, tail := some address }, ?_, ?_, fun _ _ => rfl⟩
    · rw [attach, holds.head]
      rfl
    · exact ⟨rfl, rfl, ⟨found, trivial⟩, nodup⟩
  | cons cell cells =>
    let first : DoublyLinked Payload :=
      { list with heap := list.heap.insert address ⟨payload, none, some cell.1⟩ }
    have frame : Frames list first ((address, payload) :: cell :: cells) :=
      frames_insert mem_cons_self _
    have elsewhere (other : Nat × Payload) (listed : other ∈ cell :: cells) :
        first.heap.lookup other.1 = list.heap.lookup other.1 := by
      refine (lookup_insert_eq ..).trans (if_neg ?_)
      rintro rfl
      exact outside (mem_map_of_mem listed)
    have linked : Linked first.heap none (cell :: cells) none := holds.linked.frame elsewhere
    refine ⟨{ first with
        head := some address
        heap := first.heap.insert cell.1 ⟨cell.2, some address, firstOf cells none⟩ }, ?_, ?_, ?_⟩
    · rw [attach_of_head holds.head, modify_of_lookup found, bind_some, modify_of_lookup linked.1]
      rfl
    · refine ⟨rfl, holds.tail, ⟨?_, ?_⟩, nodup⟩
      · have different : address ≠ cell.1 := fun same => outside (same ▸ mem_cons_self)
        exact (lookup_insert_eq ..).trans ((if_neg different).trans
          ((lookup_insert_eq ..).trans (if_pos rfl)))
      · exact linked.relink_first holds.nodup linked.1 (some address)
    · intro other away
      refine (lookup_insert_eq ..).trans ((if_neg ?_).trans (frame other away))
      rintro rfl
      exact away (mem_cons_of_mem _ mem_cons_self)

theorem promote_spec {cell} (holds : Holds list (left ++ cell :: right)) :
    ∃ after, list.promote cell.1 = some after ∧ Holds after (cell :: (left ++ right)) ∧
      Frames list after (left ++ cell :: right) := by
  obtain ⟨first, detached, firstHolds, found, firstFrame⟩ := detach_spec holds
  have outside : cell.1 ∉ (left ++ right).map (·.1) := by
    have nodup := holds.nodup
    rw [map_append, map_cons, nodup_middle, ← map_append] at nodup
    exact (nodup_cons.mp nodup).1
  obtain ⟨second, attached, secondHolds, secondFrame⟩ := attach_spec firstHolds found outside
  refine ⟨second, ?_, secondHolds, ?_⟩
  · rw [promote, detached, bind_some, attached]
  · intro other away
    refine (secondFrame other fun listed => away ?_).trans (firstFrame other away)
    exact (List.Perm.map _ perm_middle).mem_iff.mpr listed

theorem setPayload_spec {cell} (holds : Holds list (left ++ cell :: right)) (payload : Payload) :
    ∃ after, list.setPayload cell.1 payload = some after ∧
      Holds after (left ++ (cell.1, payload) :: right) ∧
      Frames list after (left ++ cell :: right) := by
  have ⟨linkedLeft, found, linkedRight⟩ := linked_append.mp holds.linked
  have nodup := holds.nodup
  rw [map_append, map_cons, nodup_middle, nodup_cons, mem_append, not_or] at nodup
  refine ⟨_, modify_of_lookup found _, ⟨?_, ?_, linked_append.mpr ⟨?_, ?_, ?_⟩, ?_⟩,
    frames_insert (by simp) _⟩
  · exact holds.head.trans (by rw [firstOf_append, firstOf_append]; rfl)
  · exact holds.tail.trans (by rw [lastOf_append, lastOf_append]; rfl)
  · refine linkedLeft.frame fun other listed =>
      (lookup_insert_eq ..).trans (if_neg fun same => nodup.1.1 ?_)
    exact mem_map.mpr ⟨other, listed, same⟩
  · exact (lookup_insert_eq ..).trans (if_pos rfl)
  · refine linkedRight.frame fun other listed =>
      (lookup_insert_eq ..).trans (if_neg fun same => nodup.1.2 ?_)
    exact mem_map.mpr ⟨other, listed, same⟩
  · simpa using holds.nodup

theorem Holds.frame (holds : Holds list cells) {heap}
    (same : ∀ address ∈ cells.map (·.1), heap.lookup address = list.heap.lookup address) :
    Holds { list with heap } cells :=
  ⟨holds.head, holds.tail,
    holds.linked.frame fun _ listed => same _ (mem_map_of_mem listed), holds.nodup⟩

end Operations

end DoublyLinked

end DragonflyClient.Library
