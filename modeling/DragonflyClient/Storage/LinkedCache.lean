import DragonflyClient.Library.DoublyLinked
import DragonflyClient.Storage.LruCache

/-!
The least recently used cache (`cache/lru_cache.rs`) as the code keeps it.

A hash map owns the boxed entries; its keys are pointers to the keys inside them, and raw
pointers link the entries in the order of their last use.  Every access goes through an address
and has no result once the entry there has been freed.  Whatever is called, the cache answers as
the list of its entries does, and its map, its links and its boxes are about the same entries.
-/

namespace DragonflyClient.Storage

open Library List Option LruCache

/-- `LruCache`.  An item of the map is the address of the entry with the key (`KeyRef`) and the
address of the box. -/
structure LinkedCache (Key Value : Type) where
  capacity : Nat
  map : List (Nat × Nat)
  list : DoublyLinked (Key × Value)

namespace LinkedCache

variable {Key Value : Type} [DecidableEq Key]

def new (capacity : Nat) : LinkedCache Key Value := ⟨capacity, [], ⟨∅, none, none⟩⟩

/-- The search of the map reads the keys behind its pointers. -/
def findItem (heap : Table Nat (Node (Key × Value))) (key : Key) :
    List (Nat × Nat) → Option (Option (Nat × Nat))
  | [] => some none
  | item :: items =>
    (heap.lookup item.1).bind fun node =>
      if node.payload.1 = key then some (some item) else findItem heap key items

def find (cache : LinkedCache Key Value) (key : Key) : Option (Option (Nat × Nat)) :=
  findItem cache.list.heap key cache.map

/-- `HashMap::remove`: the box is handed out. -/
def remove (cache : LinkedCache Key Value) (key : Key) :
    Option (Option Nat × LinkedCache Key Value) :=
  (cache.find key).map fun
    | none => (none, cache)
    | some item => (some item.2, { cache with map := cache.map.erase item })

/-- `HashMap::insert`: an equal key stays and its old box is dropped. -/
def insert (cache : LinkedCache Key Value) (keyRef box : Nat) : Option (LinkedCache Key Value) :=
  (cache.list.heap.lookup keyRef).bind fun node =>
    (cache.find node.payload.1).bind fun
      | none => some { cache with map := (keyRef, box) :: cache.map }
      | some item =>
        (cache.list.take item.2).map fun taken =>
          { cache with map := (item.1, box) :: cache.map.erase item, list := taken.2 }

def get (cache : LinkedCache Key Value) (key : Key) :
    Option (Option Value × LinkedCache Key Value) :=
  (cache.find key).bind fun
    | none => some (none, cache)
    | some item =>
      (cache.list.promote item.2).bind fun list =>
        (list.heap.lookup item.2).map fun node =>
          (some node.payload.2, { cache with list })

/-- The entry at the tail is detached and taken out of the map. -/
def removeTail (cache : LinkedCache Key Value) (tail : Nat) :
    Option (Option (Key × Value) × LinkedCache Key Value) :=
  (cache.list.detach tail).bind fun list =>
    (list.heap.lookup tail).bind fun node =>
      (remove { cache with list } node.payload.1).bind fun
        | (none, cache) => some (none, cache)
        | (some box, cache) =>
          (cache.list.take box).map fun taken =>
            (some taken.1, { cache with list := taken.2 })

def evict (cache : LinkedCache Key Value) : Option (Option Value × LinkedCache Key Value) :=
  if cache.capacity ≤ cache.map.length then
    match cache.list.tail with
    | some tail => (cache.removeTail tail).map fun removed => (removed.1.map (·.2), removed.2)
    | none => some (none, cache)
  else some (none, cache)

def put (allocator : DoublyLinked.Allocator (Key × Value)) (cache : LinkedCache Key Value)
    (key : Key) (value : Value) : Option (Option Value × LinkedCache Key Value) :=
  (cache.find key).bind fun
    | some item =>
      (cache.list.heap.lookup item.2).bind fun node =>
        (cache.list.setPayload item.2 (node.payload.1, value)).bind fun list =>
          (list.promote item.2).map fun list => (some node.payload.2, { cache with list })
    | none =>
      cache.evict.bind fun evicted =>
        let box := allocator.address evicted.2.list.heap
        ((evicted.2.list.allocate box (key, value)).attach box).bind fun list =>
          (insert { evicted.2 with list } box box).map fun cache => (evicted.1, cache)

def contains (cache : LinkedCache Key Value) (key : Key) : Option Bool :=
  (cache.find key).map (·.isSome)

def peek (cache : LinkedCache Key Value) (key : Key) : Option (Option Value) :=
  (cache.find key).bind fun
    | none => some none
    | some item => (cache.list.heap.lookup item.2).map fun node => some node.payload.2

def popLru (cache : LinkedCache Key Value) :
    Option (Option (Key × Value) × LinkedCache Key Value) :=
  if cache.map.isEmpty then some (none, cache)
  else
    match cache.list.tail with
    | some tail => cache.removeTail tail
    | none => some (none, cache)

def pop (cache : LinkedCache Key Value) (key : Key) :
    Option (Option (Key × Value) × LinkedCache Key Value) :=
  (cache.remove key).bind fun
    | (none, cache) => some (none, cache)
    | (some box, cache) =>
      (cache.list.detach box).bind fun list =>
        (list.take box).map fun taken => (some taken.1, { cache with list := taken.2 })

/-- The map has one item for each cell, whose entry has the cell's key and value. -/
structure Indexed (map : List (Nat × Nat)) (heap : Table Nat (Node (Key × Value)))
    (cells : List (Nat × Key × Value)) : Prop where
  items : map.Perm ((cells.map (·.1)).map fun address => (address, address))
  payloads : ∀ cell ∈ cells, ∃ node, heap.lookup cell.1 = some node ∧ node.payload = cell.2
  addresses : (cells.map (·.1)).Nodup
  keys : (cells.map (·.2.1)).Nodup

/-- The cache is made of these cells, from the most to the least recently used. -/
structure Stores (cache : LinkedCache Key Value) (cells : List (Nat × Key × Value)) : Prop where
  holds : cache.list.Holds cells
  items : cache.map.Perm ((cells.map (·.1)).map fun address => (address, address))
  keys : (cells.map (·.2.1)).Nodup
  freed : ∀ address, address ∉ cells.map (·.1) → cache.list.heap.lookup address = none
  bounded : cells.length ≤ cache.capacity

/-- Every pointer of the cache is to an entry that has not been freed. -/
structure Live (cache : LinkedCache Key Value) : Prop where
  head : ∀ address ∈ cache.list.head, address ∈ cache.list.heap
  tail : ∀ address ∈ cache.list.tail, address ∈ cache.list.heap
  prev : ∀ entry node, cache.list.heap.lookup entry = some node →
    ∀ address ∈ node.prev, address ∈ cache.list.heap
  next : ∀ entry node, cache.list.heap.lookup entry = some node →
    ∀ address ∈ node.next, address ∈ cache.list.heap
  map : ∀ item ∈ cache.map, item.1 ∈ cache.list.heap ∧ item.2 ∈ cache.list.heap

section Index

variable {map items : List (Nat × Nat)} {heap : Table Nat (Node (Key × Value))}
  {cells : List (Nat × Key × Value)} {cell : Nat × Key × Value} {key : Key}
  {cache : LinkedCache Key Value}

omit [DecidableEq Key] in
theorem Stores.indexed (stores : cache.Stores cells) : Indexed cache.map cache.list.heap cells :=
  ⟨stores.items, fun _ listed => stores.holds.linked.lookup listed, stores.holds.nodup, stores.keys⟩

omit [DecidableEq Key] in
theorem Indexed.mem_items (indexed : Indexed map heap cells) {item} :
    item ∈ map ↔ ∃ cell ∈ cells, (cell.1, cell.1) = item := by
  rw [indexed.items.mem_iff, List.map_map, List.mem_map]
  rfl

omit [DecidableEq Key] in
theorem Stores.mem_heap (stores : cache.Stores cells) {address} :
    address ∈ cache.list.heap ↔ address ∈ cells.map (·.1) := by
  rw [Table.mem_iff_lookup]
  constructor
  · rintro ⟨node, found⟩
    by_contra outside
    cases found.symm.trans (stores.freed address outside)
  · intro member
    obtain ⟨cell, listed, rfl⟩ := mem_map.mp member
    obtain ⟨node, found, -⟩ := stores.holds.linked.lookup listed
    exact ⟨node, found⟩

omit [DecidableEq Key] in
theorem Stores.live (stores : cache.Stores cells) : cache.Live := by
  have linked {entry : Nat} {node : Node (Key × Value)}
      (found : cache.list.heap.lookup entry = some node) :
      (∀ address ∈ node.prev, address ∈ cells.map (·.1)) ∧
        ∀ address ∈ node.next, address ∈ cells.map (·.1) := by
    obtain ⟨cell, listed, rfl⟩ := mem_map.mp
      (stores.mem_heap.mp (Table.mem_iff_lookup.mpr ⟨node, found⟩))
    obtain ⟨left, right, rfl⟩ := append_of_mem listed
    obtain ⟨same, lookup, prev, next⟩ := stores.holds.linked.links
    cases found.symm.trans lookup
    rw [map_append, map_cons]
    exact ⟨fun address member => mem_append_left _ (prev address member),
      fun address member =>
        mem_append_right _ (mem_cons_of_mem _ (next address member))⟩
  constructor
  case head =>
    intro address member
    rw [stores.holds.head] at member
    exact stores.mem_heap.mpr
      ((DoublyLinked.firstOf_mem member).resolve_right (not_mem_none _))
  case tail =>
    intro address member
    rw [stores.holds.tail] at member
    exact stores.mem_heap.mpr
      ((DoublyLinked.lastOf_mem member).resolve_right (not_mem_none _))
  case prev => exact fun _ _ found address member =>
    stores.mem_heap.mpr ((linked found).1 address member)
  case next => exact fun _ _ found address member =>
    stores.mem_heap.mpr ((linked found).2 address member)
  case map =>
    intro item listed
    obtain ⟨cell, cellListed, rfl⟩ := stores.indexed.mem_items.mp listed
    have member := stores.mem_heap.mpr (mem_map_of_mem cellListed)
    exact ⟨member, member⟩

theorem findItem_cons {item node} (found : heap.lookup item.1 = some node) :
    findItem heap key (item :: items) =
      if node.payload.1 = key then some (some item) else findItem heap key items := by
  rw [findItem, found]
  rfl

theorem Indexed.findItem_hit (indexed : Indexed map heap cells) (listed : cell ∈ cells)
    (subset : items ⊆ map) (present : (cell.1, cell.1) ∈ items) :
    findItem heap cell.2.1 items = some (some (cell.1, cell.1)) := by
  induction items with
  | nil => cases present
  | cons item items ih =>
    have ⟨other, otherListed, same⟩ := indexed.mem_items.mp (subset mem_cons_self)
    subst same
    have ⟨node, found, payload⟩ := indexed.payloads other otherListed
    rw [findItem_cons found, payload]
    split
    next sameKey =>
      rw [inj_on_of_nodup_map indexed.keys otherListed listed sameKey]
    next different =>
      apply ih (List.Subset.trans (subset_cons_self ..) subset)
      rcases mem_cons.mp present with here | later
      · have sameAddress : other.1 = cell.1 := (Prod.mk.inj here).1.symm
        rw [inj_on_of_nodup_map indexed.addresses otherListed listed sameAddress]
          at different
        exact absurd rfl different
      · exact later

theorem Indexed.findItem_miss (indexed : Indexed map heap cells)
    (absent : ∀ cell ∈ cells, cell.2.1 ≠ key) (subset : items ⊆ map) :
    findItem heap key items = some none := by
  induction items with
  | nil => rfl
  | cons item items ih =>
    have ⟨other, otherListed, same⟩ := indexed.mem_items.mp (subset mem_cons_self)
    subst same
    have ⟨node, found, payload⟩ := indexed.payloads other otherListed
    rw [findItem_cons found, payload, if_neg (absent other otherListed)]
    exact ih (List.Subset.trans (subset_cons_self ..) subset)

section

variable (indexed : Indexed cache.map cache.list.heap cells)
include indexed

theorem Indexed.find_hit
    (listed : cell ∈ cells) : cache.find cell.2.1 = some (some (cell.1, cell.1)) :=
  indexed.findItem_hit listed (List.Subset.refl _) (indexed.mem_items.mpr ⟨cell, listed, rfl⟩)

theorem Indexed.find_miss (absent : ∀ cell ∈ cells, cell.2.1 ≠ key) : cache.find key = some none :=
  indexed.findItem_miss absent (List.Subset.refl _)

theorem Indexed.remove_hit (listed : cell ∈ cells) :
    cache.remove cell.2.1 =
      some (some cell.1, { cache with map := cache.map.erase (cell.1, cell.1) }) := by
  rw [remove, indexed.find_hit listed]
  rfl

end

theorem cell_or_absent (cells : List (Nat × Key × Value)) (key : Key) :
    (∃ left address value right, cells = left ++ (address, key, value) :: right) ∨
      ∀ cell ∈ cells, cell.2.1 ≠ key := by
  by_cases present : ∃ cell ∈ cells, cell.2.1 = key
  · obtain ⟨⟨address, _, value⟩, listed, rfl⟩ := present
    obtain ⟨left, right, split⟩ := append_of_mem listed
    exact .inl ⟨left, address, value, right, split⟩
  · push Not at present
    exact .inr present

end Index

section Steps

variable {cache : LinkedCache Key Value} {cells left right : List (Nat × Key × Value)}
  {cell : Nat × Key × Value} {list : DoublyLinked (Key × Value)} {key : Key} {value : Value}

omit [DecidableEq Key] in
theorem Stores.rearranged (stores : cache.Stores cells) {after} (holds : list.Holds after)
    (frame : cache.list.Frames list cells) (addresses : (after.map (·.1)).Perm (cells.map (·.1)))
    (keys : (after.map (·.2.1)).Perm (cells.map (·.2.1))) :
    Stores { cache with list } after where
  holds := holds
  items := stores.items.trans (addresses.symm.map _)
  keys := keys.nodup_iff.mpr stores.keys
  freed address outside := by
    have away : address ∉ cells.map (·.1) := fun listed => outside (addresses.mem_iff.mpr listed)
    exact (frame address away).trans (stores.freed address away)
  bounded := by
    have length := addresses.length_eq
    rw [length_map, length_map] at length
    exact length ▸ stores.bounded

omit [DecidableEq Key] in
theorem Stores.promoted (stores : cache.Stores (left ++ cell :: right)) :
    ∃ list, cache.list.promote cell.1 = some list ∧
      Stores { cache with list } (cell :: (left ++ right)) := by
  obtain ⟨list, promoted, holds, frame⟩ := DoublyLinked.promote_spec stores.holds
  exact ⟨list, promoted, stores.rearranged holds frame (perm_middle.symm.map _)
    (perm_middle.symm.map _)⟩

omit [DecidableEq Key] in
theorem Stores.removed (stores : cache.Stores (left ++ cell :: right))
    (holds : list.Holds (left ++ right)) (frame : cache.list.Frames list (left ++ cell :: right)) :
    Stores { cache with
      map := cache.map.erase (cell.1, cell.1)
      list := { list with heap := list.heap.erase cell.1 } } (left ++ right) := by
  have moved : (left ++ cell :: right).Perm (cell :: (left ++ right)) := perm_middle
  have nodup := (moved.map (·.1)).nodup_iff.mp stores.holds.nodup
  rw [map_cons, nodup_cons] at nodup
  refine ⟨holds.frame ?_, ?_, ?_, ?_, ?_⟩
  · intro address listed
    refine (Table.lookup_erase_eq ..).trans (if_neg ?_)
    rintro rfl
    exact nodup.1 listed
  · have items := (stores.items.trans ((moved.map _).map _)).erase (cell.1, cell.1)
    rwa [map_cons, map_cons, erase_cons_head] at items
  · exact (nodup_cons.mp ((moved.map (·.2.1)).nodup_iff.mp stores.keys)).2
  · intro address outside
    refine (Table.lookup_erase_eq ..).trans ?_
    split
    next => rfl
    next different =>
      have away : address ∉ (left ++ cell :: right).map (·.1) := by
        rw [(moved.map _).mem_iff, map_cons, mem_cons, not_or]
        exact ⟨different, outside⟩
      exact (frame address away).trans (stores.freed address away)
  · have bounded := stores.bounded
    rw [moved.length_eq, length_cons] at bounded
    exact Nat.le_of_succ_le bounded

theorem Stores.pop_hit (stores : cache.Stores (left ++ cell :: right)) :
    ∃ after, cache.pop cell.2.1 = some (some cell.2, after) ∧
      after.Stores (left ++ right) ∧ after.capacity = cache.capacity := by
  obtain ⟨list, detached, holds, found, frame⟩ := DoublyLinked.detach_spec stores.holds
  refine ⟨_, ?_, stores.removed holds frame, rfl⟩
  rw [pop, stores.indexed.remove_hit (mem_append_cons_self ..), bind_some]
  simp only [detached, bind_some, DoublyLinked.take_of_lookup found, map_some]

/-- The entry at the tail goes; its key is read from it while it is in the heap. -/
theorem Stores.removeTail_spec (stores : cache.Stores (cells ++ [cell])) :
    ∃ after, cache.removeTail cell.1 = some (some cell.2, after) ∧
      after.Stores cells ∧ after.capacity = cache.capacity := by
  obtain ⟨list, detached, holds, found, frame⟩ := DoublyLinked.detach_spec stores.holds
  rw [append_nil] at holds
  have indexed : Indexed cache.map list.heap (cells ++ [cell]) :=
    ⟨stores.items, ?_, stores.holds.nodup, stores.keys⟩
  · have removed : remove { cache with list } cell.2.1 = some (some cell.1,
        { cache with map := cache.map.erase (cell.1, cell.1), list }) :=
      indexed.remove_hit (mem_append_cons_self ..)
    have kept := stores.removed ((append_nil cells).symm ▸ holds) frame
    rw [append_nil] at kept
    refine ⟨_, ?_, kept, rfl⟩
    rw [removeTail, detached, bind_some, found, bind_some, removed, bind_some]
    simp only [DoublyLinked.take_of_lookup found, map_some]
  · intro other listed
    rcases mem_append.mp listed with before | last
    · exact holds.linked.lookup before
    · cases mem_singleton.mp last
      exact ⟨_, found, rfl⟩

omit [DecidableEq Key] in
theorem Stores.length_map (stores : cache.Stores cells) : cache.map.length = cells.length := by
  rw [stores.items.length_eq, List.length_map, List.length_map]

omit [DecidableEq Key] in
theorem Stores.tail_append (stores : cache.Stores (cells ++ [cell])) :
    cache.list.tail = some cell.1 := by
  rw [stores.holds.tail, DoublyLinked.lastOf_append]
  rfl

/-- What the eviction leaves has room, unless the cache is for no entry at all. -/
theorem Stores.evict_spec (stores : cache.Stores cells) (positive : 1 ≤ cache.capacity) :
    ∃ after kept, cache.evict =
        some (if cache.capacity ≤ cells.length then cells.getLast?.map (·.2.2) else none, after) ∧
      kept = (if cache.capacity ≤ cells.length then cells.dropLast else cells) ∧
      after.Stores kept ∧ after.capacity = cache.capacity ∧ kept.length < cache.capacity := by
  by_cases full : cache.capacity ≤ cells.length
  · rcases eq_nil_or_concat' cells with rfl | ⟨before, cell, rfl⟩
    · exact absurd (Nat.le_trans positive full) (by simp)
    · obtain ⟨after, removed, kept, capacity⟩ := stores.removeTail_spec
      have bounded := stores.bounded
      rw [length_append, length_singleton] at bounded
      refine ⟨after, before, ?_, ?_, kept, capacity, bounded⟩
      · rw [evict, stores.length_map, if_pos full, if_pos full, stores.tail_append]
        simp [removed]
      · rw [if_pos full, dropLast_concat]
  · refine ⟨cache, cells, ?_, (if_neg full).symm, stores, rfl, Nat.not_le.mp full⟩
    rw [evict, stores.length_map, if_neg full, if_neg full]

theorem Stores.admitted (stores : cache.Stores cells) (room : cells.length < cache.capacity)
    (absent : ∀ cell ∈ cells, cell.2.1 ≠ key) {box} (unused : box ∉ cache.list.heap)
    (value : Value) :
    ∃ list after, (cache.list.allocate box (key, value)).attach box = some list ∧
      insert { cache with list } box box = some after ∧
      after.Stores ((box, key, value) :: cells) ∧ after.capacity = cache.capacity := by
  have outside : box ∉ cells.map (·.1) := stores.mem_heap.not.mp unused
  have allocated : (cache.list.allocate box (key, value)).Holds cells := by
    refine stores.holds.frame fun address listed =>
      (Table.lookup_insert_eq ..).trans (if_neg ?_)
    rintro rfl
    exact outside listed
  obtain ⟨list, attached, holds, frame⟩ := DoublyLinked.attach_spec allocated
    ((Table.lookup_insert_eq ..).trans (if_pos rfl)) outside
  have indexed : Indexed cache.map list.heap cells :=
    ⟨stores.items, fun _ listed => holds.linked.lookup (mem_cons_of_mem _ listed),
      stores.holds.nodup, stores.keys⟩
  have missing : find { cache with list } key = some none := indexed.find_miss absent
  refine ⟨list, { cache with map := (box, box) :: cache.map, list }, attached, ?_, ?_, rfl⟩
  · rw [insert, holds.linked.1, bind_some, missing]
    rfl
  · refine ⟨holds, stores.items.cons _, nodup_cons.mpr ⟨?_, stores.keys⟩, ?_, room⟩
    · intro listed
      obtain ⟨cell, listed, same⟩ := mem_map.mp listed
      exact absent cell listed same
    · intro address away
      have ⟨different, other⟩ := not_or.mp (mem_cons.not.mp away)
      exact (frame address away).trans ((Table.lookup_insert_eq ..).trans
        ((if_neg different).trans (stores.freed address other)))

theorem Stores.put_hit {address old} (stores : cache.Stores (left ++ (address, key, old) :: right))
    (allocator : DoublyLinked.Allocator (Key × Value)) (value : Value) :
    ∃ after, cache.put allocator key value = some (some old, after) ∧
      after.Stores ((address, key, value) :: (left ++ right)) ∧
      after.capacity = cache.capacity := by
  have found := (DoublyLinked.linked_append.mp stores.holds.linked).2.1
  obtain ⟨swapped, written, holds, frame⟩ := DoublyLinked.setPayload_spec stores.holds (key, value)
  have kept : Stores { cache with list := swapped } (left ++ (address, key, value) :: right) :=
    stores.rearranged holds frame (by simp) (by simp)
  obtain ⟨list, promoted, front⟩ := kept.promoted
  refine ⟨{ cache with list }, ?_, front, rfl⟩
  rw [put, stores.indexed.find_hit (mem_append_cons_self ..), bind_some]
  simp only [found, bind_some, written, promoted, map_some]

theorem Stores.put_miss (stores : cache.Stores cells) (positive : 1 ≤ cache.capacity)
    (absent : ∀ cell ∈ cells, cell.2.1 ≠ key)
    (allocator : DoublyLinked.Allocator (Key × Value)) (value : Value) :
    ∃ after box, cache.put allocator key value =
        some (if cache.capacity ≤ cells.length then cells.getLast?.map (·.2.2) else none, after) ∧
      after.Stores ((box, key, value) ::
        if cache.capacity ≤ cells.length then cells.dropLast else cells) ∧
      after.capacity = cache.capacity := by
  obtain ⟨evicted, kept, evicting, keeps, evictedStores, capacity, room⟩ :=
    stores.evict_spec positive
  have keptAbsent : ∀ cell ∈ kept, cell.2.1 ≠ key := by
    intro cell listed
    rw [keeps] at listed
    split at listed
    next => exact absent cell (dropLast_subset _ listed)
    next => exact absent cell listed
  obtain ⟨list, after, attached, inserted, afterStores, same⟩ :=
    evictedStores.admitted (capacity ▸ room) keptAbsent (allocator.unused evicted.list.heap) value
  refine ⟨after, allocator.address evicted.list.heap, ?_, keeps ▸ afterStores, same.trans capacity⟩
  rw [put, stores.indexed.find_miss absent, bind_some, evicting]
  simp only [bind_some, attached, inserted, map_some]

end Steps

def view (capacity : Nat) (cells : List (Nat × Key × Value)) : LruCache Key Value :=
  ⟨capacity, cells.map (·.2)⟩

def Represents (cache : LinkedCache Key Value) (entries : LruCache Key Value) : Prop :=
  ∃ cells, cache.Stores cells ∧ entries = view cache.capacity cells

def answer (cache : LinkedCache Key Value) (allocator : DoublyLinked.Allocator (Key × Value)) :
    Call Key Value → Option (Reply Key Value × LinkedCache Key Value)
  | .get key => (cache.get key).map fun reply => (.value reply.1, reply.2)
  | .put key value => (cache.put allocator key value).map fun reply => (.value reply.1, reply.2)
  | .peek key => (cache.peek key).map fun reply => (.value reply, cache)
  | .contains key => (cache.contains key).map fun reply => (.found reply, cache)
  | .popLru => cache.popLru.map fun reply => (.entry reply.1, reply.2)
  | .pop key => (cache.pop key).map fun reply => (.entry reply.1, reply.2)

def answers : LinkedCache Key Value →
    List (Call Key Value × DoublyLinked.Allocator (Key × Value)) →
    Option (List (Reply Key Value) × LinkedCache Key Value)
  | cache, [] => some ([], cache)
  | cache, (call, allocator) :: calls =>
    (cache.answer allocator call).bind fun reply =>
      (reply.2.answers calls).map fun replies => (reply.1 :: replies.1, replies.2)

section Refinement

variable {cache : LinkedCache Key Value} {cells left right : List (Nat × Key × Value)}
  {address : Nat} {key : Key} {value : Value}

theorem Stores.find_view (stores : cache.Stores (left ++ (address, key, value) :: right)) :
    ((left ++ (address, key, value) :: right).map (·.2)).find? (·.1 = key) = some (key, value) := by
  have keys := stores.keys
  rw [← Function.comp_def Prod.fst Prod.snd, ← List.map_map] at keys
  rw [List.map_append, List.map_cons] at keys ⊢
  exact find_append_cons keys

theorem Stores.filter_view (stores : cache.Stores (left ++ (address, key, value) :: right)) :
    ((left ++ (address, key, value) :: right).map (·.2)).filter (·.1 ≠ key) =
      (left ++ right).map (·.2) := by
  have keys := stores.keys
  rw [← Function.comp_def Prod.fst Prod.snd, ← List.map_map] at keys
  rw [List.map_append, List.map_cons] at keys ⊢
  rw [filter_append_cons keys, List.map_append]

omit [DecidableEq Key] in
theorem absent_view (absent : ∀ cell ∈ cells, cell.2.1 ≠ key) :
    ∀ entry ∈ cells.map (·.2), entry.1 ≠ key := by
  intro entry viewed
  obtain ⟨cell, listed, rfl⟩ := mem_map.mp viewed
  exact absent cell listed

theorem Stores.peek_view (stores : cache.Stores (left ++ (address, key, value) :: right))
    (capacity : Nat) :
    (view capacity (left ++ (address, key, value) :: right)).peek key = some value := by
  rw [LruCache.peek, view, stores.find_view]
  rfl

theorem peek_view_absent (absent : ∀ cell ∈ cells, cell.2.1 ≠ key) (capacity : Nat) :
    (view capacity cells).peek key = none := by
  rw [LruCache.peek, view, LruCache.find_absent (absent_view absent)]
  rfl

omit [DecidableEq Key] in
theorem Stores.view_represents (stores : cache.Stores cells) :
    cache.Represents (view cache.capacity cells) := ⟨cells, stores, rfl⟩

theorem get_spec (stores : cache.Stores cells) (key : Key) :
    ∃ after, cache.get key = some (((view cache.capacity cells).get key).1, after) ∧
      after.Represents ((view cache.capacity cells).get key).2 := by
  rcases cell_or_absent cells key with ⟨left, address, value, right, rfl⟩ | absent
  · obtain ⟨list, promoted, front⟩ := stores.promoted
    have found := front.holds.linked.1
    refine ⟨{ cache with list }, ?_, _, front, ?_⟩
    · rw [LruCache.get, stores.peek_view, get,
        stores.indexed.find_hit (mem_append_cons_self ..), bind_some]
      simp only [promoted, bind_some, found, map_some]
    · rw [LruCache.get, stores.peek_view, view, view, stores.filter_view]
      rfl
  · refine ⟨cache, ?_, cells, stores, ?_⟩
    · rw [LruCache.get, peek_view_absent absent, get, stores.indexed.find_miss absent]
      rfl
    · rw [LruCache.get, peek_view_absent absent]

theorem put_spec (stores : cache.Stores cells) (positive : 1 ≤ cache.capacity)
    (allocator : DoublyLinked.Allocator (Key × Value)) (key : Key) (value : Value) :
    ∃ after, cache.put allocator key value =
        some (((view cache.capacity cells).put key value).1, after) ∧
      after.Represents ((view cache.capacity cells).put key value).2 := by
  rcases cell_or_absent cells key with ⟨left, address, old, right, rfl⟩ | absent
  · obtain ⟨after, written, front, capacity⟩ := stores.put_hit allocator value
    refine ⟨after, ?_, _, front, ?_⟩
    · rw [LruCache.put, stores.peek_view, written]
    · rw [LruCache.put, stores.peek_view, view, view, stores.filter_view, capacity]
      rfl
  · obtain ⟨after, box, written, front, capacity⟩ := stores.put_miss positive absent allocator value
    rw [LruCache.put, peek_view_absent absent]
    refine ⟨after, ?_, _, front, ?_⟩
    · rw [written]
      by_cases full : cache.capacity ≤ cells.length <;> simp [view, full, Function.comp_def]
    · by_cases full : cache.capacity ≤ cells.length <;> simp [view, full, capacity]

theorem peek_spec (stores : cache.Stores cells) (key : Key) :
    cache.peek key = some ((view cache.capacity cells).peek key) := by
  rcases cell_or_absent cells key with ⟨left, address, value, right, rfl⟩ | absent
  · have found := (DoublyLinked.linked_append.mp stores.holds.linked).2.1
    rw [stores.peek_view, peek, stores.indexed.find_hit (mem_append_cons_self ..), bind_some]
    simp only [found, map_some]
  · rw [peek_view_absent absent, peek, stores.indexed.find_miss absent]
    rfl

theorem contains_spec (stores : cache.Stores cells) (key : Key) :
    cache.contains key = some ((view cache.capacity cells).contains key) := by
  rcases cell_or_absent cells key with ⟨left, address, value, right, rfl⟩ | absent
  · rw [LruCache.contains, stores.peek_view, contains,
      stores.indexed.find_hit (mem_append_cons_self ..)]
    rfl
  · rw [LruCache.contains, peek_view_absent absent, contains, stores.indexed.find_miss absent]
    rfl

theorem popLru_spec (stores : cache.Stores cells) :
    ∃ after, cache.popLru = some ((view cache.capacity cells).popLru.1, after) ∧
      after.Represents (view cache.capacity cells).popLru.2 := by
  rcases eq_nil_or_concat' cells with rfl | ⟨before, cell, rfl⟩
  · have empty : cache.map = [] := length_eq_zero_iff.mp stores.length_map
    exact ⟨cache, by rw [popLru, empty]; rfl, [], stores, rfl⟩
  · obtain ⟨after, removed, kept, capacity⟩ := stores.removeTail_spec
    have occupied : cache.map.isEmpty = false := by
      rw [isEmpty_eq_false_iff, ← length_pos_iff, stores.length_map]
      simp
    refine ⟨after, ?_, before, kept, ?_⟩
    · rw [popLru, occupied, stores.tail_append]
      simpa [LruCache.popLru, view] using removed
    · simp [LruCache.popLru, view, capacity]

theorem pop_spec (stores : cache.Stores cells) (key : Key) :
    ∃ after, cache.pop key = some (((view cache.capacity cells).pop key).1, after) ∧
      after.Represents ((view cache.capacity cells).pop key).2 := by
  rcases cell_or_absent cells key with ⟨left, address, value, right, rfl⟩ | absent
  · obtain ⟨after, removed, kept, capacity⟩ := stores.pop_hit
    refine ⟨after, ?_, _, kept, ?_⟩
    · rw [removed, LruCache.pop, view, stores.find_view]
    · rw [LruCache.pop, view, view, stores.filter_view, capacity]
  · refine ⟨cache, ?_, cells, stores, ?_⟩
    · rw [LruCache.pop, view, LruCache.find_absent (absent_view absent), pop, remove,
        stores.indexed.find_miss absent]
      rfl
    · rw [LruCache.pop, view, LruCache.filter_absent (absent_view absent)]

theorem answer_spec {entries} (represents : cache.Represents entries)
    (positive : 1 ≤ cache.capacity) (allocator : DoublyLinked.Allocator (Key × Value))
    (call : Call Key Value) :
    ∃ after, cache.answer allocator call = some ((entries.answer call).1, after) ∧
      after.Represents (entries.answer call).2 := by
  obtain ⟨cells, stores, rfl⟩ := represents
  cases call with
  | get key =>
    obtain ⟨after, answered, kept⟩ := get_spec stores key
    exact ⟨after, by rw [answer, answered]; rfl, kept⟩
  | put key value =>
    obtain ⟨after, answered, kept⟩ := put_spec stores positive allocator key value
    exact ⟨after, by rw [answer, answered]; rfl, kept⟩
  | peek key =>
    exact ⟨cache, by rw [answer, peek_spec stores]; rfl, stores.view_represents⟩
  | contains key =>
    exact ⟨cache, by rw [answer, contains_spec stores]; rfl, stores.view_represents⟩
  | popLru =>
    obtain ⟨after, answered, kept⟩ := popLru_spec stores
    exact ⟨after, by rw [answer, answered]; rfl, kept⟩
  | pop key =>
    obtain ⟨after, answered, kept⟩ := pop_spec stores key
    exact ⟨after, by rw [answer, answered]; rfl, kept⟩

theorem answers_spec {entries} (represents : cache.Represents entries)
    (positive : 1 ≤ entries.capacity)
    (calls : List (Call Key Value × DoublyLinked.Allocator (Key × Value))) :
    ∃ after, cache.answers calls = some ((entries.answers (calls.map (·.1))).1, after) ∧
      after.Represents (entries.answers (calls.map (·.1))).2 := by
  induction calls generalizing cache entries with
  | nil => exact ⟨cache, rfl, represents⟩
  | cons call calls ih =>
    have capacity : 1 ≤ cache.capacity := by
      obtain ⟨cells, -, rfl⟩ := represents
      exact positive
    obtain ⟨first, answered, kept⟩ := answer_spec represents capacity call.2 call.1
    obtain ⟨after, rest, keptRest⟩ := ih kept
      ((answer_capacity entries call.1).symm ▸ positive)
    refine ⟨after, ?_, keptRest⟩
    rw [answers, answered, bind_some, rest]
    rfl

omit [DecidableEq Key] in
theorem represents_new (capacity : Nat) :
    (new capacity : LinkedCache Key Value).Represents (LruCache.new capacity) :=
  ⟨[], ⟨⟨rfl, rfl, trivial, nodup_nil⟩, .refl _, nodup_nil, fun _ _ => rfl, Nat.zero_le _⟩, rfl⟩

/-- The linked cache is the list of its entries by last use, for any calls: it answers all of
them, with the replies of the list, and keeps map, links and boxes about the same entries. -/
theorem answers_new (capacity : Nat) (positive : 1 ≤ capacity)
    (calls : List (LruCache.Call Key Value × DoublyLinked.Allocator (Key × Value))) :
    ∃ after, (new capacity).answers calls =
        some (((LruCache.new capacity).answers (calls.map (·.1))).1, after) ∧
      after.Represents ((LruCache.new capacity).answers (calls.map (·.1))).2 ∧
      after.Live ∧ after.map.length ≤ capacity := by
  obtain ⟨after, answered, represents⟩ := answers_spec (represents_new capacity) positive calls
  have same := LruCache.answers_capacity (LruCache.new capacity) (calls.map (·.1))
  refine ⟨after, answered, represents, ?_⟩
  obtain ⟨cells, stores, view⟩ := represents
  rw [view] at same
  refine ⟨stores.live, ?_⟩
  calc after.map.length = cells.length := stores.length_map
    _ ≤ after.capacity := stores.bounded
    _ = capacity := same

/-- The key in use stays, the other one is evicted. -/
theorem answers_new_of_two :
    1 ≤ 2 ∧ ∃ after : LinkedCache Nat Nat,
      (new 2).answers ([.put 1 10, .put 2 20, .get 1, .put 3 30, .contains 2].map
        fun call => (call, DoublyLinked.Allocator.next _)) =
      some ([.value none, .value none, .value (some 10), .value (some 20), .found false], after) ∧
      after.Represents ⟨2, [(3, 30), (1, 10)]⟩ ∧ after.Live := by
  refine ⟨by decide, ?_⟩
  let calls : List (Call Nat Nat) := [.put 1 10, .put 2 20, .get 1, .put 3 30, .contains 2]
  obtain ⟨after, answered, represents, live, -⟩ := answers_new 2 (by decide)
    (calls.map fun call => (call, DoublyLinked.Allocator.next (Nat × Nat)))
  exact ⟨after, answered, represents, live⟩

end Refinement

end LinkedCache

end DragonflyClient.Storage
