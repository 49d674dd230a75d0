import DragonflyClient.Gc.Persistent
import DragonflyClient.Gc.TaskTtl
import DragonflyClient.Library.StableSort

/-!
Eviction of tasks for space (`gc/mod.rs`): `evict_task_space`, `evict_persistent_task_space` and
`evict_persistent_cache_task_space` delete the shortest oldest prefix that frees enough.
-/

namespace DragonflyClient.Gc

open Storage Library List StoredTask

def needEvict (task : StoredTask) (now : Nat) : Bool :=
  task.isFinished || task.isFailed || decide (task.createdAt + defaultDownloadTaskTimeout < now)

/-- The space that the eviction of a task counts at a time, if the task is evicted. -/
def taskSpace (now : Nat) (task : StoredTask) : Option UInt64 :=
  match task.contentLength with
  | some contentLength => if needEvict task now then some contentLength else none
  | none =>
    if task.isFailed then
      if needEvict task now then some 0 else none
    else none

def persistentSpace (now : Nat) (task : PersistentRecord) : Option UInt64 :=
  if task.needEvict now then some task.contentLength else none

section Loop

variable {Record Store : Type} (space : Nat → Record → Option UInt64)
  (delete : Store → Record → Store) (clock : Nat → Nat) (needEvictSpace : UInt64)

def evictLoop : Nat → UInt64 → List Record → Store → Store
  | _, _, [], store => store
  | look, evictedSpace, task :: tasks, store =>
    if needEvictSpace ≤ evictedSpace then store
    else
      match space (clock look) task with
      | some taskSpace => evictLoop (look + 1) (evictedSpace + taskSpace) tasks (delete store task)
      | none => evictLoop (look + 1) evictedSpace tasks store

/-- The tasks that can be evicted when the loop looks at them, with their space. -/
def evictable : Nat → List Record → List (Record × UInt64)
  | _, [] => []
  | look, task :: tasks =>
    match space (clock look) task with
    | some taskSpace => (task, taskSpace) :: evictable (look + 1) tasks
    | none => evictable (look + 1) tasks

def total (tasks : List (Record × UInt64)) : Nat := (tasks.map (·.2.toNat)).sum

theorem total_cons (task : Record × UInt64) (tasks : List (Record × UInt64)) :
    total (task :: tasks) = task.2.toNat + total tasks := sum_cons

structure ShortestPrefix (need : Nat) (tasks chosen : List (Record × UInt64)) : Prop where
  begins : chosen <+: tasks
  enough : need ≤ total chosen ∨ chosen = tasks
  shortest : ∀ shorter, shorter <+: chosen → shorter ≠ chosen → total shorter < need

namespace ShortestPrefix

variable {need : Nat} {tasks chosen : List (Record × UInt64)}

theorem nil (none : need = 0 ∨ tasks = []) : ShortestPrefix need tasks [] where
  begins := nil_prefix
  enough := none.imp (fun zero => zero.trans_le (Nat.zero_le _)) Eq.symm
  shortest _ begins different := absurd (prefix_nil.mp begins) different

theorem cons {task} (some : 0 < need) (rest : ShortestPrefix (need - task.2.toNat) tasks chosen) :
    ShortestPrefix need (task :: tasks) (task :: chosen) where
  begins := (prefix_cons_inj task).mpr rest.begins
  enough := by
    refine rest.enough.imp (fun enough => ?_) (congrArg _)
    rw [total_cons]
    omega
  shortest shorter begins different := by
    cases shorter with
    | nil => exact some
    | cons first shorter =>
      obtain ⟨rfl, within⟩ := cons_prefix_cons.mp begins
      have less := rest.shortest shorter within fun same => different (congrArg _ same)
      rw [total_cons]
      omega

end ShortestPrefix

/-- The loop deletes the shortest prefix for what is still to be freed, one by one; nothing
overflows when all that can be evicted fits. -/
theorem evictLoop_spec {look evictedSpace tasks} (store : Store)
    (fits : evictedSpace.toNat + total (evictable space clock look tasks) < 2 ^ 64) :
    ∃ chosen, ShortestPrefix (needEvictSpace.toNat - evictedSpace.toNat)
        (evictable space clock look tasks) chosen ∧
      evictLoop space delete clock needEvictSpace look evictedSpace tasks store =
        (chosen.map Prod.fst).foldl delete store := by
  induction tasks generalizing look evictedSpace store with
  | nil => exact ⟨[], .nil (.inr rfl), rfl⟩
  | cons task tasks ih =>
    rw [evictLoop]
    split
    next enough =>
      exact ⟨[], .nil (.inl (Nat.sub_eq_zero_of_le enough)), rfl⟩
    next more =>
      rw [UInt64.le_iff_toNat_le] at more
      rw [evictable] at fits ⊢
      cases found : space (clock look) task with
      | none =>
        rw [found] at fits
        exact ih store fits
      | some taskSpace =>
        simp only [found, total_cons, ← Nat.add_assoc] at fits
        have sum : (evictedSpace + taskSpace).toNat = evictedSpace.toNat + taskSpace.toNat := by
          rw [UInt64.toNat_add, Nat.mod_eq_of_lt (by omega)]
        rw [← sum] at fits
        obtain ⟨chosen, shortest, looped⟩ := ih (delete store task) fits
        rw [sum, ← Nat.sub_sub] at shortest
        exact ⟨(task, taskSpace) :: chosen, shortest.cons (by omega), looped⟩

end Loop

def oldestFirst {Record : Type} (updatedAt : Record → Nat) (tasks : List Record) : List Record :=
  tasks.mergeSort fun first second => decide (updatedAt first ≤ updatedAt second)

def evictTaskSpace (clock : Nat → Nat) (needEvictSpace : UInt64) (metadata : Metadata) : Metadata :=
  evictLoop taskSpace (fun metadata task => metadata.deleteTask task.id) clock needEvictSpace 0 0
    (oldestFirst updatedAt metadata.getTasks) metadata

def evictPersistentTaskSpace (clock : Nat → Nat) (needEvictSpace : UInt64) (store : RecordStore) :
    RecordStore :=
  evictSpace clock needEvictSpace 0 0 (oldestFirst PersistentRecord.updatedAt store.tasks) store

def evictPersistentCacheTaskSpace (clock : Nat → Nat) (needEvictSpace : UInt64)
    (store : RecordStore) : RecordStore :=
  evictSpace clock needEvictSpace 0 0 (oldestFirst PersistentRecord.updatedAt store.tasks) store

theorem evictSpace_eq {clock needEvictSpace look evictedSpace tasks store} :
    evictSpace clock needEvictSpace look evictedSpace tasks store =
      evictLoop persistentSpace (fun store task => store.delete task.id) clock needEvictSpace look
        evictedSpace tasks store := by
  induction tasks generalizing look evictedSpace store with
  | nil => rfl
  | cons task tasks ih =>
    rw [evictSpace, evictLoop, persistentSpace]
    by_cases evicted : task.needEvict (clock look) = true <;>
      simp only [evicted, if_true, if_false, Bool.false_eq_true, ih]

/-- What an eviction does to the tasks of a store, which come in the order of the engine. -/
structure EvictsOldest {Record Value : Type} (updatedAt : Record → Nat)
    (space : Nat → Record → Option UInt64) (idOf : Record → String) (clock : Nat → Nat)
    (needEvictSpace : UInt64) (tasks : List Record) (chosen : List (Record × UInt64))
    (before after : String → Option Value) : Prop where
  oldest : StableSort updatedAt tasks (oldestFirst updatedAt tasks)
  shortest : ShortestPrefix needEvictSpace.toNat
    (evictable space clock 0 (oldestFirst updatedAt tasks)) chosen
  deleted : ∀ id, after id = if id ∈ chosen.map (idOf ·.1) then none else before id

section Oldest

variable {Record Store Value : Type} {updatedAt : Record → Nat}
  {space : Nat → Record → Option UInt64} {idOf : Record → String}
  (lookup : Store → String → Option Value) {delete : Store → Record → Store}

theorem lookup_foldl_delete (deletes : ∀ store task id, lookup (delete store task) id =
      if id = idOf task then none else lookup store id)
    (tasks : List Record) (store : Store) (id : String) :
    lookup (tasks.foldl delete store) id =
      if id ∈ tasks.map idOf then none else lookup store id := by
  induction tasks generalizing store with
  | nil => rfl
  | cons task tasks ih =>
    rw [foldl_cons, ih, deletes]
    by_cases same : id = idOf task <;> simp [same]

theorem evictsOldest_evictLoop (deletes : ∀ store task id, lookup (delete store task) id =
      if id = idOf task then none else lookup store id) {clock} {disk : UInt64} {tasks}
    (fits : total (evictable space clock 0 (oldestFirst updatedAt tasks)) ≤ disk.toNat)
    (needEvictSpace : UInt64) (store : Store) :
    ∃ chosen, EvictsOldest updatedAt space idOf clock needEvictSpace tasks chosen (lookup store)
      (lookup (evictLoop space delete clock needEvictSpace 0 0 (oldestFirst updatedAt tasks)
        store)) ∧ total chosen ≤ disk.toNat := by
  have small : (0 : UInt64).toNat +
      total (evictable space clock 0 (oldestFirst updatedAt tasks)) < 2 ^ 64 :=
    (Nat.zero_add _).trans_lt (fits.trans_lt disk.toNat_lt)
  obtain ⟨chosen, shortest, looped⟩ := evictLoop_spec space delete clock needEvictSpace store small
  refine ⟨chosen, ⟨stableSort_mergeSort updatedAt tasks, shortest, fun id => ?_⟩, ?_⟩
  · rw [looped, lookup_foldl_delete lookup deletes, map_map]
    rfl
  · obtain ⟨rest, same⟩ := shortest.begins
    rw [← same, total, map_append, sum_append] at fits
    exact (Nat.le_add_right _ _).trans fits

end Oldest

/-- Each of the three evictions deletes, of the tasks that can be evicted when it looks at them, the
shortest prefix in the order of their last update that frees enough space, or all of them, and no
other task; for sizes within the disk no sum overflows. -/
theorem space_eviction_shortest_oldest (clock : Nat → Nat) (needEvictSpace disk : UInt64) :
    (∀ metadata : Metadata,
      total (evictable taskSpace clock 0 (oldestFirst updatedAt metadata.getTasks)) ≤
        disk.toNat →
      ∃ chosen, EvictsOldest updatedAt taskSpace id clock needEvictSpace
        metadata.getTasks chosen (metadata.records.lookup ·)
        ((evictTaskSpace clock needEvictSpace metadata).records.lookup ·) ∧
        total chosen ≤ disk.toNat) ∧
    ∀ store : RecordStore,
      total (evictable persistentSpace clock 0
        (oldestFirst PersistentRecord.updatedAt store.tasks)) ≤ disk.toNat →
      ∃ chosen, EvictsOldest PersistentRecord.updatedAt persistentSpace PersistentRecord.id clock
        needEvictSpace store.tasks chosen (store.records.lookup ·)
        ((evictPersistentTaskSpace clock needEvictSpace store).records.lookup ·) ∧
        EvictsOldest PersistentRecord.updatedAt persistentSpace PersistentRecord.id clock
        needEvictSpace store.tasks chosen (store.records.lookup ·)
        ((evictPersistentCacheTaskSpace clock needEvictSpace store).records.lookup ·) ∧
        total chosen ≤ disk.toNat := by
  refine ⟨fun metadata fits => ?_, fun store fits => ?_⟩
  · refine evictsOldest_evictLoop (fun (metadata : Metadata) id => metadata.records.lookup id) ?_
      fits needEvictSpace metadata
    intro metadata task id
    exact Table.lookup_erase_eq metadata.records task.id id
  · obtain ⟨chosen, evicts, within⟩ := evictsOldest_evictLoop
      (fun (store : RecordStore) id => store.records.lookup id)
      (fun store task => store.lookup_delete task.id) fits needEvictSpace store
    rw [← evictSpace_eq] at evicts
    exact ⟨chosen, evicts, evicts, within⟩

/-- Four tasks in a disk of 100 bytes, 15 of which are to be freed: the younger one is passed over,
and the last is kept since two were enough. -/
theorem space_eviction_shortest_oldest_timed_out :
    let task := (downloadTaskStarted · none 4 10 ∅)
    let metadata : Metadata :=
      ⟨AList.insert "d" (task "d" 3 0) (AList.insert "a" (task "a" 2 0)
        (AList.insert "c" (task "c" 1 1) (AList.insert "b" (task "b" 0 0) ∅))), ∅⟩
    let clock := fun _ : Nat => defaultDownloadTaskTimeout + 1
    (evictable taskSpace clock 0 (oldestFirst updatedAt metadata.getTasks)).map (·.1.id) =
        ["b", "a", "d"] ∧
      ["a", "b", "c", "d"].filter
        (fun id => ((evictTaskSpace clock 15 metadata).records.lookup id).isSome) = ["c", "d"] ∧
      ∃ chosen, EvictsOldest updatedAt taskSpace id clock 15
        metadata.getTasks chosen (metadata.records.lookup ·)
        ((evictTaskSpace clock 15 metadata).records.lookup ·) := by
  intro task metadata clock
  have sorted : oldestFirst updatedAt metadata.getTasks =
      [task "b" 0 0, task "c" 1 1, task "a" 2 0, task "d" 3 0] := by
    have listed : metadata.getTasks =
        [task "d" 3 0, task "a" 2 0, task "c" 1 1, task "b" 0 0] := rfl
    rw [listed]
    simp [oldestFirst, task, mergeSort, downloadTaskStarted]
  have fits : total (evictable taskSpace clock 0
      (oldestFirst updatedAt metadata.getTasks)) ≤ (100 : UInt64).toNat := by
    rw [sorted]
    decide +kernel
  obtain ⟨chosen, evicts, -⟩ := (space_eviction_shortest_oldest clock 15 100).1 metadata fits
  refine ⟨?_, ?_, chosen, evicts⟩
  · rw [sorted]
    decide +kernel
  · rw [evictTaskSpace, sorted]
    decide +kernel

end DragonflyClient.Gc
