import DragonflyClient.Library.Table

/-!
Garbage collection of persistent tasks and persistent cache tasks (`gc/mod.rs`).

A tick treats the two kinds alike, one after the other: it deletes what has outlived its time to
live, and then, if the disk is too full, what `need_evict` allows.  The second pass spares the
records with the `persistent` flag; the first one does not ask for it.
-/

namespace DragonflyClient.Gc

open Library

/-- `metadata::PersistentTask` and `metadata::PersistentCacheTask`, as far as the collection reads
them. -/
structure PersistentRecord where
  id : String
  persistent : Bool
  ttl : Nat
  contentLength : UInt64
  updatedAt : Nat
  createdAt : Nat
  failedAt : Option Nat
  finishedAt : Option Nat
  deriving DecidableEq, Repr

def defaultDownloadTaskTimeout : Nat := 24 * 60 * 60

namespace PersistentRecord

def isExpired (task : PersistentRecord) (now : Nat) : Bool := task.createdAt + task.ttl < now

def needEvict (task : PersistentRecord) (now : Nat) : Bool :=
  !task.persistent && (task.finishedAt.isSome || task.failedAt.isSome ||
    decide (task.createdAt + defaultDownloadTaskTimeout < now))

end PersistentRecord

structure RecordStore where
  records : Table String PersistentRecord
  keyed : ∀ id task, records.lookup id = some task → task.id = id

namespace RecordStore

/-- A delete that succeeds.  One that fails is logged, leaves the record and ends nothing; such
ticks are not modelled. -/
def delete (store : RecordStore) (id : String) : RecordStore where
  records := store.records.erase id
  keyed other task found := by
    rw [Table.lookup_erase_eq] at found
    split at found
    next => cases found
    next => exact store.keyed other task found

/-- `get_persistent_tasks`, `get_persistent_cache_tasks`. -/
def tasks (store : RecordStore) : List PersistentRecord := store.records.entries.map (·.2)

end RecordStore

inductive DiskReading where
  | failed
  | space (available total : UInt64)
  deriving DecidableEq, Repr

structure Policy where
  diskHighThresholdPercent : UInt8
  diskLowThresholdPercent : UInt8

/-- What the passes over one kind read: whether the two reads of the store succeed, the clock at
each of their looks at a record, and the disk. -/
structure Readings where
  snapshot : Bool
  ttlClock : Nat → Nat
  disk : DiskReading
  tasksRead : Bool
  evictClock : Nat → Nat

/-- The loop of `evict_persistent_task_by_ttl` and `evict_persistent_cache_task_by_ttl`. -/
def evictByTtl (clock : Nat → Nat) : Nat → List PersistentRecord → RecordStore → RecordStore
  | _, [], store => store
  | look, task :: tasks, store =>
    if task.isExpired (clock look) then
      evictByTtl clock (look + 1) tasks (store.delete task.id)
    else evictByTtl clock (look + 1) tasks store

/-- The loop of `evict_persistent_task_space` and `evict_persistent_cache_task_space`. -/
def evictSpace (clock : Nat → Nat) (needEvictSpace : UInt64) :
    Nat → UInt64 → List PersistentRecord → RecordStore → RecordStore
  | _, _, [], store => store
  | look, evictedSpace, task :: tasks, store =>
    if needEvictSpace ≤ evictedSpace then store
    else if task.needEvict (clock look) then
      evictSpace clock needEvictSpace (look + 1) (evictedSpace + task.contentLength) tasks
        (store.delete task.id)
    else evictSpace clock needEvictSpace (look + 1) evictedSpace tasks store

def usagePercent (available total : UInt64) : UInt8 := (100 - available * 100 / total).toUInt8

def needEvictSpace (total : UInt64) (usagePercent low : UInt8) : UInt64 :=
  (total.toFloat * ((usagePercent - low).toFloat / 100.0)).toUInt64

/-- `evict_persistent_task_by_disk_usage` and `evict_persistent_cache_task_by_disk_usage`.  The
percentage of no space at all panics, which is the end of the tick. -/
def evictByDiskUsage (policy : Policy) (readings : Readings) (store : RecordStore) :
    Option RecordStore :=
  match readings.disk with
  | .failed => some store
  | .space available total =>
    if total = 0 then none
    else
      let percent := usagePercent available total
      if policy.diskHighThresholdPercent ≤ percent then
        if readings.tasksRead then
          let sorted := store.tasks.mergeSort fun first second =>
            decide (first.updatedAt ≤ second.updatedAt)
          some (evictSpace readings.evictClock
            (needEvictSpace total percent policy.diskLowThresholdPercent) 0 0 sorted store)
        else some store
      else some store

/-- The passes over one kind, and whether the tick goes on after them. -/
def collect (policy : Policy) (readings : Readings) (store : RecordStore) : RecordStore × Bool :=
  let kept :=
    if readings.snapshot then evictByTtl readings.ttlClock 0 store.tasks store else store
  match evictByDiskUsage policy readings kept with
  | some after => (after, true)
  | none => (kept, false)

structure PersistentStores where
  persistentCacheTasks : RecordStore
  persistentTasks : RecordStore

def tick (policy : Policy) (cacheReadings taskReadings : Readings) (stores : PersistentStores) :
    PersistentStores :=
  match collect policy cacheReadings stores.persistentCacheTasks with
  | (persistentCacheTasks, true) =>
    ⟨persistentCacheTasks, (collect policy taskReadings stores.persistentTasks).1⟩
  | (persistentCacheTasks, false) => { stores with persistentCacheTasks }

/-- Every record with the flag is still there. -/
def Survives (store after : RecordStore) : Prop :=
  ∀ id task, store.records.lookup id = some task → task.persistent = true →
    after.records.lookup id = some task

/-- No record with the flag is past its time to live when the first pass looks at it. -/
def Unexpired (readings : Readings) (store : RecordStore) : Prop :=
  readings.snapshot = true → ∀ look (task : PersistentRecord), store.tasks[look]? = some task →
    task.persistent = true → task.isExpired (readings.ttlClock look) = false

/-- The tick does not panic on the disk. -/
def Readings.goesOn (readings : Readings) : Prop :=
  ∀ available, readings.disk ≠ .space available 0

section Passes

variable {clock : Nat → Nat} {look : Nat} {tasks : List PersistentRecord}
  {store after : RecordStore} {id : String} {task : PersistentRecord} {policy : Policy}
  {readings : Readings}

theorem RecordStore.mem_tasks (store : RecordStore) :
    task ∈ store.tasks ↔ store.records.lookup task.id = some task := by
  constructor
  · intro listed
    obtain ⟨⟨id, found⟩, member, rfl⟩ := List.mem_map.mp listed
    have lookup : store.records.lookup id = some found := AList.mem_lookup_iff.mpr member
    rw [store.keyed id found lookup]
    exact lookup
  · intro lookup
    exact List.mem_map.mpr ⟨⟨task.id, task⟩, AList.mem_lookup_iff.mp lookup, rfl⟩

theorem RecordStore.lookup_delete (store : RecordStore) (id other : String) :
    (store.delete id).records.lookup other =
      if other = id then none else store.records.lookup other :=
  Table.lookup_erase_eq ..

theorem lookup_evictByTtl_kept
    (kept : ∀ index (task : PersistentRecord), tasks[index]? = some task → task.id = id →
      task.isExpired (clock (look + index)) = false) :
    (evictByTtl clock look tasks store).records.lookup id = store.records.lookup id := by
  induction tasks generalizing look store with
  | nil => rfl
  | cons first tasks ih =>
    have rest : ∀ index (task : PersistentRecord), tasks[index]? = some task → task.id = id →
        task.isExpired (clock (look + 1 + index)) = false := by
      intro index task found same
      have := kept (index + 1) task found same
      rwa [Nat.add_assoc, Nat.add_comm 1 index]
    rw [evictByTtl]
    split
    next expired =>
      rw [ih rest, RecordStore.lookup_delete, if_neg]
      rintro rfl
      have spared := kept 0 first rfl rfl
      rw [Nat.add_zero, expired] at spared
      cases spared
    next => exact ih rest

theorem lookup_evictByTtl_none (missing : store.records.lookup id = none) :
    (evictByTtl clock look tasks store).records.lookup id = none := by
  induction tasks generalizing look store with
  | nil => exact missing
  | cons first tasks ih =>
    rw [evictByTtl]
    split
    next =>
      apply ih
      rw [RecordStore.lookup_delete, missing, ite_self]
    next => exact ih missing

theorem lookup_evictByTtl_expired {index} (found : tasks[index]? = some task)
    (expired : task.isExpired (clock (look + index)) = true) :
    (evictByTtl clock look tasks store).records.lookup task.id = none := by
  induction tasks generalizing look store index with
  | nil => cases found
  | cons first tasks ih =>
    rw [evictByTtl]
    cases index with
    | zero =>
      cases found
      rw [Nat.add_zero] at expired
      rw [if_pos expired]
      apply lookup_evictByTtl_none
      rw [RecordStore.lookup_delete, if_pos rfl]
    | succ index =>
      rw [← Nat.add_assoc, Nat.add_right_comm] at expired
      split
      next => exact ih found expired
      next => exact ih found expired

theorem lookup_evictSpace_kept {space evicted}
    (kept : ∀ task ∈ tasks, task.id = id → task.persistent = true) :
    (evictSpace clock space look evicted tasks store).records.lookup id =
      store.records.lookup id := by
  induction tasks generalizing look evicted store with
  | nil => rfl
  | cons first tasks ih =>
    rw [List.forall_mem_cons] at kept
    rw [evictSpace]
    split
    next => rfl
    next =>
      split
      next evicts =>
        rw [ih kept.2, RecordStore.lookup_delete, if_neg]
        rintro rfl
        rw [PersistentRecord.needEvict, kept.1 rfl] at evicts
        exact absurd evicts (by simp)
      next => exact ih kept.2

theorem lookup_evictSpace_none {space evicted} (missing : store.records.lookup id = none) :
    (evictSpace clock space look evicted tasks store).records.lookup id = none := by
  induction tasks generalizing look evicted store with
  | nil => exact missing
  | cons first tasks ih =>
    rw [evictSpace]
    split
    next => exact missing
    next =>
      split
      next =>
        apply ih
        rw [RecordStore.lookup_delete, missing, ite_self]
      next => exact ih missing

theorem evictByDiskUsage_spec (passed : evictByDiskUsage policy readings store = some after) :
    (∀ id, store.records.lookup id = none → after.records.lookup id = none) ∧
      Survives store after := by
  have unchanged : (∀ id, store.records.lookup id = none → store.records.lookup id = none) ∧
      Survives store store := ⟨fun _ missing => missing, fun _ _ found _ => found⟩
  rw [evictByDiskUsage] at passed
  split at passed
  next =>
    cases passed
    exact unchanged
  next =>
    split at passed
    next => cases passed
    next =>
      dsimp only at passed
      split at passed
      next =>
        split at passed
        next =>
          cases passed
          refine ⟨fun id missing => lookup_evictSpace_none missing, fun id task found flag => ?_⟩
          rw [lookup_evictSpace_kept, found]
          intro other listed same
          rw [(List.mergeSort_perm ..).mem_iff, RecordStore.mem_tasks, same, found] at listed
          exact Option.some.inj listed ▸ flag
        next =>
          cases passed
          exact unchanged
      next =>
        cases passed
        exact unchanged

theorem evictByDiskUsage_isSome :
    (evictByDiskUsage policy readings store).isSome = true ↔ readings.goesOn := by
  rw [evictByDiskUsage, Readings.goesOn]
  split
  next failed => simp [failed]
  next available total space =>
    rw [space]
    by_cases zero : total = 0
    · simp [zero]
    · simp only [zero, if_false]
      constructor
      · rintro - other ⟨⟩
        exact zero rfl
      · intro
        split
        next => split <;> rfl
        next => rfl

theorem mem_of_look {look : Nat} (found : store.tasks[look]? = some task) :
    store.records.lookup task.id = some task :=
  store.mem_tasks.mp (List.mem_of_getElem? found)

/-- The passes over one kind keep the records with the flag if and only if the first one finds
none of them expired. -/
theorem survives_collect_iff (policy : Policy) (readings : Readings) (store : RecordStore) :
    Survives store (collect policy readings store).1 ↔ Unexpired readings store := by
  -- what the second pass is given, and what it does to it
  have second (kept : RecordStore) : ∃ after,
      after = (match evictByDiskUsage policy readings kept with
        | some after => (after, true)
        | none => (kept, false)).1 ∧
      (∀ id, kept.records.lookup id = none → after.records.lookup id = none) ∧
      Survives kept after := by
    split
    next after passed => exact ⟨after, rfl, evictByDiskUsage_spec passed⟩
    next => exact ⟨kept, rfl, fun _ missing => missing, fun _ _ found _ => found⟩
  rw [collect, Unexpired]
  cases readings.snapshot with
  | false =>
    obtain ⟨after, same, -, survives⟩ := second store
    rw [if_neg (by decide), ← same]
    exact iff_of_true survives fun taken => by cases taken
  | true =>
    obtain ⟨after, same, missing, survives⟩ :=
      second (evictByTtl readings.ttlClock 0 store.tasks store)
    rw [if_pos rfl, ← same]
    constructor
    · intro keeps _ look task found flag
      by_contra expired
      rw [Bool.not_eq_false] at expired
      have gone := missing task.id
        (lookup_evictByTtl_expired found (by rwa [Nat.zero_add]))
      rw [keeps task.id task (mem_of_look found) flag] at gone
      cases gone
    · intro unexpired id task found flag
      apply survives id task _ flag
      rw [lookup_evictByTtl_kept, found]
      intro look other listed sameId
      have here := mem_of_look listed
      rw [sameId, found] at here
      cases here
      rw [Nat.zero_add]
      exact unexpired rfl look task listed flag

theorem collect_snd (policy : Policy) (readings : Readings) (store : RecordStore) :
    (collect policy readings store).2 = true ↔ readings.goesOn := by
  rw [collect, ← evictByDiskUsage_isSome]
  split
  next passed => rw [passed]; simp
  next failed => rw [failed]; simp

end Passes

/-- A tick keeps every record with the `persistent` flag, of either kind, if and only if it finds
none of them past its time to live. -/
theorem persistent_survives_iff (policy : Policy) (cacheReadings taskReadings : Readings)
    (stores : PersistentStores) :
    (Survives stores.persistentCacheTasks
        (tick policy cacheReadings taskReadings stores).persistentCacheTasks ∧
      Survives stores.persistentTasks
        (tick policy cacheReadings taskReadings stores).persistentTasks) ↔
    Unexpired cacheReadings stores.persistentCacheTasks ∧
      (cacheReadings.goesOn → Unexpired taskReadings stores.persistentTasks) := by
  rw [← survives_collect_iff policy cacheReadings,
    ← collect_snd policy cacheReadings stores.persistentCacheTasks, tick]
  split
  next caches passed =>
    rw [passed]
    exact and_congr_right fun _ => (survives_collect_iff ..).trans (by simp)
  next caches stopped =>
    rw [stopped]
    exact and_congr_right fun _ => iff_of_true (fun _ _ found _ => found) (by simp)

def expiring : PersistentRecord :=
  { id := "task", persistent := true, ttl := 5, contentLength := 4, updatedAt := 0
    createdAt := 0, failedAt := none, finishedAt := some 1 }

def expiringStore : RecordStore where
  records := (∅ : Table String PersistentRecord).insert "task" expiring
  keyed id task found := by
    rw [Table.lookup_insert_eq] at found
    split at found
    next same =>
      cases found
      exact same.symm
    next => cases found

def readingsAt (now : Nat) : Readings := ⟨true, fun _ => now, .failed, true, fun _ => now⟩

/-- The flag does not keep a record past its time to live. -/
theorem persistent_expired_deleted :
    expiring.persistent = true ∧
      (tick ⟨80, 60⟩ (readingsAt 10) (readingsAt 10)
        ⟨expiringStore, expiringStore⟩).persistentTasks.records.lookup "task" = none ∧
      (tick ⟨80, 60⟩ (readingsAt 10) (readingsAt 10)
        ⟨expiringStore, expiringStore⟩).persistentCacheTasks.records.lookup "task" = none :=
  ⟨rfl, rfl, rfl⟩

end DragonflyClient.Gc
