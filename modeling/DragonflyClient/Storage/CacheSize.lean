import DragonflyClient.Storage.Cache
import Mathlib.Algebra.BigOperators.Group.List.Basic

/-!
The size of the memory cache (`cache/mod.rs`).

`put_task` evicts the least recently used tasks until the new one fits and adds its length;
`delete_task` and each eviction subtract the length of what they take out.  A task that is put
again while it is resident replaces the old one, whose length stays in the size.
-/

namespace DragonflyClient.Storage

open Library List UInt64 LruCache
open scoped List

def CachedTask.new (contentLength : UInt64) : CachedTask := ⟨contentLength, ∅⟩

/-- A `fetch_sub` of the size: the size it finds and what it subtracts. -/
structure Subtraction where
  size : UInt64
  amount : UInt64
  deriving DecidableEq, Repr

def Subtraction.Fits (subtraction : Subtraction) : Prop := subtraction.amount ≤ subtraction.size

namespace Cache

/-- The list of tasks is bounded by `usize::MAX` only. -/
def new (capacity : UInt64) : Cache := ⟨0, capacity, LruCache.new (2 ^ 64 - 1)⟩

/-- The loop of `put_task`.  Each round takes a task, so that there are at most as many rounds
as tasks; without a task it breaks. -/
def makeRoom (contentLength : UInt64) : Nat → Cache → List Subtraction × Cache
  | 0, cache => ([], cache)
  | rounds + 1, cache =>
    if cache.capacity < cache.size + contentLength then
      match cache.tasks.popLru with
      | (some (_, task), tasks) =>
        let rest := makeRoom contentLength rounds
          { cache with size := cache.size - task.contentLength, tasks }
        (⟨cache.size, task.contentLength⟩ :: rest.1, rest.2)
      | (none, _) => ([], cache)
    else ([], cache)

def roomFor (cache : Cache) (contentLength : UInt64) : List Subtraction × Cache :=
  makeRoom contentLength cache.tasks.entries.length cache

def putTask (cache : Cache) (taskId : String) (contentLength : UInt64) : List Subtraction × Cache :=
  if contentLength = 0 then ([], cache)
  else if cache.capacity < contentLength then ([], cache)
  else
    let room := cache.roomFor contentLength
    (room.1, { room.2 with
      size := room.2.size + contentLength
      tasks := (room.2.tasks.put taskId (.new contentLength)).2 })

def deleteTask (cache : Cache) (taskId : String) : ClientResult Unit × List Subtraction × Cache :=
  match cache.tasks.pop taskId with
  | (none, _) => (.error (.taskNotFound taskId), [], cache)
  | (some (_, task), tasks) =>
    (.ok (), [⟨cache.size, task.contentLength⟩],
      { cache with size := cache.size - task.contentLength, tasks })

def readPiece (cache : Cache) (taskId : String) : Cache :=
  { cache with tasks := (cache.tasks.get taskId).2 }

end Cache

inductive CacheCall where
  | putTask (taskId : String) (contentLength : UInt64)
  | deleteTask (taskId : String)
  | readPiece (taskId : String)
  | writePiece (taskId pieceId : String) (content : List UInt8)
  deriving DecidableEq, Repr

namespace Cache

def call (cache : Cache) : CacheCall → List Subtraction × Cache
  | .putTask taskId contentLength => cache.putTask taskId contentLength
  | .deleteTask taskId => (cache.deleteTask taskId).2
  | .readPiece taskId => ([], cache.readPiece taskId)
  | .writePiece taskId pieceId content => ([], (cache.writePiece taskId pieceId content).2)

/-- A property of each call of a sequence, in the cache that it finds. -/
def Always (property : Cache → CacheCall → Prop) : Cache → List CacheCall → Prop
  | _, [] => True
  | cache, call :: calls => property cache call ∧ Always property (cache.call call).2 calls

def residentLength (cache : Cache) : Nat :=
  (cache.tasks.entries.map (·.2.contentLength.toNat)).sum

/-- The size is the one of the resident tasks, and within the capacity. -/
structure Exact (cache : Cache) : Prop where
  size : cache.size.toNat = cache.residentLength
  bounded : cache.residentLength ≤ cache.capacity.toNat

/-- The call subtracts no more than there is and leaves an exact size. -/
def Accounts (cache : Cache) (call : CacheCall) : Prop :=
  (∀ subtraction ∈ (cache.call call).1, subtraction.Fits) ∧ (cache.call call).2.Exact

/-- The task that is put is not resident once there is room for it, and the sum with its length
does not overflow. -/
def Careful (cache : Cache) : CacheCall → Prop
  | .putTask taskId contentLength =>
    contentLength = 0 ∨ cache.capacity < contentLength ∨
      (cache.size.toNat + contentLength.toNat < 2 ^ 64 ∧
        (cache.roomFor contentLength).2.tasks.peek taskId = none)
  | _ => True

structure Formed (cache : Cache) : Prop where
  distinct : cache.tasks.Distinct
  positive : ∀ entry ∈ cache.tasks.entries, 0 < entry.2.contentLength.toNat
  unlimited : cache.tasks.capacity = 2 ^ 64 - 1

section Rooms

variable {cache after : Cache} {contentLength : UInt64} {taskId : String}

theorem Formed.of_sublist (formed : cache.Formed)
    (entries : after.tasks.entries.Sublist cache.tasks.entries)
    (capacity : after.tasks.capacity = cache.tasks.capacity) : after.Formed :=
  ⟨formed.distinct.sublist (entries.map _),
    fun entry listed => formed.positive entry (entries.subset listed),
    capacity.trans formed.unlimited⟩

theorem makeRoom_concat {rounds before id task}
    (entries : cache.tasks.entries = before ++ [(id, task)])
    (large : cache.capacity < cache.size + contentLength) :
    makeRoom contentLength (rounds + 1) cache =
      let rest := makeRoom contentLength rounds { cache with
        size := cache.size - task.contentLength
        tasks := { cache.tasks with entries := before } }
      (⟨cache.size, task.contentLength⟩ :: rest.1, rest.2) := by
  rw [makeRoom, if_pos large, popLru, entries, getLast?_concat, dropLast_concat]

theorem makeRoom_small {rounds} (small : ¬cache.capacity < cache.size + contentLength) :
    makeRoom contentLength rounds cache = ([], cache) := by
  cases rounds with
  | zero => rfl
  | succ rounds => rw [makeRoom, if_neg small]

theorem Exact.without (exact : cache.Exact) (tasks : LruCache String CachedTask) {task : CachedTask}
    (entries : cache.tasks.entries.map (·.2.contentLength.toNat) ~
      task.contentLength.toNat :: tasks.entries.map (·.2.contentLength.toNat)) :
    task.contentLength ≤ cache.size ∧
      Exact { cache with size := cache.size - task.contentLength, tasks } := by
  have size := exact.size
  have bounded := exact.bounded
  rw [residentLength, entries.sum_nat, sum_cons] at size bounded
  have fits : task.contentLength ≤ cache.size := by
    rw [le_iff_toNat_le]
    omega
  refine ⟨fits, ?_, ?_⟩
  · rw [UInt64.toNat_sub_of_le _ _ fits, residentLength]
    dsimp only
    omega
  · rw [residentLength]
    dsimp only
    omega

structure Roomy (cache : Cache) (contentLength : UInt64) (room : List Subtraction × Cache) :
    Prop where
  fits : ∀ subtraction ∈ room.1, subtraction.Fits
  exact : room.2.Exact
  formed : room.2.Formed
  capacity : room.2.capacity = cache.capacity
  spare : cache.size.toNat + contentLength.toNat < 2 ^ 64 → contentLength ≤ cache.capacity →
    room.2.size.toNat + contentLength.toNat ≤ cache.capacity.toNat

theorem toNat_add_of_lt {left right : UInt64} (small : left.toNat + right.toNat < 2 ^ 64) :
    (left + right).toNat = left.toNat + right.toNat := by
  rw [UInt64.toNat_add, Nat.mod_eq_of_lt small]

theorem Exact.roomy_small (exact : cache.Exact) (formed : cache.Formed)
    (small : ¬cache.capacity < cache.size + contentLength) :
    Roomy cache contentLength ([], cache) := by
  refine ⟨by simp, exact, formed, rfl, fun noOverflow _ => ?_⟩
  rw [← toNat_add_of_lt noOverflow]
  exact UInt64.le_iff_toNat_le.mp (UInt64.not_lt.mp small)

theorem Exact.makeRoom (exact : cache.Exact) (formed : cache.Formed) {rounds : Nat}
    (enough : rounds = cache.tasks.entries.length) :
    Roomy cache contentLength (makeRoom contentLength rounds cache) := by
  -- each round takes the last entry, and with it its length from the size
  induction rounds generalizing cache with
  | zero =>
    have empty : cache.tasks.entries = [] := length_eq_zero_iff.mp enough.symm
    have size : cache.size.toNat = 0 := by rw [exact.size, residentLength, empty]; rfl
    refine ⟨by simp [Cache.makeRoom], exact, formed, rfl, fun _ within => ?_⟩
    have := le_iff_toNat_le.mp within
    rw [Cache.makeRoom, size]
    omega
  | succ rounds ih =>
    by_cases large : cache.capacity < cache.size + contentLength
    · rcases eq_nil_or_concat' cache.tasks.entries with empty | ⟨before, ⟨id, task⟩, entries⟩
      · rw [empty] at enough
        cases enough
      · have removed : cache.tasks.entries.map (·.2.contentLength.toNat) ~
            task.contentLength.toNat :: before.map (·.2.contentLength.toNat) := by
          rw [entries, map_append]
          exact perm_append_singleton ..
        have ⟨fits, exactAfter⟩ := exact.without { cache.tasks with entries := before } removed
        rw [makeRoom_concat entries large]
        have formedAfter : Formed { cache with
            size := cache.size - task.contentLength
            tasks := { cache.tasks with entries := before } } :=
          formed.of_sublist (entries ▸ sublist_append_left ..) rfl
        rw [entries, length_append, length_singleton] at enough
        have rest := ih exactAfter formedAfter (Nat.succ.inj enough)
        refine ⟨?_, rest.exact, rest.formed, rest.capacity, fun noOverflow within => ?_⟩
        · exact forall_mem_cons.mpr ⟨fits, rest.fits⟩
        · refine rest.spare ?_ within
          have := UInt64.toNat_sub_of_le _ _ fits
          dsimp only
          omega
    · rw [makeRoom_small large]
      exact exact.roomy_small formed large

theorem Formed.length_le (formed : cache.Formed) :
    cache.tasks.entries.length ≤ cache.residentLength := by
  rw [← length_map (·.2.contentLength.toNat)]
  refine length_le_sum_of_one_le _ fun length listed => ?_
  obtain ⟨entry, here, rfl⟩ := mem_map.mp listed
  exact formed.positive entry here

theorem putTask_eq (positive : contentLength ≠ 0) (within : ¬cache.capacity < contentLength) :
    cache.putTask taskId contentLength =
      ((cache.roomFor contentLength).1, { (cache.roomFor contentLength).2 with
        size := (cache.roomFor contentLength).2.size + contentLength
        tasks := ((cache.roomFor contentLength).2.tasks.put taskId (.new contentLength)).2 }) := by
  rw [putTask, if_neg positive, if_neg within]

section

variable (formed : cache.Formed)
include formed

theorem exact_put_iff (exact : cache.Exact) :
    Exact { cache with
      size := cache.size + contentLength
      tasks := (cache.tasks.put taskId (.new contentLength)).2 } ↔
    cache.size.toNat + contentLength.toNat ≤ cache.capacity.toNat ∧
      (cache.tasks.put taskId (.new contentLength)).1 = none := by
  have sum := formed.distinct.sum_put (·.contentLength.toNat) taskId (.new contentLength)
  have size := exact.size
  have bounded := exact.bounded
  have room := cache.capacity.toNat_lt
  rw [residentLength] at size bounded
  constructor
  · rintro ⟨sizeAfter, boundedAfter⟩
    rw [residentLength] at sizeAfter boundedAfter
    rw [UInt64.toNat_add] at sizeAfter
    dsimp only [CachedTask.new] at sum sizeAfter boundedAfter ⊢
    cases returned : (cache.tasks.put taskId ⟨contentLength, ∅⟩).1 with
    | none =>
      rw [returned, Option.elim_none] at sum
      exact ⟨by omega, rfl⟩
    | some lost =>
      obtain ⟨entry, listed, rfl⟩ := mem_of_put returned
      have positive := formed.positive entry listed
      rw [returned, Option.elim_some] at sum
      have := entry.2.contentLength.toNat_lt
      exfalso
      omega
  · rintro ⟨within, kept⟩
    rw [kept, Option.elim_none] at sum
    dsimp only [CachedTask.new] at sum
    refine ⟨?_, ?_⟩
    · rw [toNat_add_of_lt (Nat.lt_of_le_of_lt within room), residentLength]
      dsimp only [CachedTask.new]
      omega
    · rw [residentLength]
      dsimp only [CachedTask.new]
      omega

theorem accounts_putTask_iff (exact : cache.Exact) :
    cache.Accounts (.putTask taskId contentLength) ↔
      cache.Careful (.putTask taskId contentLength) := by
  rw [Accounts, call, Careful]
  by_cases zero : contentLength = 0
  · rw [putTask, if_pos zero]
    exact iff_of_true ⟨by simp, exact⟩ (.inl zero)
  by_cases tooLarge : cache.capacity < contentLength
  · rw [putTask, if_neg zero, if_pos tooLarge]
    exact iff_of_true ⟨by simp, exact⟩ (.inr (.inl tooLarge))
  have roomy : Roomy cache contentLength (cache.roomFor contentLength) := exact.makeRoom formed rfl
  rw [putTask_eq zero tooLarge, exact_put_iff roomy.formed roomy.exact, roomy.capacity,
    or_iff_right zero, or_iff_right tooLarge, and_iff_right roomy.fits]
  have capacity := cache.capacity.toNat_lt
  by_cases overflow : cache.size.toNat + contentLength.toNat < 2 ^ 64
  · have spare := roomy.spare overflow (UInt64.not_lt.mp tooLarge)
    have room : (cache.roomFor contentLength).2.tasks.entries.length <
        (cache.roomFor contentLength).2.tasks.capacity := by
      have length := roomy.formed.length_le
      have size := roomy.exact.size
      have positive : contentLength.toNat ≠ 0 := fun same => zero (UInt64.toNat_inj.mp same)
      rw [roomy.formed.unlimited]
      omega
    rw [and_iff_right spare, and_iff_right overflow, put_fst_eq_none_iff room]
  · -- the sum wraps around, to less than the size: nothing is evicted
    have small : ¬cache.capacity < cache.size + contentLength := by
      have bounded := exact.bounded
      have length := contentLength.toNat_lt
      rw [← exact.size] at bounded
      rw [UInt64.not_lt, UInt64.le_iff_toNat_le, UInt64.toNat_add]
      omega
    rw [roomFor, makeRoom_small small]
    exact iff_of_false (fun both => absurd both.1 (by dsimp only; omega))
      (fun both => overflow both.1)

theorem Formed.makeRoom (rounds : Nat) : (makeRoom contentLength rounds cache).2.Formed := by
  induction rounds generalizing cache with
  | zero => exact formed
  | succ rounds ih =>
    by_cases large : cache.capacity < cache.size + contentLength
    · rcases eq_nil_or_concat' cache.tasks.entries with empty | ⟨before, ⟨id, task⟩, entries⟩
      · rw [Cache.makeRoom, if_pos large, popLru, empty]
        exact formed
      · rw [makeRoom_concat entries large]
        exact ih
          (formed.of_sublist (entries ▸ sublist_append_left ..) rfl)
    · rw [makeRoom_small large]
      exact formed

theorem Formed.putTask : (cache.putTask taskId contentLength).2.Formed := by
  by_cases zero : contentLength = 0
  · rw [Cache.putTask, if_pos zero]
    exact formed
  by_cases tooLarge : cache.capacity < contentLength
  · rw [Cache.putTask, if_neg zero, if_pos tooLarge]
    exact formed
  rw [putTask_eq zero tooLarge]
  have room : (cache.roomFor contentLength).2.Formed := formed.makeRoom _
  refine ⟨room.distinct.put .., fun entry listed => ?_, (put_capacity ..).trans room.unlimited⟩
  rcases mem_put listed with rfl | before
  · exact Nat.pos_of_ne_zero fun same => zero (UInt64.toNat_inj.mp same)
  · exact room.positive entry before

theorem Formed.deleteTask (taskId : String) : (cache.deleteTask taskId).2.2.Formed := by
  rw [Cache.deleteTask]
  split
  next => exact formed
  next popped =>
    rw [pop, Prod.mk.injEq] at popped
    exact formed.of_sublist (popped.2 ▸ filter_sublist) (popped.2 ▸ rfl)

theorem Formed.of_lengths {tasks} (distinct : tasks.Distinct)
    (capacity : tasks.capacity = cache.tasks.capacity)
    (lengths : tasks.entries.map (·.2.contentLength.toNat) ~
      cache.tasks.entries.map (·.2.contentLength.toNat)) :
    Formed { cache with tasks } := by
  refine ⟨distinct, fun entry listed => ?_, capacity.trans formed.unlimited⟩
  obtain ⟨other, listed, same⟩ := mem_map.mp
    (lengths.mem_iff.mp (mem_map_of_mem listed))
  exact same ▸ formed.positive other listed

end

theorem Exact.of_lengths (exact : cache.Exact) {tasks}
    (lengths : tasks.entries.map (·.2.contentLength.toNat) ~
      cache.tasks.entries.map (·.2.contentLength.toNat)) :
    Exact { cache with tasks } := by
  have same : residentLength { cache with tasks } = cache.residentLength := lengths.sum_nat
  exact ⟨exact.size.trans same.symm, same ▸ exact.bounded⟩

theorem tasks_writePiece (formed : cache.Formed) (pieceId : String) (content : List UInt8) :
    ∃ tasks, (cache.writePiece taskId pieceId content).2 = { cache with tasks } ∧
      tasks.Distinct ∧ tasks.capacity = cache.tasks.capacity ∧
      tasks.entries.map (·.2.contentLength.toNat) ~
        cache.tasks.entries.map (·.2.contentLength.toNat) := by
  have touched : (cache.tasks.get taskId).2.Distinct ∧
      (cache.tasks.get taskId).2.capacity = cache.tasks.capacity ∧
      (cache.tasks.get taskId).2.entries.map (·.2.contentLength.toNat) ~
        cache.tasks.entries.map (·.2.contentLength.toNat) :=
    ⟨formed.distinct.of_perm (formed.distinct.get_perm taskId), get_capacity ..,
      (formed.distinct.get_perm taskId).map _⟩
  rw [writePiece]
  split
  next tasks got =>
    rw [got] at touched
    exact ⟨tasks, rfl, touched⟩
  next task tasks got =>
    rw [got] at touched
    split
    next => exact ⟨tasks, rfl, touched⟩
    next =>
      refine ⟨_, rfl, ?_, touched.2.1, ?_⟩
      · rw [LruCache.Distinct, keys_modify]
        exact touched.1
      · refine List.Perm.trans (.of_eq ?_) touched.2.2
        rw [LruCache.modify, map_map]
        refine map_congr_left fun entry _ => ?_
        by_cases same : entry.1 = taskId <;> simp [same, CachedTask.writePiece]

theorem Formed.call (formed : cache.Formed) (call : CacheCall) : (cache.call call).2.Formed := by
  cases call with
  | putTask taskId contentLength => exact formed.putTask
  | deleteTask taskId => exact formed.deleteTask taskId
  | readPiece taskId =>
    exact formed.of_lengths (formed.distinct.of_perm (formed.distinct.get_perm taskId))
      (get_capacity ..) ((formed.distinct.get_perm taskId).map _)
  | writePiece taskId pieceId content =>
    obtain ⟨tasks, written, distinct, capacity, lengths⟩ := tasks_writePiece formed pieceId content
    rw [Cache.call, written]
    exact formed.of_lengths distinct capacity lengths

theorem accounts_deleteTask (formed : cache.Formed) (exact : cache.Exact) :
    cache.Accounts (.deleteTask taskId) := by
  rw [Accounts, Cache.call, Cache.deleteTask]
  split
  next => exact ⟨by simp, exact⟩
  next id task tasks popped =>
    rw [pop, Prod.mk.injEq] at popped
    have peeked : cache.tasks.peek taskId = some task := by rw [peek, popped.1]; rfl
    have removed : cache.tasks.entries.map (·.2.contentLength.toNat) ~
        task.contentLength.toNat :: tasks.entries.map (·.2.contentLength.toNat) := by
      rw [← popped.2]
      exact (formed.distinct.perm_cons peeked).map (·.2.contentLength.toNat)
    obtain ⟨fits, exactAfter⟩ := exact.without tasks removed
    exact ⟨forall_mem_singleton.mpr fits, exactAfter⟩

theorem accounts_iff (formed : cache.Formed) (exact : cache.Exact) (call : CacheCall) :
    cache.Accounts call ↔ cache.Careful call := by
  cases call with
  | putTask taskId contentLength => exact accounts_putTask_iff formed exact
  | deleteTask taskId => exact iff_of_true (accounts_deleteTask formed exact) trivial
  | readPiece taskId =>
    exact iff_of_true
      ⟨by simp [Cache.call], exact.of_lengths ((formed.distinct.get_perm taskId).map _)⟩ trivial
  | writePiece taskId pieceId content =>
    obtain ⟨tasks, written, -, -, lengths⟩ := tasks_writePiece formed pieceId content
    rw [Accounts, Cache.call, written]
    exact iff_of_true ⟨by simp, exact.of_lengths lengths⟩ trivial

theorem always_accounts_iff (formed : cache.Formed) (exact : cache.Exact) (calls : List CacheCall) :
    cache.Always Accounts calls ↔ cache.Always Careful calls := by
  induction calls generalizing cache with
  | nil => exact Iff.rfl
  | cons call calls ih =>
    rw [Always, Always, ← accounts_iff formed exact]
    exact and_congr_right fun accounts => ih (formed.call call) accounts.2

end Rooms

theorem formed_new (capacity : UInt64) : (new capacity).Formed :=
  ⟨nodup_nil, by simp [new, LruCache.new], rfl⟩

theorem exact_new (capacity : UInt64) : (new capacity).Exact := ⟨rfl, Nat.zero_le _⟩

/-- The size of a cache is the length of its tasks, within the capacity and without an underflow,
after every call of a sequence, if and only if every put of it is careful. -/
theorem size_exact_iff (capacity : UInt64) (calls : List CacheCall) :
    (new capacity).Always Accounts calls ↔ (new capacity).Always Careful calls :=
  always_accounts_iff (formed_new capacity) (exact_new capacity) calls

/-- A task that starts twice is counted twice. -/
theorem size_of_task_put_twice :
    ¬(new 12).Always Accounts [.putTask "task" 6, .putTask "task" 6] ∧
      (((new 12).call (.putTask "task" 6)).2.call (.putTask "task" 6)).2.size = 12 ∧
      (((new 12).call (.putTask "task" 6)).2.call (.putTask "task" 6)).2.residentLength = 6 := by
  refine ⟨?_, by decide, by decide⟩
  rintro ⟨-, ⟨-, exact⟩, -⟩
  exact absurd exact.size (by decide)

end Cache

end DragonflyClient.Storage
