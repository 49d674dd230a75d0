import DragonflyClient.Library.ReadModifyWrite
import DragonflyClient.Library.Table
import DragonflyClient.Storage.TaskRecord

/-!
The transitions of a task record and of a cache task record (`metadata.rs`), when several run at
once.

Each of them gets the whole record from the store and puts the whole record back, with nothing
in between that keeps others away: a put over a record that has changed since the get takes the
change back.
-/

namespace DragonflyClient.Storage

open Library List

/-- `metadata::Task` with the fields that a download alone does not read. -/
structure StoredTask extends TaskRecord where
  id : String
  responseHeader : Table String String
  uploadingCount : Int
  uploadedCount : Nat
  updatedAt : Nat
  createdAt : Nat

namespace StoredTask

def downloadTaskStarted (id : String) (stored : Option StoredTask)
    (pieceLength contentLength : UInt64) (responseHeader : Table String String)
    (updatedAt createdAt : Nat) : StoredTask :=
  match stored with
  | some task =>
    { task with
      updatedAt
      failedAt := none
      contentLength := some contentLength
      pieceLength := some pieceLength
      responseHeader }
  | none =>
    { TaskRecord.new with
      id
      pieceLength := some pieceLength
      contentLength := some contentLength
      responseHeader
      uploadingCount := 0
      uploadedCount := 0
      updatedAt
      createdAt }

/-- A transition of a record that has to be there. -/
def update (id : String) (stored : Option StoredTask)
    (change : StoredTask → ClientResult StoredTask) : ClientResult StoredTask :=
  match stored with
  | some task => change task
  | none => .error (.taskNotFound id)

def downloadTaskFinished (id : String) (stored : Option StoredTask)
    (updatedAt finishedAt : Nat) : ClientResult StoredTask :=
  update id stored fun task =>
    .ok { task with updatedAt, failedAt := none, finishedAt := some finishedAt }

def downloadTaskFailed (id : String) (stored : Option StoredTask) (updatedAt failedAt : Nat) :
    ClientResult StoredTask :=
  update id stored fun task => .ok { task with updatedAt, failedAt := some failedAt }

def prefetchTaskStarted (id : String) (stored : Option StoredTask)
    (updatedAt prefetchedAt : Nat) : ClientResult StoredTask :=
  update id stored fun task =>
    if task.isPrefetched then .error (.invalidState "prefetched")
    else .ok { task with updatedAt, prefetchedAt := some prefetchedAt, failedAt := none }

def prefetchTaskFailed (id : String) (stored : Option StoredTask) (updatedAt failedAt : Nat) :
    ClientResult StoredTask :=
  update id stored fun task =>
    .ok { task with updatedAt, prefetchedAt := none, failedAt := some failedAt }

end StoredTask

inductive TaskTransition where
  | downloadTaskStarted (pieceLength contentLength : UInt64)
      (responseHeader : Table String String) (updatedAt createdAt : Nat)
  | downloadTaskFinished (updatedAt finishedAt : Nat)
  | downloadTaskFailed (updatedAt failedAt : Nat)
  | prefetchTaskStarted (updatedAt prefetchedAt : Nat)
  | prefetchTaskFailed (updatedAt failedAt : Nat)

open TaskTransition

namespace TaskTransition

def change (id : String) (transition : TaskTransition) (stored : Option StoredTask) :
    ClientResult StoredTask :=
  match transition with
  | .downloadTaskStarted pieceLength contentLength responseHeader updatedAt createdAt =>
    .ok (StoredTask.downloadTaskStarted id stored pieceLength contentLength responseHeader
      updatedAt createdAt)
  | .downloadTaskFinished updatedAt finishedAt =>
    StoredTask.downloadTaskFinished id stored updatedAt finishedAt
  | .downloadTaskFailed updatedAt failedAt =>
    StoredTask.downloadTaskFailed id stored updatedAt failedAt
  | .prefetchTaskStarted updatedAt prefetchedAt =>
    StoredTask.prefetchTaskStarted id stored updatedAt prefetchedAt
  | .prefetchTaskFailed updatedAt failedAt =>
    StoredTask.prefetchTaskFailed id stored updatedAt failedAt

def isPrefetchStarted : TaskTransition → Bool
  | .prefetchTaskStarted .. => true
  | _ => false

def isPrefetchFailed : TaskTransition → Bool
  | .prefetchTaskFailed .. => true
  | _ => false

/-- A `prefetch_task_started` that has returned `Ok`. -/
def prefetches (call : TaskTransition × ClientResult StoredTask) : Bool :=
  call.1.isPrefetchStarted && call.2.isOk

section Prefetch

variable {id : String} {task updated : StoredTask} {transition : TaskTransition}
  {order : List (TaskTransition × ClientResult StoredTask)} {record : Option StoredTask}

/-- A prefetch starts on a task that is not prefetched; other calls keep whether it is. -/
theorem isPrefetched_of_change (changed : change id transition (some task) = .ok updated)
    (kept : transition.isPrefetchFailed = false) :
    if transition.isPrefetchStarted then
      task.isPrefetched = false ∧ updated.isPrefetched = true
    else updated.isPrefetched = task.isPrefetched := by
  cases transition with
  | downloadTaskStarted | downloadTaskFinished | downloadTaskFailed =>
    cases changed
    rfl
  | prefetchTaskStarted updatedAt prefetchedAt =>
    rw [change, StoredTask.prefetchTaskStarted, StoredTask.update] at changed
    split at changed
    next => cases changed
    next free =>
      cases changed
      exact ⟨Bool.eq_false_iff.mpr free, rfl⟩
  | prefetchTaskFailed => cases kept

theorem prefetches_of_sequential (free : task.isPrefetched = false)
    (sequential : Sequential (change id) (some task) order record)
    (kept : ∀ call ∈ order, call.1.isPrefetchFailed = false) :
    ∃ current, record = some current ∧
      order.countP prefetches = if current.isPrefetched then 1 else 0 := by
  induction sequential with
  | start => exact ⟨task, rfl, by rw [free]; rfl⟩
  | ok before changed ih =>
    rw [forall_mem_append] at kept
    obtain ⟨current, rfl, count⟩ := ih kept.1
    have keeps := isPrefetched_of_change changed (kept.2 _ mem_cons_self)
    refine ⟨_, rfl, ?_⟩
    rw [countP_append, count, countP_singleton, prefetches]
    split at keeps
    next started => rw [keeps.1, keeps.2, started]; rfl
    next other => rw [keeps, Bool.eq_false_iff.mpr other]; rfl
  | error before failed ih =>
    rw [forall_mem_append] at kept
    obtain ⟨current, rfl, count⟩ := ih kept.1
    refine ⟨current, rfl, ?_⟩
    rw [countP_append, count, countP_singleton, prefetches, Except.isOk,
      Except.toBool, Bool.and_false]
    rfl

end Prefetch

end TaskTransition

/-- `metadata::CacheTask`, as far as its uploads change it. -/
structure CacheTaskRecord where
  uploadingCount : Int
  uploadedCount : Nat
  updatedAt : Nat
  deriving DecidableEq, Repr

inductive CacheTaskTransition where
  | uploadCacheTaskStarted (updatedAt : Nat)
  | uploadCacheTaskFinished (updatedAt : Nat)
  | uploadCacheTaskFailed (updatedAt : Nat)
  deriving DecidableEq, Repr

namespace CacheTaskTransition

def apply (task : CacheTaskRecord) : CacheTaskTransition → CacheTaskRecord
  | .uploadCacheTaskStarted updatedAt =>
    { task with uploadingCount := task.uploadingCount + 1, updatedAt }
  | .uploadCacheTaskFinished updatedAt =>
    { task with
      uploadingCount := task.uploadingCount - 1
      uploadedCount := task.uploadedCount + 1
      updatedAt }
  | .uploadCacheTaskFailed updatedAt =>
    { task with uploadingCount := task.uploadingCount - 1, updatedAt }

def change (id : String) (transition : CacheTaskTransition) (stored : Option CacheTaskRecord) :
    ClientResult CacheTaskRecord :=
  match stored with
  | some task => .ok (transition.apply task)
  | none => .error (.taskNotFound id)

def isStarted : CacheTaskTransition → Bool
  | .uploadCacheTaskStarted _ => true
  | _ => false

section Uploads

variable {id : String} {task : CacheTaskRecord} {record : Option CacheTaskRecord}
  {order : List (CacheTaskTransition × ClientResult CacheTaskRecord)}

def balance (transitions : List CacheTaskTransition) : Int :=
  transitions.countP (·.isStarted) - transitions.countP (!·.isStarted)

theorem balance_append (left right : List CacheTaskTransition) :
    balance (left ++ right) = balance left + balance right := by
  rw [balance, balance, balance, countP_append, countP_append]
  omega

theorem balance_perm {left right} (perm : left.Perm right) :
    balance left = balance right := by
  rw [balance, balance, perm.countP_eq, perm.countP_eq]

theorem uploadingCount_apply (transition : CacheTaskTransition) (task : CacheTaskRecord) :
    (transition.apply task).uploadingCount = task.uploadingCount + balance [transition] := by
  cases transition <;> rfl

theorem uploadingCount_of_sequential
    (sequential : Sequential (change id) (some task) order record) :
    ∃ current, record = some current ∧
      current.uploadingCount = task.uploadingCount + balance (order.map (·.1)) := by
  induction sequential with
  | start => exact ⟨task, rfl, (Int.add_zero _).symm⟩
  | ok before changed ih =>
    obtain ⟨current, rfl, count⟩ := ih
    cases changed
    refine ⟨_, rfl, ?_⟩
    rw [uploadingCount_apply, count, map_append, balance_append, Int.add_assoc]
    rfl
  | error before failed ih =>
    obtain ⟨current, rfl, count⟩ := ih
    cases failed

end Uploads

end CacheTaskTransition

open SharedRecord

/-- Concurrent transitions of a task and of a cache task, with every put over the record that
its transition has got: the results and the record are those of some order of the calls, one
prefetch at most starts, and the uploads of a cache task are the starts without the ends. -/
theorem transitions_serializable {id : String} {initial : Option StoredTask}
    {transitions : List TaskTransition} {shared : SharedRecord StoredTask DFError TaskTransition}
    (reached : Orderly (change id) initial transitions shared)
    {cacheInitial : Option CacheTaskRecord} {cacheTransitions : List CacheTaskTransition}
    {cacheShared : SharedRecord CacheTaskRecord DFError CacheTaskTransition}
    (cacheReached : Orderly (CacheTaskTransition.change id) cacheInitial cacheTransitions
      cacheShared) :
    ((∃ order, order.Perm shared.completed ∧
        Sequential (change id) initial order shared.record ∧
        (shared.Finished → (order.map (·.1)).Perm transitions)) ∧
      ∀ task : StoredTask, initial = some task → task.isPrefetched = false →
        (∀ transition ∈ transitions, transition.isPrefetchFailed = false) →
        shared.completed.countP prefetches ≤ 1) ∧
    (∃ order, order.Perm cacheShared.completed ∧
        Sequential (CacheTaskTransition.change id) cacheInitial order cacheShared.record ∧
        (cacheShared.Finished → (order.map (·.1)).Perm cacheTransitions)) ∧
      ∀ task : CacheTaskRecord, cacheInitial = some task → cacheShared.Finished →
        ∃ final, cacheShared.record = some final ∧
          final.uploadingCount =
            task.uploadingCount + CacheTaskTransition.balance cacheTransitions := by
  refine ⟨⟨reached.serializable, ?_⟩, cacheReached.serializable, ?_⟩
  · rintro task rfl free kept
    obtain ⟨order, completes, sequential⟩ := reached.ordered.sequential
    have listed : ∀ call ∈ order, call.1.isPrefetchFailed = false := by
      intro call member
      apply kept
      rw [← reached.ordered.transitions]
      exact mem_of_completed (completes.mem_iff.mp member)
    obtain ⟨current, -, count⟩ := prefetches_of_sequential free sequential listed
    rw [← completes.countP_eq, count]
    split <;> decide
  · rintro task rfl finished
    obtain ⟨order, -, sequential, all⟩ := cacheReached.serializable
    obtain ⟨final, found, count⟩ := CacheTaskTransition.uploadingCount_of_sequential sequential
    refine ⟨final, found, ?_⟩
    rw [count, CacheTaskTransition.balance_perm (all finished)]

def unprefetched : StoredTask :=
  { TaskRecord.new with
    id := "task", responseHeader := ∅, uploadingCount := 0, uploadedCount := 0, updatedAt := 0
    createdAt := 0 }

/-- One prefetch starts; two uploads of a cache task that start one after the other are both
counted. -/
theorem transitions_serializable_of_two :
    ∃ shared cacheShared,
      Orderly (change "task") (some unprefetched) [.prefetchTaskStarted 1 1]
        shared ∧
      shared.completed.countP prefetches ≤ 1 ∧
      Orderly (CacheTaskTransition.change "task") (some ⟨0, 0, 0⟩)
        [.uploadCacheTaskStarted 1, .uploadCacheTaskStarted 2] cacheShared ∧
      cacheShared.Finished ∧
      ∃ final, cacheShared.record = some final ∧ final.uploadingCount = 2 := by
  have begun : Orderly (change "task") (some unprefetched)
      [.prefetchTaskStarted 1 1] (begin (some unprefetched) [.prefetchTaskStarted 1 1]) :=
    .start rfl
  have prefetching := begun.act (Access.get 0) rfl trivial
  have prefetched := prefetching.act (Access.put 0) rfl fun _ _ _ found => by
    cases found
    rfl
  let transitions : List CacheTaskTransition :=
    [.uploadCacheTaskStarted 1, .uploadCacheTaskStarted 2]
  have idle : Orderly (CacheTaskTransition.change "task") (some ⟨0, 0, 0⟩) transitions
      (begin (some ⟨0, 0, 0⟩) transitions) := .start rfl
  have got := idle.act (Access.get 0) rfl trivial
  have put := got.act (Access.put 0) rfl fun _ _ _ found => by
    cases found
    rfl
  have gotSecond := put.act (Access.get 1) rfl trivial
  let last : SharedRecord CacheTaskRecord DFError CacheTaskTransition :=
    ⟨some ⟨2, 0, 2⟩, [(.uploadCacheTaskStarted 1, .done (.ok ⟨1, 0, 1⟩)),
      (.uploadCacheTaskStarted 2, .done (.ok ⟨2, 0, 2⟩))]⟩
  have reached : Orderly (CacheTaskTransition.change "task") (some ⟨0, 0, 0⟩) transitions last :=
    gotSecond.act (Access.put 1) rfl fun _ _ _ found => by
      cases found
      rfl
  have finished : last.Finished := by decide
  have serialized := transitions_serializable prefetched reached
  refine ⟨_, last, prefetched, serialized.1.2 _ rfl rfl ?_, reached, finished,
    serialized.2.2 _ rfl finished⟩
  intro transition listed
  cases mem_singleton.mp listed
  rfl

/-- Both calls get the record before either of them puts it: both prefetches start, and one of
two uploads is lost. -/
theorem transitions_lose_update :
    (∃ shared,
      perform (step (change "task"))
        (begin (some unprefetched) [.prefetchTaskStarted 1 1, .prefetchTaskStarted 2 2])
        [.get 0, .get 1, .put 0, .put 1] = some shared ∧
      shared.Finished ∧ shared.completed.countP prefetches = 2 ∧
      ¬∃ order, order.Perm shared.completed ∧
        Sequential (change "task") (some unprefetched) order shared.record) ∧
    ∃ shared,
      perform (step (CacheTaskTransition.change "task"))
        (begin (some ⟨0, 0, 0⟩) [.uploadCacheTaskStarted 1, .uploadCacheTaskStarted 2])
        [.get 0, .get 1, .put 0, .put 1] = some shared ∧
      shared.Finished ∧ shared.record = some ⟨1, 0, 2⟩ ∧
      ¬∃ order, order.Perm shared.completed ∧
        Sequential (CacheTaskTransition.change "task") (some ⟨0, 0, 0⟩) order shared.record := by
  refine ⟨⟨_, rfl, ?_, rfl, ?_⟩, ⟨_, rfl, ?_, rfl, ?_⟩⟩
  · decide
  · rintro ⟨order, completes, sequential⟩
    have kept : ∀ call ∈ order, call.1.isPrefetchFailed = false := by
      intro call member
      rcases completes.mem_iff.mp member with _ | ⟨_, _ | ⟨_, listed⟩⟩
      · rfl
      · rfl
      · cases listed
    obtain ⟨current, -, count⟩ := prefetches_of_sequential rfl sequential kept
    have two : order.countP prefetches = 2 := completes.countP_eq _
    split at count <;> omega
  · decide
  · rintro ⟨order, completes, sequential⟩
    obtain ⟨current, found, count⟩ := CacheTaskTransition.uploadingCount_of_sequential sequential
    rw [CacheTaskTransition.balance_perm (completes.map _)] at count
    cases found
    cases count

end DragonflyClient.Storage
