import DragonflyClient.Storage.TaskTransitions

/-!
The upload statistics of the tasks (`metadata.rs`).

The counters of an id are kept in memory beside the store.  The start and the end of an upload
create them where they are missing, `delete_task` drops them together with the record, and
`get_task` reads them into the record.
-/

namespace DragonflyClient.Storage

open Library List Table

structure UploadStats where
  uploadingCount : Int
  uploadedCount : Nat
  deriving DecidableEq, Repr

def i64Min : Int := -9223372036854775808

/-- `i64::saturating_sub(1)`. -/
def saturatingPred (count : Int) : Int := max (count - 1) i64Min

def StoredTask.isUploading (task : StoredTask) : Bool := 0 < task.uploadingCount

/-- `Metadata`, as far as it is about tasks. -/
structure Metadata where
  records : Table String StoredTask
  uploadStats : Table String UploadStats

open Metadata

namespace Metadata

/-- `upload_stats.entry(id).or_default()`. -/
def stats (metadata : Metadata) (id : String) : UploadStats :=
  (metadata.uploadStats.lookup id).getD ⟨0, 0⟩

def setStats (metadata : Metadata) (id : String) (stats : UploadStats) : Metadata :=
  { metadata with uploadStats := metadata.uploadStats.insert id stats }

def uploadTaskStarted (metadata : Metadata) (id : String) : Metadata :=
  let stats := metadata.stats id
  metadata.setStats id { stats with uploadingCount := stats.uploadingCount + 1 }

def uploadTaskFinished (metadata : Metadata) (id : String) : Metadata :=
  let stats := metadata.stats id
  metadata.setStats id
    { uploadingCount := saturatingPred stats.uploadingCount
      uploadedCount := stats.uploadedCount + 1 }

def uploadTaskFailed (metadata : Metadata) (id : String) : Metadata :=
  let stats := metadata.stats id
  metadata.setStats id { stats with uploadingCount := saturatingPred stats.uploadingCount }

def fillUploadStats (metadata : Metadata) (task : StoredTask) : StoredTask :=
  match metadata.uploadStats.lookup task.id with
  | some stats =>
    { task with
      uploadingCount := stats.uploadingCount
      uploadedCount := task.uploadedCount + stats.uploadedCount }
  | none => task

def getTask (metadata : Metadata) (id : String) : Option StoredTask :=
  (metadata.records.lookup id).map metadata.fillUploadStats

def getTasks (metadata : Metadata) : List StoredTask :=
  metadata.records.entries.map fun entry => metadata.fillUploadStats entry.2

def put (metadata : Metadata) (id : String) (task : StoredTask) : Metadata :=
  { metadata with records := metadata.records.insert id task }

/-- The first step of `delete_task`. -/
def dropStats (metadata : Metadata) (id : String) : Metadata :=
  { metadata with uploadStats := metadata.uploadStats.erase id }

/-- The second step of `delete_task`. -/
def deleteRecord (metadata : Metadata) (id : String) : Metadata :=
  { metadata with records := metadata.records.erase id }

/-- A delete that the database fails, after the counters are dropped, is not modelled. -/
def deleteTask (metadata : Metadata) (id : String) : Metadata :=
  (metadata.dropStats id).deleteRecord id

/-- A record as the transitions put it: under its own id, without a count of its own. -/
def Stored (id : String) (task : StoredTask) : Prop := task.id = id ∧ task.uploadingCount = 0

instance (id : String) (task : StoredTask) : Decidable (Stored id task) :=
  inferInstanceAs (Decidable (_ ∧ _))

/-- Every transition puts such a record over such a record. -/
theorem stored_of_change {id} {transition : TaskTransition} {before updated}
    (stored : ∀ task, before = some task → Stored id task)
    (changed : transition.change id before = .ok updated) : Stored id updated := by
  cases before with
  | none => cases transition <;> cases changed; exact ⟨rfl, rfl⟩
  | some task =>
    have same := stored task rfl
    cases transition with
    | prefetchTaskStarted =>
      rw [TaskTransition.change, StoredTask.prefetchTaskStarted, StoredTask.update] at changed
      split at changed <;> cases changed
      exact same
    | _ =>
      cases changed
      exact same

section Lookups

variable (metadata : Metadata) (id other : String)

theorem stats_setStats (stats : UploadStats) :
    (metadata.setStats id stats).stats other =
      if other = id then stats else metadata.stats other := by
  rw [Metadata.stats, setStats]
  rw [lookup_insert_eq]
  split <;> rfl

theorem stats_dropStats :
    (metadata.dropStats id).stats other = if other = id then ⟨0, 0⟩ else metadata.stats other := by
  rw [stats, dropStats]
  rw [lookup_erase_eq]
  split <;> rfl

theorem lookup_fill_getTask {task} (got : metadata.getTask id = some task) :
    ∃ stored, metadata.records.lookup id = some stored ∧
      task = metadata.fillUploadStats stored := by
  obtain ⟨stored, found, rfl⟩ := Option.map_eq_some_iff.mp got
  exact ⟨stored, found, rfl⟩

theorem fillUploadStats_other (task : StoredTask) :
    (metadata.fillUploadStats task).id = task.id ∧
      (metadata.fillUploadStats task).updatedAt = task.updatedAt := by
  rw [fillUploadStats]
  split <;> exact ⟨rfl, rfl⟩

end Lookups

end Metadata

/-- The metadata with the uploads that run, by id, and the deletions between their two steps. -/
structure UploadSystem where
  metadata : Metadata
  running : List String
  deleting : List String

open UploadSystem

inductive UploadEvent where
  | uploadTaskStarted (id : String)
  | uploadTaskFinished (id : String)
  | uploadTaskFailed (id : String)
  | put (id : String) (task : StoredTask)
  | dropStats (id : String)
  | deleteRecord (id : String)

def UploadEvent.id : UploadEvent → String
  | .uploadTaskStarted id | .uploadTaskFinished id | .uploadTaskFailed id | .put id _
  | .dropStats id | .deleteRecord id => id

/-- The uploads of the id that run after the event. -/
def UploadEvent.after (running : Nat) : UploadEvent → Nat
  | .uploadTaskStarted _ => running + 1
  | .uploadTaskFinished _ | .uploadTaskFailed _ => running - 1
  | .put .. | .dropStats _ | .deleteRecord _ => running

namespace UploadSystem

/-- An upload that runs ends once. -/
def endUpload (system : UploadSystem) (id : String) (metadata : Metadata) : Option UploadSystem :=
  if id ∈ system.running then some { system with metadata, running := system.running.erase id }
  else none

def act (system : UploadSystem) : UploadEvent → Option UploadSystem
  | .uploadTaskStarted id =>
    some { system with
      metadata := system.metadata.uploadTaskStarted id
      running := id :: system.running }
  | .uploadTaskFinished id => system.endUpload id (system.metadata.uploadTaskFinished id)
  | .uploadTaskFailed id => system.endUpload id (system.metadata.uploadTaskFailed id)
  | .put id task =>
    if Stored id task then some { system with metadata := system.metadata.put id task }
    else none
  | .dropStats id =>
    some { system with
      metadata := system.metadata.dropStats id
      deleting := id :: system.deleting }
  | .deleteRecord id =>
    if id ∈ system.deleting then
      some { system with
        metadata := system.metadata.deleteRecord id
        deleting := system.deleting.erase id }
    else none

/-- No upload of a task runs when it is deleted. -/
def Quiet (system : UploadSystem) : UploadEvent → Prop
  | .dropStats id => id ∉ system.running
  | _ => True

/-- The states from an empty store, with quiet deletions only. -/
def Reached : UploadSystem → Prop :=
  Reachable (· = ⟨⟨∅, ∅⟩, [], []⟩)
    (Guarded (fun system event target => act system event = some target) Quiet)

/-- The counter of an id is the number of its uploads that run. -/
def Counted (system : UploadSystem) (id : String) : Prop :=
  (system.metadata.stats id).uploadingCount = system.running.count id

def Kept (system : UploadSystem) : Prop :=
  ∀ id task, system.metadata.records.lookup id = some task → Stored id task

section Runs

variable {system target : UploadSystem} {event : UploadEvent} {id : String}

theorem Counted.set (counted : system.Counted id) {other stats running} (deleting : List String)
    (here : other = id → stats.uploadingCount = running.count id)
    (elsewhere : other ≠ id → running.count id = system.running.count id) :
    Counted ⟨system.metadata.setStats other stats, running, deleting⟩ id := by
  rw [Counted, stats_setStats]
  split
  next same => exact here same.symm
  next different => rw [counted, elsewhere (Ne.symm different)]

theorem saturatingPred_of_pos {count : Nat} (positive : 0 < count) :
    saturatingPred count = (count - 1 : Nat) := by
  rw [saturatingPred, i64Min]
  omega

theorem Counted.endUpload (counted : system.Counted id) {other : String} {stats}
    (decremented : stats.uploadingCount =
      saturatingPred (system.metadata.stats other).uploadingCount)
    (ended : system.endUpload other (system.metadata.setStats other stats) = some target) :
    target.Counted id := by
  rw [UploadSystem.endUpload] at ended
  split at ended
  next runs =>
    cases ended
    refine counted.set _ ?_ fun different => count_erase_of_ne (Ne.symm different)
    rintro rfl
    rw [decremented, counted, saturatingPred_of_pos (count_pos_iff.mpr runs), count_erase_self]
  next => cases ended

theorem Counted.act (counted : system.Counted id) (moved : system.act event = some target)
    (quiet : event = .dropStats id → id ∉ system.running) : target.Counted id := by
  cases event with
  | uploadTaskStarted other =>
    cases moved
    refine counted.set _ ?_ fun different => count_cons_of_ne different
    rintro rfl
    rw [count_cons_self, Int.natCast_add, ← counted]
    rfl
  | uploadTaskFinished other => exact counted.endUpload rfl moved
  | uploadTaskFailed other => exact counted.endUpload rfl moved
  | put other task =>
    rw [act] at moved
    split at moved
    · cases moved
      exact counted
    · cases moved
  | dropStats other =>
    cases moved
    rw [Counted, stats_dropStats]
    split
    next same => rw [count_eq_zero.mpr (quiet (same ▸ rfl))]; rfl
    next => exact counted
  | deleteRecord other =>
    rw [act] at moved
    split at moved
    · cases moved
      exact counted
    · cases moved

theorem lookup_of_act {task} (moved : system.act event = some target)
    (found : target.metadata.records.lookup id = some task) :
    system.metadata.records.lookup id = some task ∨ event = .put id task := by
  cases event with
  | uploadTaskStarted other =>
    cases moved
    exact .inl found
  | uploadTaskFinished other | uploadTaskFailed other =>
    rw [act, endUpload] at moved
    split at moved
    next =>
      cases moved
      exact .inl found
    next => cases moved
  | put other task =>
    rw [act] at moved
    split at moved
    next =>
      cases moved
      rw [put, lookup_insert_eq] at found
      split at found
      next same =>
        cases found
        exact .inr (same ▸ rfl)
      next => exact .inl found
    next => cases moved
  | dropStats other =>
    cases moved
    exact .inl found
  | deleteRecord other =>
    rw [act] at moved
    split at moved
    next =>
      cases moved
      rw [deleteRecord, lookup_erase_eq] at found
      split at found
      next => cases found
      next => exact .inl found
    next => cases moved

theorem count_running_of_act (moved : system.act event = some target) (id : String) :
    target.running.count id =
      if event.id = id then event.after (system.running.count id)
      else system.running.count id := by
  cases event with
  | uploadTaskStarted other =>
    cases moved
    rw [count_cons]
    by_cases own : other = id <;> simp [own, UploadEvent.id, UploadEvent.after]
  | uploadTaskFinished other | uploadTaskFailed other =>
    obtain ⟨runs, moved⟩ := Option.ite_none_right_eq_some.mp moved
    cases moved
    rw [count_erase]
    by_cases own : other = id <;> simp [own, UploadEvent.id, UploadEvent.after]
  | put other task | deleteRecord other =>
    obtain ⟨-, moved⟩ := Option.ite_none_right_eq_some.mp moved
    cases moved
    exact (ite_self _).symm
  | dropStats other =>
    cases moved
    exact (ite_self _).symm

theorem Kept.act (kept : system.Kept) (moved : system.act event = some target) : target.Kept := by
  intro id task found
  rcases lookup_of_act moved found with before | rfl
  · exact kept id task before
  · exact (Option.ite_none_right_eq_some.mp moved).1

theorem Reached.kept_counted (reached : Reached system) :
    system.Kept ∧ ∀ id, system.Counted id := by
  refine Reachable.invariant (fun system => system.Kept ∧ ∀ id, system.Counted id) ?_ ?_ reached
  · rintro _ rfl
    exact ⟨fun id task found => (by cases found), fun id => rfl⟩
  · rintro system event target ⟨kept, counted⟩ ⟨moved, quiet⟩
    exact ⟨kept.act moved, fun id => (counted id).act moved fun same => by rwa [same] at quiet⟩

theorem uploadingCount_getTask {task} (kept : system.Kept) (counted : system.Counted id)
    (got : system.metadata.getTask id = some task) :
    task.uploadingCount = system.running.count id := by
  obtain ⟨stored, found, rfl⟩ := Option.map_eq_some_iff.mp got
  obtain ⟨same, zero⟩ := kept id stored found
  have count : (system.metadata.stats id).uploadingCount = system.running.count id := counted
  rw [stats] at count
  rw [fillUploadStats, same]
  split
  next stats filled =>
    rw [filled] at count
    exact count
  next missing =>
    rw [missing] at count
    exact zero.trans count

end Runs

/-- With no upload running when a task is deleted, `get_task` reports the uploads that run. -/
theorem upload_counts_exact {system : UploadSystem} (reached : Reached system) (id : String)
    {task : StoredTask} (got : system.metadata.getTask id = some task) :
    task.uploadingCount = system.running.count id ∧ 0 ≤ task.uploadingCount ∧
      (task.isUploading = true ↔ id ∈ system.running) := by
  obtain ⟨kept, counted⟩ := reached.kept_counted
  have count := uploadingCount_getTask kept (counted id) got
  refine ⟨count, count ▸ Int.natCast_nonneg _, ?_⟩
  rw [StoredTask.isUploading, decide_eq_true_iff, count, Int.natCast_pos, count_pos_iff]

def created : StoredTask :=
  StoredTask.downloadTaskStarted "task" none 4 4 ∅ 0 0

/-- Two uploads of a task that was deleted and created again after its first upload. -/
theorem upload_counts_exact_of_created_again :
    ∃ system task, Reached system ∧ system.metadata.getTask "task" = some task ∧
      system.running = ["task", "task"] ∧ task.uploadingCount = 2 ∧ task.isUploading = true := by
  have empty : Reached ⟨⟨∅, ∅⟩, [], []⟩ := .start rfl
  have stored := empty.act (UploadEvent.put "task" created) rfl trivial
  have started := stored.act (UploadEvent.uploadTaskStarted "task") rfl trivial
  have ended := started.act (UploadEvent.uploadTaskFinished "task") rfl trivial
  have dropped := ended.act (UploadEvent.dropStats "task") rfl (by simp [Quiet])
  have deleted := dropped.act (UploadEvent.deleteRecord "task") rfl trivial
  have again := deleted.act (UploadEvent.put "task" created) rfl trivial
  have first := again.act (UploadEvent.uploadTaskStarted "task") rfl trivial
  have second := first.act (UploadEvent.uploadTaskStarted "task") rfl trivial
  have exact := upload_counts_exact second "task" rfl
  exact ⟨_, _, second, rfl, rfl, exact.1, exact.2.2.mpr mem_cons_self⟩

/-- A task is deleted and created again while an upload of it runs: the upload is not reported,
and its end leaves a negative count. -/
theorem upload_counts_after_delete :
    ∃ between after,
      perform act ⟨⟨∅, ∅⟩, [], []⟩ [.put "task" created, .uploadTaskStarted "task",
        .dropStats "task", .deleteRecord "task", .put "task" created] = some between ∧
      between.running = ["task"] ∧
      (between.metadata.getTask "task").map (·.isUploading) = some false ∧
      act between (.uploadTaskFinished "task") = some after ∧
      (after.metadata.getTask "task").map (·.uploadingCount) = some (-1) :=
  ⟨_, _, rfl, rfl, rfl, rfl, rfl⟩

end UploadSystem

end DragonflyClient.Storage
