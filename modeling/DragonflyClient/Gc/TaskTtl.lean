import DragonflyClient.Storage.UploadStats

/-!
The eviction of tasks by their time to live (`gc/mod.rs`, `evict_task_by_ttl`).

A tick takes the tasks once, drops their page cache, and then looks at each of them: the age is
the one of the copy, and the uploads are not looked at.  Uploads and metadata calls go on in
between, and while the scheduler is told of a deletion.
-/

namespace DragonflyClient.Gc

open Storage Library List

def isExpired (task : StoredTask) (ttl now : Nat) : Bool := task.updatedAt + ttl < now

/-- Where a tick is, with the copies it has yet to look at. -/
inductive TickPhase where
  | idle
  | dropping (rest tasks : List StoredTask)
  | evicting (tasks : List StoredTask)
  | deleting (task : StoredTask) (rest : List StoredTask)
  | reporting (rest : List StoredTask)

def TickPhase.pending : TickPhase → List StoredTask
  | .idle => []
  | .dropping _ tasks => tasks
  | .evicting tasks => tasks
  | .deleting task rest => task :: rest
  | .reporting rest => rest

structure TickSystem where
  uploads : UploadSystem
  now : Nat
  phase : TickPhase

inductive TickEvent where
  | upload (event : UploadEvent)
  | clock (now : Nat)
  | getTasks
  | dropPageCache
  -- The age of the next copy, with the id of one that is expired.
  | check (expired : Option String)
  | deleteTask
  | deleteTaskFromScheduler

namespace TickSystem

def act (ttl : Nat) (system : TickSystem) : TickEvent → Option TickSystem
  | .upload event => (system.uploads.act event).map fun uploads => { system with uploads }
  | .clock now => if system.now ≤ now then some { system with now } else none
  | .getTasks =>
    match system.phase with
    | .idle =>
      let tasks := system.uploads.metadata.getTasks
      some { system with phase := .dropping tasks tasks }
    | _ => none
  | .dropPageCache =>
    match system.phase with
    | .dropping (_ :: rest) tasks => some { system with phase := .dropping rest tasks }
    | .dropping [] tasks => some { system with phase := .evicting tasks }
    | _ => none
  | .check expired =>
    match system.phase, expired with
    | .evicting (task :: rest), some id =>
      if isExpired task ttl system.now ∧ task.id = id then
        some { system with phase := .deleting task rest }
      else none
    | .evicting (task :: rest), none =>
      if isExpired task ttl system.now then none else some { system with phase := .evicting rest }
    | .evicting [], none => some { system with phase := .idle }
    | _, _ => none
  | .deleteTask =>
    match system.phase with
    | .deleting task rest =>
      some { system with
        uploads := { system.uploads with
          metadata := system.uploads.metadata.deleteTask task.id }
        phase := .reporting rest }
    | _ => none
  | .deleteTaskFromScheduler =>
    match system.phase with
    | .reporting rest => some { system with phase := .evicting rest }
    | _ => none

end TickSystem

/-- What the events say about an id: the uploads that have started and not ended, whether the
last deletion by others fell between two uploads, whether its record was put since the last
snapshot, and whether its copy was found expired and is yet to be deleted. -/
structure TaskLog where
  running : Nat := 0
  even : Bool := true
  fresh : Bool := true
  doomed : Bool := false

open TaskLog

namespace TaskLog

/-- An event of the id itself. -/
def noteUpload (log : TaskLog) : UploadEvent → TaskLog
  | .uploadTaskStarted _ => { log with running := log.running + 1 }
  | .uploadTaskFinished _ | .uploadTaskFailed _ => { log with running := log.running - 1 }
  | .dropStats _ => { log with even := log.running = 0 }
  | .put .. => { log with fresh := false }
  | .deleteRecord _ => log

def note (id : String) (log : TaskLog) : TickEvent → TaskLog
  | .upload event => if event.id = id then log.noteUpload event else log
  | .getTasks => { log with fresh := true }
  | .check expired => if expired = some id then { log with doomed := true } else log
  | .deleteTask => { log with doomed := false }
  | .clock _ | .dropPageCache | .deleteTaskFromScheduler => log

def of (id : String) : List TickEvent → TaskLog
  | [] => {}
  | event :: earlier => (of id earlier).note id event

/-- Where no step has touched the record since the snapshot and all uploads have ended. -/
def idle (log : TaskLog) : Bool := log.fresh && log.even && log.running = 0

end TaskLog

namespace TickSystem

/-- A copy is found expired only if its record was not put since the snapshot and the uploads of
its id have ended, and until it is deleted neither happens.  Nothing is asked of other ids. -/
def undisturbed (history : List TickEvent) : TickEvent → Bool
  | .check (some id) => (of id history).idle
  | .upload (.uploadTaskStarted id) | .upload (.put id _) => !(of id history).doomed
  | _ => true

/-- The states from an empty store, with undisturbed ticks only. -/
def Reached (ttl : Nat) : TickSystem × List TickEvent → Prop :=
  Reachable (· = (⟨⟨⟨∅, ∅⟩, [], []⟩, 0, .idle⟩, []))
    (Logged (fun system event target => act ttl system event = some target)
      fun history event => undisturbed history event = true)

/-- The copies of ids that were not put are as old as the records, and what is about to be
deleted is expired and has no upload. -/
structure Sparing (ttl : Nat) (system : TickSystem) (history : List TickEvent) : Prop where
  kept : system.uploads.Kept
  running : ∀ id, system.uploads.running.count id = (of id history).running
  counted : ∀ id, (of id history).even = true → system.uploads.Counted id
  unchanged : ∀ task ∈ system.phase.pending, (of task.id history).fresh = true →
    ∀ stored, system.uploads.metadata.records.lookup task.id = some stored →
      stored.updatedAt = task.updatedAt
  doomed : ∀ task rest, system.phase = .deleting task rest →
    isExpired task ttl system.now = true ∧ (of task.id history).idle = true ∧
      (of task.id history).doomed = true

section Runs

variable {ttl : Nat} {system target : TickSystem} {event : TickEvent} {history : List TickEvent}

section

variable (sparing : system.Sparing ttl history)
include sparing

theorem Sparing.upload {event uploads} (moved : system.uploads.act event = some uploads)
    (quiet : undisturbed history (.upload event) = true) :
    Sparing ttl { system with uploads } (.upload event :: history) where
  kept := sparing.kept.act moved
  running id := by
    rw [UploadSystem.count_running_of_act moved id, sparing.running, TaskLog.of, TaskLog.note]
    split
    · cases event <;> rfl
    · rfl
  counted id even := by
    rw [TaskLog.of, TaskLog.note] at even
    by_cases drops : event = .dropStats id
    · subst drops
      cases moved
      simp only [UploadEvent.id, if_true, TaskLog.noteUpload, decide_eq_true_iff] at even
      rw [← sparing.running] at even
      rw [UploadSystem.Counted, Metadata.stats_dropStats, if_pos rfl, even]
      rfl
    · refine (sparing.counted id ?_).act moved fun same => absurd same drops
      split at even
      next own =>
        cases event with
        | dropStats other => exact absurd (congrArg _ own) drops
        | _ => exact even
      next => exact even
  unchanged task listed fresh stored found := by
    rw [TaskLog.of, TaskLog.note] at fresh
    rcases UploadSystem.lookup_of_act moved found with before | rfl
    · refine sparing.unchanged task listed ?_ stored before
      split at fresh
      next =>
        cases event with
        | put => cases fresh
        | _ => exact fresh
      next => exact fresh
    · simp [UploadEvent.id, TaskLog.noteUpload] at fresh
  doomed task rest phase := by
    obtain ⟨expired, idle, doomed⟩ := sparing.doomed task rest phase
    refine ⟨expired, ?_⟩
    rw [TaskLog.of, TaskLog.note]
    split
    next own =>
      rw [← own] at idle doomed ⊢
      cases event with
      | uploadTaskStarted | put =>
        rw [undisturbed, Bool.not_eq_true'] at quiet
        cases quiet.symm.trans doomed
      | deleteRecord => exact ⟨idle, doomed⟩
      | uploadTaskFinished | uploadTaskFailed | dropStats =>
        simp_all [TaskLog.idle, TaskLog.noteUpload]
    next => exact ⟨idle, doomed⟩

/-- A step of the tick that leaves the store alone. -/
theorem Sparing.advance {phase} (subset : phase.pending ⊆ system.phase.pending)
    (same : ∀ id, of id (event :: history) = of id history)
    (others : ∀ task rest, phase ≠ .deleting task rest) :
    Sparing ttl { system with phase } (event :: history) where
  kept := sparing.kept
  running id := by rw [same]; exact sparing.running id
  counted id := by rw [same]; exact sparing.counted id
  unchanged task listed := by rw [same]; exact sparing.unchanged task (subset listed)
  doomed task rest phase := absurd phase (others task rest)

variable {rest : List StoredTask}

theorem Sparing.getTasks :
    Sparing ttl { system with phase := .dropping rest system.uploads.metadata.getTasks }
      (.getTasks :: history) where
  kept := sparing.kept
  running := sparing.running
  counted := sparing.counted
  unchanged task listed _ stored found := by
    obtain ⟨entry, member, rfl⟩ := mem_map.mp listed
    have lookup : system.uploads.metadata.records.lookup entry.1 = some entry.2 :=
      AList.mem_lookup_iff.mpr member
    have filled := system.uploads.metadata.fillUploadStats_other entry.2
    rw [filled.1, (sparing.kept _ _ lookup).1, lookup] at found
    rw [filled.2, Option.some.inj found]
  doomed task rest phase := by cases phase

theorem Sparing.expired {task} (phase : system.phase = .evicting (task :: rest))
    (expired : isExpired task ttl system.now = true)
    (quiet : undisturbed history (.check (some task.id)) = true) :
    Sparing ttl { system with phase := .deleting task rest }
      (.check (some task.id) :: history) := by
  have same : ∀ id, (of id (.check (some task.id) :: history)) =
      { of id history with
        doomed := (of id history).doomed || decide (task.id = id) } := by
    intro id
    rw [of, note]
    by_cases here : task.id = id <;> simp [here]
  refine ⟨sparing.kept, ?_, ?_, ?_, ?_⟩
  · simpa only [same] using sparing.running
  · simpa only [same] using sparing.counted
  · simpa only [same, phase, TickPhase.pending] using sparing.unchanged
  · rintro _ _ ⟨rfl, rfl⟩
    simp only [same, decide_true, Bool.or_true, and_true]
    exact ⟨expired, quiet⟩

theorem Sparing.deleteTask {task} (phase : system.phase = .deleting task rest) :
    Sparing ttl { system with
      uploads := { system.uploads with metadata := system.uploads.metadata.deleteTask task.id }
      phase := .reporting rest } (.deleteTask :: history) where
  kept id stored found := by
    rw [Metadata.deleteTask, Metadata.deleteRecord, Table.lookup_erase_eq] at found
    exact sparing.kept id stored (Option.ite_none_left_eq_some.mp found).2
  running := sparing.running
  counted id even := by
    obtain ⟨-, idle, -⟩ := sparing.doomed task rest phase
    simp only [TaskLog.idle, Bool.and_eq_true, decide_eq_true_eq] at idle
    change (Metadata.stats (system.uploads.metadata.dropStats task.id) id).uploadingCount = _
    rw [Metadata.stats_dropStats]
    split
    next same => rw [same, sparing.running, idle.2]; rfl
    next => exact sparing.counted id even
  unchanged other listed fresh stored found := by
    rw [Metadata.deleteTask, Metadata.deleteRecord, Table.lookup_erase_eq] at found
    refine sparing.unchanged other ?_ fresh stored (Option.ite_none_left_eq_some.mp found).2
    rw [phase]
    exact mem_cons_of_mem _ listed
  doomed other rest phase := by cases phase

theorem Sparing.act (moved : system.act ttl event = some target)
    (quiet : undisturbed history event = true) : target.Sparing ttl (event :: history) := by
  cases event with
  | upload event =>
    obtain ⟨uploads, acted, rfl⟩ := Option.map_eq_some_iff.mp moved
    exact sparing.upload acted quiet
  | clock now =>
    obtain ⟨later, moved⟩ := Option.ite_none_right_eq_some.mp moved
    cases moved
    refine { sparing with doomed := fun task rest phase => ?_ }
    obtain ⟨expired, rest⟩ := sparing.doomed task rest phase
    rw [isExpired, decide_eq_true_iff] at expired ⊢
    exact ⟨Nat.lt_of_lt_of_le expired later, rest⟩
  | getTasks =>
    rw [TickSystem.act] at moved
    split at moved
    next =>
      cases moved
      exact sparing.getTasks
    next => cases moved
  | dropPageCache =>
    rw [TickSystem.act] at moved
    split at moved
    next phase =>
      cases moved
      exact sparing.advance (by rw [phase]; exact List.Subset.refl _) (fun _ => rfl) (by simp)
    next phase =>
      cases moved
      exact sparing.advance (by rw [phase]; exact List.Subset.refl _) (fun _ => rfl) (by simp)
    next => cases moved
  | check expired =>
    unfold TickSystem.act at moved
    dsimp only at moved
    split at moved
    next task rest id phase =>
      obtain ⟨⟨expired, rfl⟩, stepped⟩ := Option.ite_none_right_eq_some.mp moved
      cases stepped
      exact sparing.expired phase expired quiet
    next task rest phase =>
      obtain ⟨-, moved⟩ := Option.ite_none_left_eq_some.mp moved
      cases moved
      exact sparing.advance (by rw [phase]; exact subset_cons_self ..) (fun _ => rfl) (by simp)
    next =>
      cases moved
      exact sparing.advance (nil_subset _) (fun _ => rfl) (by simp)
    next => cases moved
  | deleteTask =>
    rw [TickSystem.act] at moved
    split at moved
    next task rest phase =>
      cases moved
      exact sparing.deleteTask phase
    next => cases moved
  | deleteTaskFromScheduler =>
    rw [TickSystem.act] at moved
    split at moved
    next rest phase =>
      cases moved
      exact sparing.advance (by rw [phase]; exact List.Subset.refl _) (fun _ => rfl) (by simp)
    next => cases moved

end

theorem Reached.sparing (reached : Reached ttl (system, history)) :
    system.Sparing ttl history := by
  refine Reachable.invariant (fun run => run.1.Sparing ttl run.2) ?_ ?_ reached
  · rintro _ rfl
    refine ⟨fun _ _ found => ?_, fun _ => rfl, fun _ _ => rfl, fun _ listed => ?_,
      fun _ _ phase => ?_⟩
    · cases found
    · cases listed
    · cases phase
  · rintro ⟨system, history⟩ event ⟨target, _⟩ sparing ⟨moved, rfl, quiet⟩
    exact sparing.act moved quiet

end Runs

/-- If the copies that are found expired were not put since the snapshot and have no upload, and
stay so until they are deleted, then the task about to be deleted is expired as it is stored, and
no upload of it runs.  What happens to other tasks does not matter. -/
theorem deleted_expired_idle {ttl : Nat} {system : TickSystem} {history : List TickEvent}
    (reached : Reached ttl (system, history))
    {task stored : StoredTask} {rest : List StoredTask} (phase : system.phase = .deleting task rest)
    (got : system.uploads.metadata.getTask task.id = some stored) :
    isExpired stored ttl system.now = true ∧ stored.uploadingCount = 0 ∧
      task.id ∉ system.uploads.running := by
  have sparing := reached.sparing
  obtain ⟨expired, idle, -⟩ := sparing.doomed task rest phase
  simp only [TaskLog.idle, Bool.and_eq_true, decide_eq_true_eq] at idle
  obtain ⟨⟨fresh, even⟩, zero⟩ := idle
  rw [← sparing.running] at zero
  have count := UploadSystem.uploadingCount_getTask sparing.kept (sparing.counted _ even) got
  rw [zero] at count
  refine ⟨?_, count, count_eq_zero.mp zero⟩
  obtain ⟨record, found, rfl⟩ := Metadata.lookup_fill_getTask _ _ got
  have same : record.updatedAt = task.updatedAt := by
    apply sparing.unchanged task _ fresh record found
    rw [phase]
    exact mem_cons_self
  rwa [isExpired, (Metadata.fillUploadStats_other _ record).2, same]

def started (id : String) (time : Nat) : TickEvent :=
  .upload (.put id (StoredTask.downloadTaskStarted id none 4 4 ∅ time 0))

/-- Three tasks: one uploaded before, one that is not expired, and one deleted by others. -/
def busyTick : List TickEvent :=
  [started "old" 0, started "new" 9, started "gone" 0, .upload (.uploadTaskStarted "old"),
    .clock 10, .getTasks, .upload (.uploadTaskFinished "old"), started "new" 10,
    .upload (.uploadTaskStarted "new"), .dropPageCache, .dropPageCache, .dropPageCache,
    .upload (.dropStats "gone"), .dropPageCache, .check (some "gone"),
    .upload (.deleteRecord "gone"), .deleteTask, .deleteTaskFromScheduler, .check none,
    .check (some "old"), .upload (.uploadTaskFailed "new")]

theorem deleted_expired_idle_of_busy :
    ∃ system task stored rest,
      perform (keepLog (act 5) undisturbed) (⟨⟨⟨∅, ∅⟩, [], []⟩, 0, .idle⟩, []) busyTick =
        some (system, busyTick.reverse) ∧
      system.phase = .deleting task rest ∧ task.id = "old" ∧
      system.uploads.metadata.getTask task.id = some stored ∧
      isExpired stored 5 system.now = true ∧ stored.uploadingCount = 0 := by
  have performed : perform (keepLog (act 5) undisturbed) (⟨⟨⟨∅, ∅⟩, [], []⟩, 0, .idle⟩, [])
      busyTick = some (_, busyTick.reverse) := rfl
  have reached : Reached 5 (_, busyTick.reverse) := .keepLog rfl performed
  have found := deleted_expired_idle reached rfl rfl
  exact ⟨_, _, _, _, performed, rfl, rfl, rfl, found.1, found.2.1⟩

def upToDeletion : List TickEvent :=
  [.getTasks, .dropPageCache, .dropPageCache, .check (some "task")]

/-- A task is deleted while an upload of it runs; and one that has been touched since the tick
took its copy. -/
theorem deleted_in_use :
    (∃ system task rest after,
      perform (act 5) ⟨⟨⟨∅, ∅⟩, [], []⟩, 0, .idle⟩
        ([started "task" 0, .clock 10, .upload (.uploadTaskStarted "task")] ++ upToDeletion) =
          some system ∧
      system.phase = .deleting task rest ∧
      (system.uploads.metadata.getTask task.id).map (·.uploadingCount) = some 1 ∧
      act 5 system .deleteTask = some after ∧ after.uploads.metadata.getTask task.id = none) ∧
    ∃ system task rest after,
      perform (act 5) ⟨⟨⟨∅, ∅⟩, [], []⟩, 0, .idle⟩
        ([started "task" 0, .clock 10] ++ upToDeletion ++ [started "task" 10]) = some system ∧
      system.phase = .deleting task rest ∧
      (system.uploads.metadata.getTask task.id).map (isExpired · 5 system.now) = some false ∧
      act 5 system .deleteTask = some after ∧ after.uploads.metadata.getTask task.id = none :=
  ⟨⟨_, _, _, _, rfl, rfl, rfl, rfl, rfl⟩, ⟨_, _, _, _, rfl, rfl, rfl, rfl, rfl⟩⟩

end TickSystem

end DragonflyClient.Gc
