import DragonflyClient.Resource.TaskComplete

/-!
The downloads of one task (`proxy/task.rs`) over its record and the records of its pieces:
`Task::download_started`, `Task::download`, and the terminal calls on the metadata store.

Downloads run side by side.  A step is one change of the metadata store; the request to the
backend comes between two of them.  Who writes the records of the pieces is left open.
-/

namespace DragonflyClient.Resource

open Storage Library List TaskRecord

/-- `calculate_interested` on the lengths of a record; no pieces if it fails. -/
def interestedOf (task : TaskRecord) (range : Option Range) : List Piece :=
  match task.pieceLength, task.contentLength with
  | some pieceLength, some contentLength =>
    match calculateInterested pieceLength contentLength range with
    | some (.ok pieces) => pieces
    | _ => []
  | _, _ => []

/-- Where a download is: before the answer of the backend, or in `Task::download` with the
record that `download_started` returned.  `seen` are the pieces that have been finished at some
time since; only those can be reported. -/
inductive CallPhase where
  | heading
  | running (task : TaskRecord) (seen : List UInt32)

structure TaskCall where
  request : Download
  phase : CallPhase

def TaskCall.see (number : UInt32) (call : TaskCall) : TaskCall :=
  match call.phase with
  | .heading => call
  | .running task seen => { call with phase := .running task (number :: seen) }

structure TaskSystem where
  id : String
  record : Option TaskRecord
  pieces : Table UInt32 Piece
  calls : List TaskCall

/-- How `download_started` ends after `prepare_download_task` asked for it. -/
inductive HeadOutcome where
  -- A `BackendError`, after which the download calls `download_failed`.
  | backendError (now : Nat)
  -- Any other error; the record stays.
  | failed
  -- The lengths; an error after `download_task_started` ends the download.
  | started (pieceLength contentLength : UInt64) (fault : Bool)

inductive TaskSystemEvent where
  -- `linkFault` is a forced hard link that fails.
  | begin (request : Download) (linkFault : Bool)
  | head (call : Nat) (outcome : HeadOutcome)
  -- The range header cannot be parsed.
  | refuse (call : Nat) (now : Nat)
  | finish (call : Nat) (script : Script) (now : Nat)
  | putPiece (piece : Piece)
  | deletePiece (number : UInt32)

namespace TaskSystem

def finished (system : TaskSystem) : List UInt32 :=
  system.pieces.keys.filter fun number => (system.pieces.lookup number).any (·.isFinished)

/-- A terminal call that does not find the record changes nothing. -/
def settle (system : TaskSystem) (call : Nat) (result : ClientResult TaskRecord) : TaskSystem :=
  { system with
    record := match result with
      | .ok task => some task
      | .error _ => system.record
    calls := system.calls.eraseIdx call }

def fail (system : TaskSystem) (call : Nat) (now : Nat) : TaskSystem :=
  system.settle call (downloadTaskFailed system.id system.record now)

def started (system : TaskSystem) (call : Nat) (request : Download)
    (pieceLength contentLength : UInt64) (fault : Bool) : TaskSystem :=
  let task := downloadTaskStarted system.record pieceLength contentLength
  { system with
    record := some task
    calls :=
      if fault then system.calls.eraseIdx call
      else system.calls.set call ⟨request, .running task system.finished⟩ }

def begin (system : TaskSystem) (request : Download) (linkFault : Bool) : TaskSystem :=
  match prepareDownloadTask system.record with
  | (task, true) =>
    if linkFault then system
    else
      { system with calls := system.calls ++ [⟨request, .running task system.finished⟩] }
  | (task, false) =>
    { system with record := some task, calls := system.calls ++ [⟨request, .heading⟩] }

/-- The end of `Task::download`, which has reported pieces only while they were finished. -/
def finish (system : TaskSystem) (call : Nat) (request : Download) (task : TaskRecord)
    (seen : List UInt32) (script : Script) (now : Nat) : Option TaskSystem :=
  match Task.download task request script with
  | none => none
  | some (log, result) =>
    if (reported log).all (seen.contains ·) then
      match result with
      | .ok () =>
        some (system.settle call
          (downloadTaskFinished system.id system.record now))
      | .error _ => some (system.fail call now)
    else none

def act (system : TaskSystem) : TaskSystemEvent → Option TaskSystem
  | .begin request linkFault => some (system.begin request linkFault)
  | .head call outcome =>
    match system.calls[call]? with
    | some ⟨request, .heading⟩ =>
      match outcome with
      | .backendError now => some (system.fail call now)
      | .failed => some { system with calls := system.calls.eraseIdx call }
      | .started pieceLength contentLength fault =>
        some (system.started call request pieceLength contentLength fault)
    | _ => none
  | .refuse call now =>
    match system.calls[call]? with
    | some ⟨_, .running _ _⟩ => some (system.fail call now)
    | _ => none
  | .finish call script now =>
    match system.calls[call]? with
    | some ⟨request, .running task seen⟩ => system.finish call request task seen script now
    | _ => none
  | .putPiece piece =>
    some { system with
      pieces := system.pieces.insert piece.number piece
      calls :=
        if piece.isFinished then system.calls.map (TaskCall.see piece.number)
        else system.calls }
  | .deletePiece number => some { system with pieces := system.pieces.erase number }

def Step (system : TaskSystem) (event : TaskSystemEvent) (later : TaskSystem) : Prop :=
  system.act event = some later

def Initial (system : TaskSystem) : Prop :=
  system.record = none ∧ system.calls = []

theorem mem_finished {system : TaskSystem} {number} :
    number ∈ system.finished ↔
      ∃ piece, system.pieces.lookup number = some piece ∧ piece.isFinished = true := by
  rw [finished, mem_filter, ← AList.mem_keys, ← AList.lookup_isSome, Option.any_eq_true]
  refine ⟨And.right, fun found => ⟨?_, found⟩⟩
  obtain ⟨piece, present, -⟩ := found
  rw [present]
  rfl

section Invariant

variable {system later : TaskSystem}

def Whole (system : TaskSystem) : Prop :=
  ∀ task, system.record = some task → task.isFinished = true →
    ∀ piece ∈ interestedOf task none, piece.number ∈ system.finished

/-- A download that succeeds is one of the whole task as it is recorded then, the lengths of a
finished task do not change, and no finished piece is lost. -/
def Covering (system : TaskSystem) : TaskSystemEvent → Prop
  | .head _ (.started pieceLength contentLength _) =>
    ∀ task, system.record = some task → task.isFinished = true →
      task.pieceLength = some pieceLength ∧ task.contentLength = some contentLength
  | .finish call script _ =>
    ∀ request task seen log stored,
      system.calls[call]? = some ⟨request, .running task seen⟩ →
      Task.download task request script = some (log, .ok ()) →
      system.record = some stored →
      ∀ piece ∈ interestedOf stored none, piece.number ∈ numbers (interestedOf task request.range)
  | .putPiece piece => piece.number ∈ system.finished → piece.isFinished = true
  | .deletePiece number => number ∉ system.finished
  | _ => True

def Keeps (stored : Option TaskRecord) (task : TaskRecord) : Prop :=
  task.isFinished = true → ∃ earlier, stored = some earlier ∧ earlier.isFinished = true ∧
    earlier.pieceLength = task.pieceLength ∧ earlier.contentLength = task.contentLength

theorem keeps_prepare (stored : Option TaskRecord) :
    Keeps stored (prepareDownloadTask stored).1 := by
  intro done
  cases stored with
  | none => cases done
  | some task =>
    unfold prepareDownloadTask at done ⊢
    dsimp only at done ⊢
    split at done
    · exact ⟨task, rfl, done, by rw [if_pos ‹_›], by rw [if_pos ‹_›]⟩
    · exact ⟨task, rfl, done, by rw [if_neg ‹_›], by rw [if_neg ‹_›]⟩

variable {stored : Option TaskRecord} {task : TaskRecord} {call : Nat} {request : Download}

theorem keeps_failed {id now} (failed : downloadTaskFailed id stored now = .ok task) :
    Keeps stored task := by
  intro done
  cases stored with
  | none => cases failed
  | some earlier =>
    cases failed
    exact ⟨earlier, rfl, done, rfl, rfl⟩

theorem keeps_started {pieceLength contentLength}
    (same : ∀ task, stored = some task → task.isFinished = true →
      task.pieceLength = some pieceLength ∧ task.contentLength = some contentLength) :
    Keeps stored (downloadTaskStarted stored pieceLength contentLength) := by
  intro done
  cases stored with
  | none => cases done
  | some earlier =>
    obtain ⟨sized, content⟩ := same earlier rfl done
    exact ⟨earlier, rfl, done, sized, content⟩

theorem interestedOf_congr {earlier} (range : Option Range)
    (sized : earlier.pieceLength = task.pieceLength)
    (content : earlier.contentLength = task.contentLength) :
    interestedOf task range = interestedOf earlier range := by
  rw [interestedOf, interestedOf, sized, content]

theorem Whole.keeps (whole : system.Whole)
    (keeps : ∀ task, later.record = some task → Keeps system.record task)
    (grows : ∀ number ∈ system.finished, number ∈ later.finished) : later.Whole := by
  intro task recorded done piece listed
  obtain ⟨earlier, stored, before, sized, content⟩ := keeps task recorded done
  rw [interestedOf_congr none sized content] at listed
  exact grows _ (whole earlier stored before piece listed)

def Seen (finished : List UInt32) (call : TaskCall) : Prop :=
  match call.phase with
  | .heading => True
  | .running _ seen => ∀ number ∈ seen, number ∈ finished

structure Sound (system : TaskSystem) : Prop where
  whole : system.Whole
  seen : ∀ call ∈ system.calls, Seen system.finished call

theorem keeps_self (same : stored = some task) : Keeps stored task :=
  fun done => ⟨task, same, done, rfl, rfl⟩

theorem Sound.settle (sound : system.Sound) {result}
    (written : ∀ task, result = .ok task → task.isFinished = true →
      ∀ piece ∈ interestedOf task none, piece.number ∈ system.finished) :
    (system.settle call result).Sound := by
  constructor
  · cases result with
    | ok task =>
      intro other recorded done
      cases recorded
      exact written task rfl done
    | error error => exact sound.whole
  · intro other listed
    exact sound.seen other (mem_of_mem_eraseIdx listed)

theorem Sound.fail (sound : system.Sound) (call now : Nat) : (system.fail call now).Sound := by
  apply sound.settle
  intro task failed done piece listed
  obtain ⟨earlier, stored, before, sized, content⟩ := keeps_failed failed done
  rw [interestedOf_congr none sized content] at listed
  exact sound.whole earlier stored before piece listed

theorem Sound.begin (sound : system.Sound) (request : Download) (linkFault : Bool) :
    (system.begin request linkFault).Sound := by
  have keeps := keeps_prepare system.record
  unfold TaskSystem.begin
  split
  next task prepared =>
    split
    · exact sound
    · refine ⟨sound.whole, ?_⟩
      intro call listed
      rcases mem_append.mp listed with earlier | now
      · exact sound.seen call earlier
      · rw [mem_singleton.mp now]
        exact fun number among => among
  next task prepared =>
    rw [prepared] at keeps
    refine ⟨sound.whole.keeps ?_ fun _ listed => listed, ?_⟩
    · intro other recorded
      cases recorded
      exact keeps
    · intro call listed
      rcases mem_append.mp listed with earlier | now
      · exact sound.seen call earlier
      · rw [mem_singleton.mp now]
        trivial

theorem Sound.started (sound : system.Sound) {pieceLength contentLength fault}
    (same : ∀ task, system.record = some task → task.isFinished = true →
      task.pieceLength = some pieceLength ∧ task.contentLength = some contentLength) :
    (system.started call request pieceLength contentLength fault).Sound := by
  refine ⟨sound.whole.keeps ?_ fun _ listed => listed, ?_⟩
  · intro task recorded
    cases recorded
    exact keeps_started same
  · intro other listed
    unfold TaskSystem.started at listed
    split at listed
    · exact sound.seen other (mem_of_mem_eraseIdx listed)
    · rcases mem_or_eq_of_mem_set listed with earlier | rfl
      · exact sound.seen other earlier
      · exact fun number among => among

theorem reported_of_ok {script log} (ran : Task.download task request script = some (log, .ok ())) :
    ∀ number ∈ numbers (interestedOf task request.range), number ∈ reported log := by
  intro number listed
  obtain ⟨piece, among, rfl⟩ := mem_numbers.mp listed
  rcases Task.download_ended ran with ⟨-, error, failed⟩ | ⟨pieceLength, contentLength, pieces,
    sized, content, interesting, ended⟩
  · cases failed
  · have same : interestedOf task request.range = pieces := by
      rw [interestedOf, sized, content]
      simp only [interesting]
    rw [same] at among
    exact ended.complete rfl piece among

theorem Sound.finish (sound : system.Sound) {seen script now}
    (running : system.calls[call]? = some ⟨request, .running task seen⟩)
    (covering : system.Covering (.finish call script now))
    (moved : system.finish call request task seen script now = some later) : later.Sound := by
  unfold TaskSystem.finish at moved
  split at moved
  · cases moved
  next log result ran =>
    obtain ⟨known, moved⟩ := Option.ite_none_right_eq_some.mp moved
    split at moved
    · cases moved
      apply sound.settle
      intro stored wrote done piece listed
      cases recorded : system.record with
      | none =>
        rw [recorded] at wrote
        cases wrote
      | some earlier =>
        rw [recorded] at wrote
        cases wrote
        have covered := covering request task seen log earlier running ran recorded piece listed
        have inLog := reported_of_ok ran piece.number covered
        have among := contains_iff_mem.mp (all_eq_true.mp known _ inLog)
        exact sound.seen _ (mem_of_getElem? running) piece.number among
    · cases moved
      exact sound.fail call now

theorem Seen.grows {finished more call} (seen : Seen finished call)
    (grows : ∀ number ∈ finished, number ∈ more) : Seen more call := by
  unfold Seen at seen ⊢
  split
  next => trivial
  next phase =>
    rw [phase] at seen
    exact fun number listed => grows number (seen number listed)

theorem Seen.see {finished call number} (seen : Seen finished call) (now : number ∈ finished) :
    Seen finished (call.see number) := by
  obtain ⟨request, phase⟩ := call
  cases phase with
  | heading => trivial
  | running task numbers =>
    intro other listed
    rcases mem_cons.mp listed with rfl | earlier
    · exact now
    · exact seen other earlier

theorem Sound.put (sound : system.Sound) {piece : Piece}
    (covering : piece.number ∈ system.finished → piece.isFinished = true) :
    TaskSystem.Sound { system with
      pieces := system.pieces.insert piece.number piece
      calls :=
        if piece.isFinished then system.calls.map (TaskCall.see piece.number)
        else system.calls } := by
  have grows : ∀ number ∈ system.finished,
      number ∈ finished { system with pieces := system.pieces.insert piece.number piece } := by
    intro number listed
    rw [mem_finished, Table.lookup_insert_eq]
    by_cases same : number = piece.number
    · subst same
      exact ⟨piece, if_pos rfl, covering listed⟩
    · rw [if_neg same]
      exact mem_finished.mp listed
  refine ⟨sound.whole.keeps (fun task => keeps_self) grows, fun call listed => ?_⟩
  split at listed
  next done =>
    have now : piece.number ∈
        finished { system with pieces := system.pieces.insert piece.number piece } := by
      rw [mem_finished, Table.lookup_insert_eq, if_pos rfl]
      exact ⟨piece, rfl, done⟩
    obtain ⟨earlier, before, rfl⟩ := mem_map.mp listed
    exact ((sound.seen earlier before).grows grows).see now
  next => exact (sound.seen call listed).grows grows

theorem Sound.delete (sound : system.Sound) {number : UInt32}
    (covering : number ∉ system.finished) :
    TaskSystem.Sound { system with pieces := system.pieces.erase number } := by
  have grows : ∀ other ∈ system.finished,
      other ∈ finished { system with pieces := system.pieces.erase number } := by
    intro other listed
    have different : other ≠ number := fun same => covering (same ▸ listed)
    rw [mem_finished, AList.lookup_erase_ne different]
    exact mem_finished.mp listed
  exact ⟨sound.whole.keeps (fun task => keeps_self) grows,
    fun call listed => (sound.seen call listed).grows grows⟩

theorem Sound.step (sound : system.Sound) {event}
    (moved : Guarded Step Covering system event later) : later.Sound := by
  obtain ⟨moved, covering⟩ := moved
  unfold Step act at moved
  cases event with
  | begin request linkFault =>
    cases moved
    exact sound.begin request linkFault
  | head call outcome =>
    dsimp only at moved
    split at moved
    next request running =>
      cases outcome with
      | backendError now =>
        cases moved
        exact sound.fail call now
      | failed =>
        cases moved
        exact ⟨sound.whole, fun other listed =>
          sound.seen other (mem_of_mem_eraseIdx listed)⟩
      | started pieceLength contentLength fault =>
        cases moved
        exact sound.started covering
    next => cases moved
  | refuse call now =>
    dsimp only at moved
    split at moved
    next =>
      cases moved
      exact sound.fail call now
    next => cases moved
  | finish call script now =>
    dsimp only at moved
    split at moved
    next running => exact sound.finish running covering moved
    next => cases moved
  | putPiece piece =>
    cases moved
    exact sound.put covering
  | deletePiece number =>
    cases moved
    exact sound.delete covering

theorem Initial.sound (initial : system.Initial) : system.Sound := by
  constructor
  · intro task recorded
    rw [initial.1] at recorded
    cases recorded
  · intro call listed
    rw [initial.2] at listed
    cases listed

/-- In every run in which a successful download is one of the whole task, a finished task is
whole. -/
theorem finished_task_whole (reached : Reachable Initial (Guarded Step Covering) system) :
    ∀ task, system.record = some task → task.isFinished = true →
      ∀ piece ∈ interestedOf task none, piece.number ∈ system.finished := by
  have sound := reached.invariant Sound (fun _ initial => initial.sound)
    fun _ _ _ sound moved => sound.step moved
  exact sound.whole

end Invariant

namespace Small

def empty : TaskSystem := ⟨"task", none, ∅, []⟩

theorem initial_empty : Initial empty := ⟨rfl, rfl⟩

/-- The local storage has everything by now. -/
def script : Script where
  maxScheduleCount := 5
  startedSent := true
  localStorage := fun _ => .finished
  prefetched := false
  firstWait := fun _ => .missing
  waits := []
  scheduler := ⟨none, [], none⟩
  source := ⟨none, []⟩

def finishedPiece (number : UInt32) : Piece :=
  { number, offset := number.toUInt64 * minPieceLength, length := minPieceLength, digest := ""
    parentId := none, finishedAt := some 0 }

def download (range : Option Range) (pieces : List UInt32) : List TaskSystemEvent :=
  [.begin ⟨range, .auto, false, false⟩ false,
    .head 0 (.started minPieceLength (2 * minPieceLength) false)] ++
    pieces.map (fun number => .putPiece (finishedPiece number)) ++ [.finish 0 script 1]

theorem next {system later} (event : TaskSystemEvent)
    (reached : Reachable Initial (Guarded Step Covering) system)
    (moved : system.act event = some later) (covering : system.Covering event) :
    Reachable Initial (Guarded Step Covering) later := reached.next ⟨moved, covering⟩

end Small

/-- A download of the whole task. -/
theorem finished_task_whole_of_download :
    ∃ system task, Reachable Initial (Guarded Step Covering) system ∧
      system.record = some task ∧ task.isFinished = true ∧
      numbers (interestedOf task none) = [0, 1] ∧
      ∀ piece ∈ interestedOf task none, piece.number ∈ system.finished := by
  let events := Small.download none [0, 1]
  have begun := Small.next events[0] (.start Small.initial_empty) rfl trivial
  have headed := Small.next events[1] begun rfl (by
    intro task recorded done
    cases recorded
    cases done)
  have first := Small.next events[2] headed rfl fun _ => rfl
  have second := Small.next events[3] first rfl fun _ => rfl
  have ended := Small.next events[4] second rfl (by
    intro request task seen log stored running ran recorded piece listed
    cases running
    cases recorded
    exact mem_numbers.mpr ⟨piece, listed, rfl⟩)
  exact ⟨_, _, ended, rfl, rfl, rfl, finished_task_whole ended _ rfl rfl⟩

/-- A download of the first piece finishes the task. -/
theorem finished_task_lacks_piece :
    ∃ system task, Reachable Initial Step system ∧
      system.record = some task ∧ task.isFinished = true ∧
      numbers (interestedOf task none) = [0, 1] ∧ system.finished = [0] := by
  obtain ⟨system, performed, rest⟩ :
      ∃ system, perform act Small.empty (Small.download (some ⟨0, minPieceLength⟩) [0]) =
          some system ∧
        ∃ task, system.record = some task ∧ task.isFinished = true ∧
          numbers (interestedOf task none) = [0, 1] ∧ system.finished = [0] :=
    ⟨_, rfl, _, rfl, rfl, rfl, rfl⟩
  obtain ⟨task, rest⟩ := rest
  have start : Reachable Initial Step Small.empty := .start Small.initial_empty
  exact ⟨system, task, start.perform (fun _ _ _ _ moved => moved) performed, rest⟩

end TaskSystem

end DragonflyClient.Resource
