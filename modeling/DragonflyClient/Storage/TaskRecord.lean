import DragonflyClient.Core.Error

/-!
The record of a task in the metadata store (`metadata.rs`): `prepare_download_task`,
`download_task_started`, `download_task_finished` and `download_task_failed`.
-/

namespace DragonflyClient.Storage

/-- The fields of `metadata::Task` that a download reads. -/
structure TaskRecord where
  pieceLength : Option UInt64
  contentLength : Option UInt64
  prefetchedAt : Option Nat
  failedAt : Option Nat
  finishedAt : Option Nat
  deriving DecidableEq, Repr

namespace TaskRecord

def new : TaskRecord :=
  { pieceLength := none, contentLength := none, prefetchedAt := none, failedAt := none
    finishedAt := none }

def isPrefetched (task : TaskRecord) : Bool := task.prefetchedAt.isSome

def isFailed (task : TaskRecord) : Bool := task.failedAt.isSome

def isFinished (task : TaskRecord) : Bool := task.finishedAt.isSome

/-- A record with both lengths that has not failed is used again; any other is put anew. -/
def prepareDownloadTask (stored : Option TaskRecord) : TaskRecord × Bool :=
  match stored with
  | some task =>
    if task.contentLength.isSome ∧ task.pieceLength.isSome ∧ ¬ task.isFailed then (task, true)
    else ({ task with failedAt := none }, false)
  | none => (new, false)

/-- The lengths are set again; `finished_at` stays as it is. -/
def downloadTaskStarted (stored : Option TaskRecord) (pieceLength contentLength : UInt64) :
    TaskRecord :=
  match stored with
  | some task =>
    { task with
      failedAt := none
      contentLength := some contentLength
      pieceLength := some pieceLength }
  | none => { new with pieceLength := some pieceLength, contentLength := some contentLength }

def downloadTaskFinished (id : String) (stored : Option TaskRecord) (now : Nat) :
    ClientResult TaskRecord :=
  match stored with
  | some task => .ok { task with failedAt := none, finishedAt := some now }
  | none => .error (.taskNotFound id)

def downloadTaskFailed (id : String) (stored : Option TaskRecord) (now : Nat) :
    ClientResult TaskRecord :=
  match stored with
  | some task => .ok { task with failedAt := some now }
  | none => .error (.taskNotFound id)

end TaskRecord

end DragonflyClient.Storage
