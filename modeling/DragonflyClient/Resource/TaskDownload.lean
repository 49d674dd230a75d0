import DragonflyClient.Library.Table
import DragonflyClient.Resource.Interested
import DragonflyClient.Storage.TaskRecord

/-!
`Task::download` (`resource/task.rs`) and the stages it goes through: the local storage, the
pieces in flight, the scheduler with its parents and its way to the source, and the source.

What the stages meet is a script; a script that does not fit the calls, or with messages of the
scheduler that are not read, has no run.  A run keeps a log of what was asked of the stages, what
they have finished and what was sent to the scheduler.  A finished piece is known by its number.
-/

namespace DragonflyClient.Resource

open Storage Library

inductive Stage where
  | localStorage
  | inFlight
  | parents
  | schedulerSource
  | source
  deriving DecidableEq, Repr

/-- The requests of the announce stream; those about single pieces are left out. -/
inductive PeerRequest where
  | registerPeer
  | downloadPeerStarted
  | downloadPeerFinished
  | downloadPeerFailed (description : String)
  | reschedulePeer (description : String)
  | downloadPeerBackToSourceStarted
  | downloadPeerBackToSourceFinished
  | downloadPeerBackToSourceFailed (description : String)
  deriving DecidableEq, Repr

inductive TaskEvent where
  -- A stage is called with these pieces.
  | ask (stage : Stage) (pieces : List Piece)
  -- A stage has put a piece into its finished pieces.
  | report (piece : Piece)
  | send (request : PeerRequest)
  deriving DecidableEq

abbrev TaskLog := List TaskEvent

def removeFinishedFromInterested (finished interested : List Piece) : List Piece :=
  interested.filter fun piece => !finished.any (·.number == piece.number)

/-- The values of the map, each number once. -/
def mergeFinishedPieces (finished old : List Piece) : List Piece :=
  let pieces : Table UInt32 Piece :=
    finished.foldl (fun table piece => table.insert piece.number piece) ∅
  let merged := old.foldl (fun table piece =>
    if (table.lookup piece.number).isSome then table else table.insert piece.number piece) pieces
  merged.entries.map (·.2)

/-- What the local storage has of a piece; `failed` is a failure to read or to send it. -/
inductive LocalOutcome where
  | missing
  | unfinished
  | finished
  | failed (error : DFError)
  deriving DecidableEq

def localLoop (outcome : Piece → LocalOutcome) :
    List Piece → List Piece → TaskLog → TaskLog × ClientResult (List Piece)
  | [], finished, log => (log, .ok finished)
  | piece :: pieces, finished, log =>
    match outcome piece with
    | .missing | .unfinished => localLoop outcome pieces finished log
    | .finished =>
      localLoop outcome pieces (finished ++ [piece]) (log ++ [.report piece])
    | .failed error => (log, .error error)

def downloadPartialFromLocal (stage : Stage) (outcome : Piece → LocalOutcome)
    (interested : List Piece) (log : TaskLog) : TaskLog × ClientResult (List Piece) :=
  localLoop outcome interested [] (log ++ [.ask stage interested])

/-- The loop of `wait_for_in_flight_pieces`: each round follows a completion, and the wait
is over when none is left. -/
def waitLoop : List (Piece → LocalOutcome) → List Piece → List Piece → TaskLog →
    TaskLog × ClientResult (List Piece)
  | [], _, finished, log => (log, .ok finished)
  | round :: rounds, interested, finished, log =>
    match downloadPartialFromLocal .inFlight round interested log with
    | (log, .error error) => (log, .error error)
    | (log, .ok partialPieces) =>
      let interested := removeFinishedFromInterested partialPieces interested
      let finished := mergeFinishedPieces finished partialPieces
      if interested.isEmpty then (log, .ok finished)
      else waitLoop rounds interested finished log

inductive JoinMessage where
  | ended (result : ClientResult Unit)
  | failed (cause : String)
  deriving DecidableEq

def JoinMessage.finished : JoinMessage → Bool
  | .ended (.ok ()) => true
  | _ => false

def asyncRuntimeError (cause : String) : DFError := .externalError "AsyncRuntimeError" cause

/-- The join loop of `download_partial_with_scheduler_from_parent`: only a task that did not
run to its end fails the stage, and a send timeout ends it. -/
def parentLoop : List (Piece × JoinMessage) → ClientResult Unit
  | [] => .ok ()
  | (_, .failed cause) :: _ => .error (asyncRuntimeError cause)
  | (_, .ended (.error .sendTimeout)) :: _ => .ok ()
  | (_, .ended _) :: messages => parentLoop messages

/-- A round with the parents: the tasks of the collected pieces, in the order in which they
end. -/
structure ParentRound where
  registerFault : Option DFError
  messages : List (Piece × JoinMessage)

def ParentRound.finished (round : ParentRound) : List Piece :=
  (round.messages.filter (·.2.finished)).map (·.1)

/-- The tasks put their pieces into the shared list themselves. -/
def downloadPartialWithSchedulerFromParent (round : ParentRound) (interested : List Piece)
    (log : TaskLog) : Option (TaskLog × ClientResult (List Piece)) :=
  match round.registerFault with
  | some error => some (log, .error error)
  | none =>
    if round.messages.all (interested.contains ·.1) then
      let log := log ++ round.finished.map .report
      match parentLoop round.messages with
      | .ok () => some (log, .ok round.finished)
      | .error error => some (log, .error error)
    else none

structure SourceRound where
  headerFault : Option DFError
  messages : List (Piece × JoinMessage)

def schedulerSourceLoop : List (Piece × JoinMessage) → List Piece → TaskLog →
    TaskLog × ClientResult (List Piece)
  | [], finished, log => (log, .ok finished)
  | (_, .failed cause) :: _, _, log => (log, .error (asyncRuntimeError cause))
  | (piece, .ended (.ok ())) :: messages, finished, log =>
    schedulerSourceLoop messages (finished ++ [piece]) (log ++ [.report piece])
  | (_, .ended (.error .sendTimeout)) :: _, finished, log => (log, .ok finished)
  | (_, .ended (.error error)) :: _, _, log => (log, .error error)

def downloadPartialWithSchedulerFromSource (round : SourceRound) (interested : List Piece)
    (log : TaskLog) : Option (TaskLog × ClientResult (List Piece)) :=
  match round.headerFault with
  | some error => some (log, .error error)
  | none =>
    if (round.messages.map (·.1)).isPerm interested then
      some (schedulerSourceLoop round.messages [] log)
    else none

/-- The join loop of `download_partial_from_source`: every error ends it. -/
def sourceLoop : List (Piece × JoinMessage) → List Piece → TaskLog →
    TaskLog × ClientResult (List Piece)
  | [], finished, log => (log, .ok finished)
  | (_, .failed cause) :: _, _, log => (log, .error (asyncRuntimeError cause))
  | (piece, .ended (.ok ())) :: messages, finished, log =>
    sourceLoop messages (finished ++ [piece]) (log ++ [.report piece])
  | (_, .ended (.error error)) :: _, _, log => (log, .error error)

def downloadPartialFromSource (round : SourceRound) (interested : List Piece) (log : TaskLog) :
    Option (TaskLog × ClientResult (List Piece)) :=
  let log := log ++ [.ask .source interested]
  match round.headerFault with
  | some error => some (log, .error error)
  | none =>
    if (round.messages.map (·.1)).isPerm interested then
      match sourceLoop round.messages [] log with
      | (log, .error error) => some (log, .error error)
      | (log, .ok finished) =>
        if finished.length ≠ interested.length then
          some (log, .error (.unknown "not all pieces are downloaded from source"))
        else some (log, .ok finished)
    else none

/-- What the scheduler answers, with what the code meets while it acts on it; the flags say
which requests could be sent. -/
inductive SchedulerResponse where
  -- The message is a status, or has no response.
  | failed (error : DFError)
  | emptyTask (startedSent finishedSent : Bool)
  | normalTask (startedSent : Bool) (round : ParentRound) (lastSent : Bool)
  | needBackToSource (startedSent : Bool) (round : SourceRound) (lastSent : Bool)
  | metadataOnly

structure SchedulerMessage where
  response : SchedulerResponse
  -- Whether the failure could be sent if the schedule count is exceeded.
  exceededSent : Bool

def sendIf (sent : Bool) (request : PeerRequest) (log : TaskLog) : TaskLog :=
  if sent then log ++ [.send request] else log

/-- The answers of the scheduler to one message: go on with the finished pieces, or return. -/
inductive Scheduled where
  | goOn (finished : List Piece)
  | returned (result : ClientResult (List Piece))

def emptyTaskResponse (startedSent finishedSent : Bool) (log : TaskLog) : TaskLog × Scheduled :=
  let log := sendIf startedSent .downloadPeerStarted log
  if startedSent then
    (sendIf finishedSent .downloadPeerFinished log,
      .returned (if finishedSent then .ok [] else .error .sendTimeout))
  else (log, .returned (.error .sendTimeout))

/-- The pieces of a round with the parents; an error gives none. -/
def orEmpty : ClientResult (List Piece) → List Piece
  | .ok pieces => pieces
  | .error _ => []

def normalTaskResponse (startedSent : Bool) (round : ParentRound) (lastSent : Bool)
    (interested finished : List Piece) (log : TaskLog) : Option (TaskLog × Scheduled) :=
  if startedSent then
    let remaining := removeFinishedFromInterested finished interested
    (downloadPartialWithSchedulerFromParent round remaining
      (log ++ [.send .downloadPeerStarted, .ask .parents remaining])).map fun outcome =>
        let finished := mergeFinishedPieces finished (orEmpty outcome.2)
        if finished.length = interested.length then
          (sendIf lastSent .downloadPeerFinished outcome.1, .returned (.ok finished))
        else
          (sendIf lastSent (.reschedulePeer "not all pieces are downloaded from parent") outcome.1,
            if lastSent then .goOn finished else .returned (.ok finished))
  else some (log, .returned (.ok finished))

def needBackToSourceResponse (startedSent : Bool) (round : SourceRound) (lastSent : Bool)
    (interested finished : List Piece) (log : TaskLog) : Option (TaskLog × Scheduled) :=
  if startedSent then
    let remaining := removeFinishedFromInterested finished interested
    (downloadPartialWithSchedulerFromSource round remaining
      (log ++ [.send .downloadPeerBackToSourceStarted, .ask .schedulerSource remaining])).map
        fun outcome =>
          match outcome.2 with
          | .error error =>
            (sendIf lastSent (.downloadPeerBackToSourceFailed error.display) outcome.1,
              .returned (.ok finished))
          | .ok partialPieces =>
            let finished := mergeFinishedPieces finished partialPieces
            let request :=
              if partialPieces.length = remaining.length then
                PeerRequest.downloadPeerBackToSourceFinished
              else .downloadPeerBackToSourceFailed "not all pieces are downloaded from source"
            (sendIf lastSent request outcome.1, .returned (.ok finished))
  else some (log, .returned (.ok finished))

def schedulerResponse (response : SchedulerResponse) (interested finished : List Piece)
    (log : TaskLog) : Option (TaskLog × Scheduled) :=
  match response with
  | .failed error => some (log, .returned (.error error))
  | .emptyTask startedSent finishedSent => some (emptyTaskResponse startedSent finishedSent log)
  | .normalTask startedSent round lastSent =>
    normalTaskResponse startedSent round lastSent interested finished log
  | .needBackToSource startedSent round lastSent =>
    needBackToSourceResponse startedSent round lastSent interested finished log
  | .metadataOnly => some (log, .returned (.error .unexpectedResponse))

/-- The loop of `download_partial_with_scheduler`; at the end of the messages the stream ends
or fails, unless the last of them was the last that is read. -/
def schedulerLoop (maxScheduleCount : Nat) (interested : List Piece) (ending : Option DFError) :
    List SchedulerMessage → Nat → List Piece → TaskLog →
      Option (TaskLog × ClientResult (List Piece))
  | [], _, finished, log =>
    match ending with
    | none => some (log, .ok finished)
    | some error => some (log, .error error)
  | message :: messages, count, finished, log =>
    let last (log : TaskLog) (result : ClientResult (List Piece)) :=
      if messages.isEmpty ∧ ending.isNone then some (log, result) else none
    if count + 1 > maxScheduleCount then
      last (sendIf message.exceededSent (.downloadPeerFailed "max schedule count exceeded") log)
        (.ok finished)
    else
      match schedulerResponse message.response interested finished log with
      | none => none
      | some (log, .returned result) => last log result
      | some (log, .goOn finished) =>
        schedulerLoop maxScheduleCount interested ending messages (count + 1) finished log

structure SchedulerScript where
  -- A failure to register the peer or to open the stream.
  connectFault : Option DFError
  messages : List SchedulerMessage
  ending : Option DFError

def downloadPartialWithScheduler (maxScheduleCount : Nat) (script : SchedulerScript)
    (interested : List Piece) (log : TaskLog) : Option (TaskLog × ClientResult (List Piece)) :=
  match script.connectFault with
  | some error => some (log, .error error)
  | none =>
    schedulerLoop maxScheduleCount interested script.ending script.messages 0 []
      (log ++ [.send .registerPeer])

inductive SchedulingPolicy where
  | auto
  | always
  deriving DecidableEq, Repr

/-- The fields of the request that `Task::download` reads. -/
structure Download where
  range : Option Range
  schedulingPolicy : SchedulingPolicy
  disableBackToSource : Bool
  isPrefetch : Bool
  deriving DecidableEq, Repr

def minPieceLength : UInt64 := 4 * 1024 * 1024

def shouldBypassScheduler (request : Download) (contentLength : UInt64) : Bool :=
  request.schedulingPolicy = .auto ∧ ¬ request.disableBackToSource ∧
    (request.range.any (·.length ≤ minPieceLength) ∨ contentLength ≤ minPieceLength)

structure Script where
  maxScheduleCount : Nat
  -- Whether the `DownloadTaskStartedResponse` could be sent.
  startedSent : Bool
  localStorage : Piece → LocalOutcome
  -- Whether the task is prefetched by now, and the rounds of the wait if it is.
  prefetched : Bool
  firstWait : Piece → LocalOutcome
  waits : List (Piece → LocalOutcome)
  scheduler : SchedulerScript
  source : SourceRound

/-- The way to the source ends the download, whatever it returns. -/
def finishFromSource (script : Script) (interested : List Piece) (log : TaskLog) :
    Option (TaskLog × ClientResult Unit) :=
  (downloadPartialFromSource script.source interested log).map fun outcome =>
    (outcome.1, outcome.2.map fun _ => ())

def downloadWithScheduler (script : Script) (request : Download) (interested : List Piece)
    (log : TaskLog) : Option (TaskLog × ClientResult Unit) :=
  match downloadPartialWithScheduler script.maxScheduleCount script.scheduler interested log with
  | none => none
  | some (log, .error _) =>
    if request.disableBackToSource then some (log, .error (.unknown "download failed"))
    else finishFromSource script interested log
  | some (log, .ok finished) =>
    let interested := removeFinishedFromInterested finished interested
    if interested.isEmpty then some (log, .ok ())
    else if request.disableBackToSource then some (log, .error (.unknown "download failed"))
    else finishFromSource script interested log

/-- The download once the local pieces are known and the wait for those in flight is over. -/
def downloadRemote (script : Script) (request : Download) (contentLength : UInt64)
    (interested : List Piece) (log : TaskLog) : Option (TaskLog × ClientResult Unit) :=
  if shouldBypassScheduler request contentLength then finishFromSource script interested log
  else downloadWithScheduler script request interested log

def downloadInterested (script : Script) (request : Download) (contentLength : UInt64)
    (interested : List Piece) : Option (TaskLog × ClientResult Unit) :=
  if script.startedSent then
    match downloadPartialFromLocal .localStorage script.localStorage interested [] with
    | (log, .error error) => some (log, .error error)
    | (log, .ok finished) =>
      let interested := removeFinishedFromInterested finished interested
      if interested.isEmpty then some (log, .ok ())
      else if ¬ request.isPrefetch ∧ script.prefetched then
        match waitLoop (script.firstWait :: script.waits) interested [] log with
        | (log, .error error) => some (log, .error error)
        | (log, .ok finished) =>
          let interested := removeFinishedFromInterested finished interested
          if interested.isEmpty then some (log, .ok ())
          else downloadRemote script request contentLength interested log
      else downloadRemote script request contentLength interested log
  else some ([], .error .sendTimeout)

/-- `Task::download`; `none` is a script that does not fit, or a loop that does not end. -/
def Task.download (task : TaskRecord) (request : Download) (script : Script) :
    Option (TaskLog × ClientResult Unit) :=
  match task.contentLength, task.pieceLength with
  | none, _ => some ([], .error .invalidContentLength)
  | some _, none => some ([], .error .invalidPieceLength)
  | some contentLength, some pieceLength =>
    match calculateInterested pieceLength contentLength request.range with
    | none => none
    | some (.error error) => some ([], .error error)
    | some (.ok interested) => downloadInterested script request contentLength interested

end DragonflyClient.Resource
