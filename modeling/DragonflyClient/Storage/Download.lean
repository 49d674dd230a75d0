import DragonflyClient.Core.Error
import DragonflyClient.Library.Transition

/-!
The download of one piece: `Storage::download_piece_started` and the calls that end a
download (`lib.rs`), over `metadata.rs` and `piece_notifier.rs`.

A step is one operation on the notifier map or on the metadata store, or the end of a
sleep.  Where a caller is in its call is part of the state, and the callers
interleave between steps.
-/

namespace DragonflyClient.Storage

open Library

/-- `metadata::Piece`, without the counts and times that no modelled call reads. -/
structure Piece where
  number : UInt32
  offset : UInt64
  length : UInt64
  digest : String
  parentId : Option String
  finishedAt : Option Nat
  deriving DecidableEq, Repr

def Piece.isFinished (piece : Piece) : Bool := piece.finishedAt.isSome

structure DownloadRequest where
  number : UInt32
  offset : UInt64
  length : UInt64
  deriving DecidableEq, Repr

/-- What `Metadata::download_piece_finished` writes into the record. -/
structure Completion where
  offset : UInt64
  length : UInt64
  digest : String
  parentId : Option String
  now : Nat
  deriving DecidableEq, Repr

def Completion.apply (completion : Completion) (piece : Piece) : Piece :=
  { piece with
    offset := completion.offset
    length := completion.length
    digest := completion.digest
    parentId := completion.parentId
    finishedAt := some completion.now }

inductive Claim where
  | owner
  | inFlight
  deriving DecidableEq, Repr

/-- The record of the piece, and whether `PieceNotifier` has an entry for it. -/
structure PieceStore where
  record : Option Piece
  inFlight : Bool
  deriving DecidableEq, Repr

open PieceStore

namespace PieceStore

def claim (store : PieceStore) : Claim × PieceStore :=
  if store.inFlight then (.inFlight, store) else (.owner, { store with inFlight := true })

/-- `PieceNotifier::remove_and_notify`; a waiter may wake at any time anyway. -/
def removeAndNotify (store : PieceStore) : PieceStore := { store with inFlight := false }

/-- Every operation on the database may fail, and then does nothing. -/
def getPiece (store : PieceStore) : Option DFError → ClientResult (Option Piece)
  | some error => .error error
  | none => .ok store.record

def putPiece (store : PieceStore) (piece : Piece) : Option DFError → ClientResult PieceStore
  | some error => .error error
  | none => .ok { store with record := some piece }

def deletePiece (store : PieceStore) : Option DFError → ClientResult PieceStore
  | some error => .error error
  | none => .ok { store with record := none }

end PieceStore

inductive Position where
  | idle
  -- In `wait_for_piece_finished`.
  | waiting
  | watching
  | listening
  | asleep
  | doubting (again : Bool)
  | checking (again : Bool)
  | expiring (timedOut : Bool)
  | deleting (timedOut : Bool)
  | withdrawing
  -- In `download_piece_started`.
  | claiming
  | queued
  | owning
  | starting
  | releasing (result : ClientResult Piece)
  -- The caller has an unfinished piece.
  | downloading (piece : Piece)
  | finishing (piece : Piece) (completion : Completion)
  | storing (piece finished : Piece)
  | finished
  | failing
  | discarding
  | failed
  -- Without a download, and after the terminal call of one.
  | returned (result : ClientResult Piece)
  | ended
  deriving DecidableEq

namespace Position

/-- Between the receipt of an unfinished piece and the removal of the notifier in the
terminal call. -/
def downloads : Position → Bool
  | downloading _ | finishing _ _ | storing _ _ | finished => true
  | failing | discarding | failed => true
  | _ => false

/-- Between a successful claim and the removal of the notifier. -/
def owns (position : Position) : Bool :=
  match position with
  | owning | starting | releasing _ => true
  | _ => position.downloads

/-- On the way out of a `wait_for_piece_finished` that ran into its timeout. -/
def overdue : Position → Bool
  | expiring timedOut | deleting timedOut => timedOut
  | withdrawing => true
  | _ => false

/-- The piece of a caller is unfinished while it downloads, finished when it does not. -/
def Truthful : Position → Prop
  | downloading piece => piece.isFinished = false
  | finishing piece _ | storing piece _ => piece.isFinished = false
  | releasing (.ok piece) | returned (.ok piece) => piece.isFinished = true
  | _ => True

/-- Where a look at the record leads: out with a finished piece, on with an unfinished
one, to the claim without any. -/
def look (piece : ClientResult (Option Piece)) (unfinished : Position) : Position :=
  match piece with
  | .ok (some piece) => if piece.isFinished then returned (.ok piece) else unfinished
  | _ => claiming

/-- `wait_for_piece_finished_failed` and `download_piece_failed` of the metadata keep a
finished piece and go on to delete any other record. -/
def sweep (piece : ClientResult (Option Piece)) (keep delete : Position) : Position :=
  match piece with
  | .error _ => keep
  | .ok (some piece) => if piece.isFinished then keep else delete
  | .ok none => delete

/-- The end of `wait_for_piece_finished` after its metadata call. -/
def giveUp (timedOut : Bool) : Position := if timedOut then withdrawing else claiming

/-- The operation at a position; `fault` is the answer of a failing database. -/
def advance (store : PieceStore) (request : DownloadRequest) (fault : Option DFError) :
    Position → Option (PieceStore × Position)
  | waiting => some (store, look (store.getPiece fault) watching)
  | watching => some (store, if store.inFlight then listening else doubting false)
  | listening => some (store, look (store.getPiece fault) asleep)
  | doubting again => some (store, look (store.getPiece fault) (checking again))
  | checking again =>
    some (store, if store.inFlight then watching
      else if again then expiring false else doubting true)
  | expiring timedOut =>
    some (store, sweep (store.getPiece fault) (giveUp timedOut) (deleting timedOut))
  | deleting timedOut =>
    match store.deletePiece fault with
    | .ok after => some (after, giveUp timedOut)
    | .error _ => some (store, giveUp timedOut)
  | withdrawing => some (store.removeAndNotify, claiming)
  | claiming =>
    match store.claim with
    | (.owner, after) => some (after, owning)
    | (.inFlight, after) => some (after, queued)
  | owning =>
    match store.getPiece fault with
    | .error error => some (store, releasing (.error error))
    | .ok (some piece) =>
      some (store, if piece.isFinished then releasing (.ok piece) else starting)
    | .ok none => some (store, starting)
  | starting =>
    let piece : Piece :=
      { number := request.number, offset := request.offset, length := request.length
        digest := "", parentId := none, finishedAt := none }
    match store.putPiece piece fault with
    | .ok after => some (after, downloading piece)
    | .error error => some (store, releasing (.error error))
  | releasing result => some (store.removeAndNotify, returned result)
  | finishing piece completion =>
    match store.getPiece fault with
    | .ok (some record) => some (store, storing piece (completion.apply record))
    -- `PieceNotFound`, or the error of the database: the caller still has its download.
    | _ => some (store, downloading piece)
  | storing piece done =>
    match store.putPiece done fault with
    | .ok after => some (after, finished)
    | .error _ => some (store, downloading piece)
  | finished => some (store.removeAndNotify, ended)
  | failing => some (store, sweep (store.getPiece fault) failed discarding)
  | discarding =>
    match store.deletePiece fault with
    | .ok after => some (after, failed)
    | .error _ => some (store, failed)
  | failed => some (store.removeAndNotify, ended)
  | idle | asleep | queued | downloading _ | returned _ | ended => none

end Position

structure DownloadCaller where
  request : DownloadRequest
  position : Position
  deriving DecidableEq

inductive DownloadEvent where
  | call (caller : Nat) (request : DownloadRequest)
  | advance (caller : Nat) (fault : Option DFError)
  -- A notification or the fallback sleep.
  | wake (caller : Nat)
  -- The timeout of `wait_for_piece_finished`.
  | timeout (caller : Nat)
  -- A `*_finished` call comes to the metadata, `download_piece_failed` is called.
  | finish (caller : Nat) (completion : Completion)
  | fail (caller : Nat)

def DownloadEvent.calls : DownloadEvent → Bool
  | call .. | advance .. => true
  | _ => false

structure Download where
  store : PieceStore
  callers : Nat → DownloadCaller

namespace Download

def move (download : Download) (caller : Nat) (store : PieceStore) (position : Position) :
    Download :=
  { store
    callers := fun other =>
      if other = caller then { download.callers caller with position }
      else download.callers other }

@[simp] theorem move_position_self (download : Download) (caller : Nat) (store : PieceStore)
    (position : Position) :
    ((download.move caller store position).callers caller).position = position := by
  simp [move]

theorem move_callers_other (download : Download) {caller other} (store : PieceStore)
    (position : Position) (different : other ≠ caller) :
    (download.move caller store position).callers other = download.callers other := by
  simp [move, different]

def step (download : Download) (event : DownloadEvent) : Option Download :=
  match event with
  | .call caller request =>
    match (download.callers caller).position with
    | .idle =>
      some { download with
        callers := fun other =>
          if other = caller then { request, position := .waiting }
          else download.callers other }
    | _ => none
  | .advance caller fault =>
    let current := download.callers caller
    (current.position.advance download.store current.request fault).map fun after =>
      download.move caller after.1 after.2
  | .wake caller =>
    match (download.callers caller).position with
    | .asleep => some (download.move caller download.store .watching)
    | .queued => some (download.move caller download.store .waiting)
    | _ => none
  | .timeout caller =>
    match (download.callers caller).position with
    | .asleep => some (download.move caller download.store (.expiring true))
    | _ => none
  | .finish caller completion =>
    match (download.callers caller).position with
    | .downloading piece =>
      some (download.move caller download.store (.finishing piece completion))
    | _ => none
  | .fail caller =>
    match (download.callers caller).position with
    | .downloading _ => some (download.move caller download.store .failing)
    | _ => none

def Step (download : Download) (event : DownloadEvent) (target : Download) : Prop :=
  download.step event = some target

/-- Nobody has called yet; the record is what an earlier process left. -/
def Initial (download : Download) : Prop :=
  download.store.inFlight = false ∧ ∀ caller, (download.callers caller).position = .idle

/-- No `wait_for_piece_finished` times out. -/
def Prompt (_ : Download) : DownloadEvent → Prop
  | .timeout _ => False
  | _ => True

end Download

def DownloadRequest.piece (request : DownloadRequest) : Piece :=
  { number := request.number, offset := request.offset, length := request.length
    digest := "", parentId := none, finishedAt := none }

def PieceStore.Finished (store : PieceStore) : Prop :=
  ∃ piece, store.record = some piece ∧ piece.isFinished = true

/-- Where a look of `wait_for_piece_finished` at an unfinished record leads. -/
def Position.pending : Position → Option Position
  | waiting => some watching
  | listening => some asleep
  | doubting again => some (checking again)
  | _ => none

inductive Operation (store : PieceStore) (request : DownloadRequest) :
    Position → PieceStore → Position → Prop where
  | found {position pending piece} (reads : position.pending = some pending)
      (stored : store.record = some piece) (finished : piece.isFinished = true) :
      Operation store request position store (.returned (.ok piece))
  | pending {position pending} (reads : position.pending = some pending) :
      Operation store request position store pending
  | missing {position pending} (reads : position.pending = some pending) :
      Operation store request position store .claiming
  | listen (held : store.inFlight = true) : Operation store request .watching store .listening
  | doubt (free : store.inFlight = false) :
      Operation store request .watching store (.doubting false)
  | resume {again} (held : store.inFlight = true) :
      Operation store request (.checking again) store .watching
  | recheck (free : store.inFlight = false) :
      Operation store request (.checking false) store (.doubting true)
  | expire (free : store.inFlight = false) :
      Operation store request (.checking true) store (.expiring false)
  | spare {timedOut} :
      Operation store request (.expiring timedOut) store (.giveUp timedOut)
  | condemn {timedOut} (unfinished : ¬ store.Finished) :
      Operation store request (.expiring timedOut) store (.deleting timedOut)
  | delete {timedOut} :
      Operation store request (.deleting timedOut) { store with record := none }
        (.giveUp timedOut)
  | undeleted {timedOut} :
      Operation store request (.deleting timedOut) store (.giveUp timedOut)
  | withdraw : Operation store request .withdrawing store.removeAndNotify .claiming
  | claim (free : store.inFlight = false) :
      Operation store request .claiming { store with inFlight := true } .owning
  | queue (held : store.inFlight = true) : Operation store request .claiming store .queued
  | reclaim {piece} (stored : store.record = some piece) (finished : piece.isFinished = true) :
      Operation store request .owning store (.releasing (.ok piece))
  | prepare (unfinished : ¬ store.Finished) : Operation store request .owning store .starting
  | unread {error} : Operation store request .owning store (.releasing (.error error))
  | start : Operation store request .starting { store with record := some request.piece }
      (.downloading request.piece)
  | unstarted {error} :
      Operation store request .starting store (.releasing (.error error))
  | release {result} :
      Operation store request (.releasing result) store.removeAndNotify (.returned result)
  | complete {piece record completion} (stored : store.record = some record) :
      Operation store request (.finishing piece completion) store
        (.storing piece (completion.apply record))
  | incomplete {piece completion} :
      Operation store request (.finishing piece completion) store (.downloading piece)
  | store {piece done} :
      Operation store request (.storing piece done) { store with record := some done } .finished
  | unstored {piece done} :
      Operation store request (.storing piece done) store (.downloading piece)
  | finished : Operation store request .finished store.removeAndNotify .ended
  | keep : Operation store request .failing store .failed
  | discard (unfinished : ¬ store.Finished) : Operation store request .failing store .discarding
  | drop : Operation store request .discarding { store with record := none } .failed
  | undropped : Operation store request .discarding store .failed
  | failed : Operation store request .failed store.removeAndNotify .ended

inductive Turn : DownloadEvent → Position → Position → Prop where
  | call {caller request} : Turn (.call caller request) .idle .waiting
  | wake {caller} : Turn (.wake caller) .asleep .watching
  | retry {caller} : Turn (.wake caller) .queued .waiting
  | timeout {caller} : Turn (.timeout caller) .asleep (.expiring true)
  | finish {caller piece completion} :
      Turn (.finish caller completion) (.downloading piece) (.finishing piece completion)
  | fail {caller piece} : Turn (.fail caller) (.downloading piece) .failing

def DownloadEvent.caller : DownloadEvent → Nat
  | .call caller _ | .advance caller _ | .wake caller => caller
  | .timeout caller | .finish caller _ | .fail caller => caller

/-- What a step of one caller means for the claim on the piece. -/
inductive Transfer (store : PieceStore) (position : Position) (after : PieceStore)
    (next : Position) : Prop where
  | keep (entry : after.inFlight = store.inFlight) (owner : next.owns = position.owns)
  | take (free : store.inFlight = false) (taken : after.inFlight = true)
  | give (owner : position.owns = true) (left : next.owns = false)

namespace Position

variable {store after : PieceStore} {request : DownloadRequest} {fault : Option DFError}
  {position next : Position}

theorem operation_of_look {pending} (reads : position.pending = some pending) :
    Operation store request position store (look (store.getPiece fault) pending) := by
  unfold look
  split
  next piece read =>
    split
    next finished =>
      cases fault with
      | none => exact .found reads (Except.ok.inj read) finished
      | some error => cases read
    next => exact .pending reads
  next => exact .missing reads

theorem sweep_cases (store : PieceStore) (fault : Option DFError) (keep delete : Position) :
    sweep (store.getPiece fault) keep delete = keep ∨
      ¬ store.Finished ∧ sweep (store.getPiece fault) keep delete = delete := by
  cases fault with
  | some error => exact .inl rfl
  | none =>
    cases stored : store.record with
    | none => simp [sweep, getPiece, Finished, stored]
    | some piece =>
      by_cases finished : piece.isFinished = true
      · simp [sweep, getPiece, stored, finished]
      · simp [sweep, getPiece, Finished, stored, finished]

theorem operation_of_advance (moved : position.advance store request fault = some (after, next)) :
    Operation store request position after next := by
  cases position with
  | idle | asleep | queued | downloading | returned | ended => cases moved
  | waiting | listening | doubting =>
    cases moved
    exact operation_of_look rfl
  | watching =>
    cases moved
    split
    next held => exact .listen held
    next free => exact .doubt (Bool.eq_false_iff.mpr free)
  | checking again =>
    cases moved
    split
    next held => exact .resume held
    next free =>
      cases again with
      | true => exact .expire (Bool.eq_false_iff.mpr free)
      | false => exact .recheck (Bool.eq_false_iff.mpr free)
  | expiring timedOut =>
    cases moved
    rcases sweep_cases store fault (giveUp timedOut) (deleting timedOut) with
      same | ⟨unfinished, same⟩
    · rw [same]
      exact .spare
    · rw [same]
      exact .condemn unfinished
  | deleting timedOut =>
    cases fault with
    | none =>
      cases moved
      exact .delete
    | some error =>
      cases moved
      exact .undeleted
  | withdrawing =>
    cases moved
    exact .withdraw
  | claiming =>
    simp only [advance, claim] at moved
    by_cases held : store.inFlight = true
    · simp only [held, if_true] at moved
      cases moved
      exact .queue held
    · simp only [held] at moved
      cases moved
      exact .claim (Bool.eq_false_iff.mpr held)
  | owning =>
    cases fault with
    | some error =>
      cases moved
      exact .unread
    | none =>
      simp only [advance, getPiece] at moved
      cases stored : store.record with
      | none =>
        simp only [stored] at moved
        cases moved
        exact .prepare (by simp [Finished, stored])
      | some piece =>
        simp only [stored] at moved
        cases moved
        split
        next finished => exact .reclaim stored finished
        next unfinished =>
          exact .prepare (by simp [Finished, stored, unfinished])
  | starting =>
    cases fault with
    | none =>
      cases moved
      exact .start
    | some error =>
      cases moved
      exact .unstarted
  | releasing result =>
    cases moved
    exact .release
  | finishing piece completion =>
    cases fault with
    | some error =>
      cases moved
      exact .incomplete
    | none =>
      simp only [advance, getPiece] at moved
      cases stored : store.record with
      | none =>
        simp only [stored] at moved
        cases moved
        exact .incomplete
      | some record =>
        simp only [stored] at moved
        cases moved
        exact .complete stored
  | storing piece done =>
    cases fault with
    | none =>
      cases moved
      exact .store
    | some error =>
      cases moved
      exact .unstored
  | failing =>
    cases moved
    rcases sweep_cases store fault failed discarding with same | ⟨unfinished, same⟩
    · rw [same]
      exact .keep
    · rw [same]
      exact .discard unfinished
  | discarding =>
    cases fault with
    | none =>
      cases moved
      exact .drop
    | some error =>
      cases moved
      exact .undropped
  | finished =>
    cases moved
    exact .finished
  | failed =>
    cases moved
    exact .failed

/-- The positions around a look at the record are all in `wait_for_piece_finished`. -/
theorem waits_of_pending {pending} (reads : position.pending = some pending) :
    position.owns = false ∧ pending.owns = false ∧ pending.overdue = false ∧ pending.Truthful := by
  cases position with
  | waiting | listening | doubting =>
    cases reads
    exact ⟨rfl, rfl, rfl, trivial⟩
  | _ => cases reads

/-- The entry of the notifier map is put in by a caller that then owns it and taken out by
the caller that owned it, unless a timeout comes in between. -/
theorem advance_spec (moved : position.advance store request fault = some (after, next))
    (patient : position.overdue = false) (truthful : position.Truthful) :
    Transfer store position after next ∧ next.overdue = false ∧ next.Truthful := by
  cases operation_of_advance moved with
  | found reads _ finished =>
    exact ⟨.keep rfl (waits_of_pending reads).1.symm, rfl, finished⟩
  | pending reads =>
    obtain ⟨here, there, patient, truthful⟩ := waits_of_pending reads
    exact ⟨.keep rfl (there.trans here.symm), patient, truthful⟩
  | missing reads => exact ⟨.keep rfl (waits_of_pending reads).1.symm, rfl, trivial⟩
  | listen | doubt | resume | recheck | expire | queue => exact ⟨.keep rfl rfl, rfl, trivial⟩
  | @spare timedOut | @delete timedOut | @undeleted timedOut =>
    obtain rfl : timedOut = false := patient
    exact ⟨.keep rfl rfl, rfl, trivial⟩
  | condemn => exact ⟨.keep rfl rfl, patient, trivial⟩
  | withdraw => cases patient
  | claim free => exact ⟨.take free rfl, rfl, trivial⟩
  | reclaim _ finished => exact ⟨.keep rfl rfl, rfl, finished⟩
  | prepare | unread | unstarted => exact ⟨.keep rfl rfl, rfl, trivial⟩
  | start => exact ⟨.keep rfl rfl, rfl, rfl⟩
  | @release result =>
    refine ⟨.give rfl rfl, rfl, ?_⟩
    cases result with
    | ok piece => exact truthful
    | error error => trivial
  | complete | incomplete | unstored => exact ⟨.keep rfl rfl, rfl, truthful⟩
  | store | keep | discard | drop | undropped => exact ⟨.keep rfl rfl, rfl, trivial⟩
  | finished | failed => exact ⟨.give rfl rfl, rfl, trivial⟩

end Position

theorem Turn.spec {download : Download} {event position next} (turn : Turn event position next)
    (prompt : download.Prompt event) (truthful : position.Truthful) :
    next.owns = position.owns ∧ next.overdue = false ∧ next.Truthful := by
  cases turn with
  | timeout => cases prompt
  | finish => exact ⟨rfl, rfl, truthful⟩
  | _ => exact ⟨rfl, rfl, trivial⟩

namespace Download

variable {download target : Download} {event : DownloadEvent}

/-- A step is an operation of its caller or a turn of it; the others stay where they are. -/
theorem step_cases (moved : Step download event target) :
    (∀ other, other ≠ event.caller → target.callers other = download.callers other) ∧
      ((target.store = download.store ∧ Turn event (download.callers event.caller).position
          (target.callers event.caller).position) ∨
        ∃ fault, event = .advance event.caller fault ∧
          (download.callers event.caller).position.advance download.store
            (download.callers event.caller).request fault =
              some (target.store, (target.callers event.caller).position)) := by
  have turned {caller : Nat} {position next : Position}
      (here : (download.callers caller).position = position) (turn : Turn event position next) :
      (∀ other, other ≠ caller →
        (download.move caller download.store next).callers other = download.callers other) ∧
      (download.move caller download.store next).store = download.store ∧
      Turn event (download.callers caller).position
        ((download.move caller download.store next).callers caller).position := by
    rw [here, move_position_self]
    exact ⟨fun _ => move_callers_other download _ _, rfl, turn⟩
  cases event with
  | call caller request =>
    simp only [Step, Download.step] at moved
    split at moved
    next idle =>
      cases moved
      refine ⟨fun other different => if_neg different, .inl ⟨rfl, ?_⟩⟩
      simp only [DownloadEvent.caller, idle, if_true]
      exact .call
    next => cases moved
  | advance caller fault =>
    obtain ⟨⟨after, next⟩, advanced, rfl⟩ := Option.map_eq_some_iff.mp moved
    refine ⟨fun _ => move_callers_other download after next, .inr ⟨fault, rfl, ?_⟩⟩
    rw [DownloadEvent.caller, move_position_self]
    exact advanced
  | wake caller =>
    simp only [Step, Download.step] at moved
    split at moved
    next asleep =>
      cases moved
      exact (turned asleep .wake).imp_right .inl
    next queued =>
      cases moved
      exact (turned queued .retry).imp_right .inl
    next => cases moved
  | timeout caller =>
    simp only [Step, Download.step] at moved
    split at moved
    next asleep =>
      cases moved
      exact (turned asleep .timeout).imp_right .inl
    next => cases moved
  | finish caller completion =>
    simp only [Step, Download.step] at moved
    split at moved
    next downloading =>
      cases moved
      exact (turned downloading .finish).imp_right .inl
    next => cases moved
  | fail caller =>
    simp only [Step, Download.step] at moved
    split at moved
    next downloading =>
      cases moved
      exact (turned downloading .fail).imp_right .inl
    next => cases moved

structure Exclusive (download : Download) : Prop where
  entry : ∀ caller, (download.callers caller).position.owns = true →
    download.store.inFlight = true
  single : ∀ first second, (download.callers first).position.owns = true →
    (download.callers second).position.owns = true → first = second
  patient : ∀ caller, (download.callers caller).position.overdue = false
  truthful : ∀ caller, (download.callers caller).position.Truthful

theorem Initial.exclusive (initial : download.Initial) : download.Exclusive := by
  obtain ⟨-, idle⟩ := initial
  constructor
  · intro caller owner
    rw [idle] at owner
    cases owner
  · intro first second owner
    rw [idle] at owner
    cases owner
  · intro caller
    rw [idle]
    rfl
  · intro caller
    rw [idle]
    trivial

theorem Exclusive.moved (exclusive : download.Exclusive) {caller}
    (others : ∀ other, other ≠ caller → target.callers other = download.callers other)
    (transfer : Transfer download.store (download.callers caller).position target.store
      (target.callers caller).position) (patient : (target.callers caller).position.overdue = false)
    (truthful : (target.callers caller).position.Truthful) : target.Exclusive := by
  have everywhere (property : Position → Prop)
      (here : property (target.callers caller).position)
      (before : ∀ other, property (download.callers other).position) (other : Nat) :
      property (target.callers other).position := by
    by_cases same : other = caller
    · rw [same]
      exact here
    · rw [others other same]
      exact before other
  have owned (other : Nat) (different : other ≠ caller)
      (owner : (target.callers other).position.owns = true) :
      (download.callers other).position.owns = true := by
    rw [← others other different]
    exact owner
  suffices (∀ other, (target.callers other).position.owns = true →
      target.store.inFlight = true) ∧
      ∀ first second, (target.callers first).position.owns = true →
        (target.callers second).position.owns = true → first = second from
    ⟨this.1, this.2, everywhere (·.overdue = false) patient exclusive.patient,
      everywhere Position.Truthful truthful exclusive.truthful⟩
  cases transfer with
  | keep entry owner =>
    have owners (other : Nat) : (target.callers other).position.owns =
        (download.callers other).position.owns := by
      by_cases same : other = caller
      · rw [same]
        exact owner
      · rw [others other same]
    simp only [owners, entry]
    exact ⟨exclusive.entry, exclusive.single⟩
  | take free taken =>
    -- The map had no entry, so nobody else can own one.
    have alone (other : Nat) (owner : (target.callers other).position.owns = true) :
        other = caller := by
      by_contra different
      have held := exclusive.entry other (owned other different owner)
      rw [free] at held
      cases held
    exact ⟨fun _ _ => taken, fun first second one two =>
      (alone first one).trans (alone second two).symm⟩
  | give owner left =>
    -- Only the caller owned the entry, and it no longer does.
    have nobody (other : Nat) : (target.callers other).position.owns ≠ true := by
      intro holds
      by_cases same : other = caller
      · rw [same, left] at holds
        cases holds
      · exact same (exclusive.single other caller (owned other same holds) owner)
    exact ⟨fun other holds => absurd holds (nobody other), fun first _ holds =>
      absurd holds (nobody first)⟩

theorem Exclusive.step (exclusive : download.Exclusive)
    (moved : Guarded Step Prompt download event target) : target.Exclusive := by
  obtain ⟨moved, prompt⟩ := moved
  obtain ⟨others, ⟨same, turn⟩ | ⟨fault, -, advanced⟩⟩ := step_cases moved
  · obtain ⟨owner, patient, truthful⟩ := turn.spec prompt (exclusive.truthful event.caller)
    exact exclusive.moved others (.keep (congrArg inFlight same) owner) patient truthful
  · obtain ⟨transfer, patient, truthful⟩ := Position.advance_spec advanced
      (exclusive.patient event.caller) (exclusive.truthful event.caller)
    exact exclusive.moved others transfer patient truthful

theorem exclusive_of_reachable (reached : Reachable Initial (Guarded Step Prompt) download) :
    download.Exclusive :=
  reached.invariant Exclusive (fun _ initial => initial.exclusive)
    fun _ _ _ exclusive moved => exclusive.step moved

theorem Position.owns_of_downloads {position : Position} (downloads : position.downloads = true) :
    position.owns = true := by
  cases position <;> first | rfl | cases downloads

/-- While no wait times out, at most one caller is between the receipt of an unfinished
piece and the removal of the notifier in its terminal call, and every piece that is
handed out without a download is finished. -/
theorem single_downloader (reached : Reachable Initial (Guarded Step Prompt) download) :
    (∀ first second, (download.callers first).position.downloads = true →
      (download.callers second).position.downloads = true → first = second) ∧
    ∀ caller piece,
      ((download.callers caller).position = .downloading piece → piece.isFinished = false) ∧
      ((download.callers caller).position = .returned (.ok piece) → piece.isFinished = true) := by
  have exclusive := exclusive_of_reachable reached
  refine ⟨?_, ?_⟩
  · intro first second one two
    exact exclusive.single first second (Position.owns_of_downloads one)
      (Position.owns_of_downloads two)
  · intro caller piece
    have truthful := exclusive.truthful caller
    constructor
    · intro here
      rw [here] at truthful
      exact truthful
    · intro here
      rw [here] at truthful
      exact truthful

theorem prompt_of_call (download : Download)
    (calls : event.calls = true) : download.Prompt event := by
  cases event with
  | timeout => cases calls
  | _ => trivial

theorem reachable_of_calls {start events} (initial : start.Initial)
    (calls : ∀ event ∈ events, event.calls = true)
    (performed : perform step start events = some download) :
    Reachable Initial (Guarded Step Prompt) download := by
  refine (Reachable.start initial).perform ?_ performed
  intro event listed before after moved
  exact ⟨moved, prompt_of_call before (calls event listed)⟩

def abandoned : Download :=
  { store :=
      { record := some ⟨0, 0, 4, "", none, none⟩
        inFlight := false }
    callers := fun _ => ⟨⟨0, 0, 4⟩, .idle⟩ }

/-- The first caller waits for the abandoned download and gives it up; the second finds no
record; both claim the piece. -/
def rivals : List DownloadEvent :=
  [.call 0 ⟨0, 0, 4⟩] ++ List.replicate 8 (.advance 0 none) ++
    [.call 1 ⟨0, 0, 4⟩, .advance 1 none] ++ List.replicate 3 (.advance 0 none) ++
    [.advance 1 none]

theorem single_downloader_of_rivals :
    ∃ download, perform step abandoned rivals = some download ∧
      (download.callers 0).position = .downloading ⟨0, 0, 4, "", none, none⟩ ∧
      (download.callers 1).position = .queued ∧
      ∀ other, (download.callers other).position.downloads = true → other = 0 := by
  obtain ⟨download, performed, first, second⟩ : ∃ download,
      perform step abandoned rivals = some download ∧
        (download.callers 0).position = .downloading ⟨0, 0, 4, "", none, none⟩ ∧
        (download.callers 1).position = .queued := ⟨_, rfl, rfl, rfl⟩
  refine ⟨download, performed, first, second, ?_⟩
  intro other downloads
  have reached := reachable_of_calls ⟨rfl, fun _ => rfl⟩ (by decide) performed
  apply (single_downloader reached).1 other 0 downloads
  rw [first]
  rfl

end Download

end DragonflyClient.Storage
