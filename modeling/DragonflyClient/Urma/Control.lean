import DragonflyClient.Library.Transition
import DragonflyClient.Library.Table
import DragonflyClient.Urma.Error
import DragonflyClient.Urma.Rendezvous

/-!
The control dispatcher of one lane (`urma/control.rs`).

A step is one critical section on `routes` or `retired`, or one operation on a
channel or on the admission semaphore; the tasks interleave between steps.  What a
task does next is part of the state: where the reader is, which registrations are
under way, which `close_all` still has senders to notify, and how far the drop of
each `TransferControl` has come.
-/

namespace DragonflyClient.Urma

open Library Rendezvous

def frameQueueCapacity : Nat := 16

/-- Why a lane was closed, with the values its message prints. -/
inductive Closure where
  | writeFailed (error : DFError)
  | readFailed (error : DFError)
  | zeroTransferId
  | registration (error : Error)
  | incomingClosed
  | unexpectedFrame (frame : Frame)
  | unknownTransfer (transferId : TransferId)
  | aborted (message : String)
  deriving DecidableEq

inductive TransferEvent where
  | frame (frame : Frame)
  | closed (closure : Closure)
  deriving DecidableEq

inductive ReceiveError where
  | closed (closure : Closure)
  | inboxClosed
  deriving DecidableEq

/-- How far a `TransferControl` is.  `finish` and then `drop` take its route away; a drop
without `finish` puts its id into `retired`; then the inbox and at last the permit
are dropped. -/
inductive ControlPhase where
  | live
  | finished
  | removed
  | detached
  | released
  | gone
  deriving DecidableEq

/-- One `TransferControl`; `results` are the results of its calls of `receive`. -/
structure TransferControl where
  transferId : TransferId
  phase : ControlPhase
  completed : Bool
  inbox : List TransferEvent
  results : List (Except ReceiveError Frame)
  deriving DecidableEq

def TransferControl.new (transferId : TransferId) : TransferControl :=
  { transferId, phase := .live, completed := false, inbox := [], results := [] }

def TransferControl.listening (control : TransferControl) : Bool :=
  control.phase ≠ .released ∧ control.phase ≠ .gone

def TransferControl.push (control : TransferControl) (event : TransferEvent) : TransferControl :=
  { control with inbox := control.inbox ++ [event] }

/-- A call of `register_transfer` that holds its permit, by the reader if it has a
request; `checked` once the id was not found in `retired`. -/
structure Registration where
  transferId : TransferId
  request : Option PieceRequest
  checked : Bool
  deriving DecidableEq

/-- A `close_all` that has drained the routes. -/
structure Closer where
  closure : Closure
  senders : List Nat
  deriving DecidableEq

inductive Reader where
  | idle
  | admitting (transferId : TransferId) (request : PieceRequest)
  | registering
  | handing (control : Nat) (request : PieceRequest)
  | discarding (control : Nat)
  | looking (frame : Frame) (transferId : TransferId)
  | missing (transferId : TransferId)
  | dispatching (frame : Frame) (transferId : TransferId) (control : Nat)
  | stale (transferId : TransferId)
  | closing (closure : Closure)
  | stopped
  deriving DecidableEq

/-- A lane with everything its tasks share.  `orphans` are the controls that were dropped
with the queue of incoming transfers.  `log` records each lookup of a route with
the control it found, `stream` every frame read, and `drained` that some `close_all`
has emptied the routes. -/
structure LaneControl where
  maxConcurrentTransfers : Nat
  routes : Table TransferId Nat
  retired : List TransferId
  controls : List TransferControl
  registrations : List Registration
  incoming : List (Nat × PieceRequest)
  orphans : List Nat
  permits : Nat
  replies : List Frame
  reader : Reader
  writing : Bool
  owned : Bool
  incomingOpen : Bool
  closers : List Closer
  shutdown : Bool
  stream : List Frame
  log : List (Frame × Option Nat)
  drained : Bool

inductive ControlEvent where
  | read (result : Except DFError Frame)
  | admitTransfer
  | hand
  | discarded
  | lookup
  | checkRetired
  | forward
  | forget
  | close
  | stop
  | registerStart (transferId : TransferId)
  | registerCheck (registration : Nat)
  | registerInsert (registration : Nat)
  | accept
  | receive (control : Nat)
  | finish (control : Nat)
  | drop (control : Nat)
  | retire (control : Nat)
  | dropInbox (control : Nat)
  | dropPermit (control : Nat)
  | writeFailed (error : DFError)
  | abort (message : String)
  | dropLane
  | closeIncoming
  | notify (closer sender : Nat)
  | closed (closer : Nat)
  deriving DecidableEq

namespace LaneControl

def spawn (maxConcurrentTransfers : Nat) : Result LaneControl :=
  if maxConcurrentTransfers = 0 then
    .error (.protocol "URMA lane must allow at least one concurrent transfer")
  else
    .ok
      { maxConcurrentTransfers, routes := ∅, retired := [], controls := [], registrations := []
        incoming := [], orphans := [], permits := maxConcurrentTransfers, replies := []
        reader := .idle, writing := true, owned := true, incomingOpen := true, closers := []
        shutdown := false, stream := [], log := [], drained := false }

def withControl (lane : LaneControl) (index : Nat) (change : TransferControl → TransferControl) :
    LaneControl :=
  { lane with controls := lane.controls.modify index change }

def senders (lane : LaneControl) : List Nat := lane.routes.entries.map (·.2)

def connected (lane : LaneControl) (index : Nat) : Bool :=
  decide (index ∈ lane.senders) ||
    (match lane.reader with
      | .dispatching _ _ control => control == index
      | _ => false) ||
    lane.closers.any fun closer => decide (index ∈ closer.senders)

/-- `close_all` up to the notifications. -/
def drain (lane : LaneControl) (closure : Closure) : LaneControl :=
  { lane with
    routes := ∅, drained := true
    closers := lane.closers ++ [{ closure, senders := lane.senders }] }

/-- The `BUSY` reply of the reader. -/
def busy (transferId : TransferId) : Frame :=
  .error transferId ⟨errorCodeBusy, "URMA lane transfer admission is full"⟩

/-- What the reader does with a frame before it takes a lock. -/
def receiveFrame (lane : LaneControl) (frame : Frame) : LaneControl :=
  let lane := { lane with stream := lane.stream ++ [frame] }
  match frame with
  | .request transferId request =>
    if transferId = 0 then
      { lane with reader := .closing .zeroTransferId }
    else
      { lane with reader := .admitting transferId request }
  | _ =>
    match frame.transferId with
    | none => { lane with reader := .closing (.unexpectedFrame frame) }
    | some transferId => { lane with reader := .looking frame transferId }

def readerStep (lane : LaneControl) : ControlEvent → Option LaneControl
  | .read result =>
    match lane.reader, result with
    | .idle, .error error => some { lane with reader := .closing (.readFailed error) }
    | .idle, .ok frame => some (lane.receiveFrame frame)
    | _, _ => none
  | .admitTransfer =>
    match lane.reader with
    | .admitting transferId request =>
      if lane.permits = 0 then
        some { lane with reader := .idle, replies := lane.replies ++ [busy transferId] }
      else
        some
          { lane with
            reader := .registering, permits := lane.permits - 1
            registrations := lane.registrations ++ [⟨transferId, some request, false⟩] }
    | _ => none
  | .hand =>
    match lane.reader with
    | .handing control request =>
      if lane.incomingOpen then
        if lane.incoming.length < lane.maxConcurrentTransfers then
          some { lane with reader := .idle, incoming := lane.incoming ++ [(control, request)] }
        else
          none
      else
        some { lane with reader := .discarding control, orphans := control :: lane.orphans }
    | _ => none
  | .discarded =>
    match lane.reader with
    | .discarding control =>
      if (lane.controls[control]?.map TransferControl.phase) = some .gone then
        some { lane with reader := .closing .incomingClosed }
      else
        none
    | _ => none
  | .lookup =>
    match lane.reader with
    | .looking frame transferId =>
      match lane.routes.lookup transferId with
      | some control =>
        some
          { lane with
            reader := .dispatching frame transferId control
            log := lane.log ++ [(frame, some control)] }
      | none =>
        some
          { lane with
            reader := .missing transferId, log := lane.log ++ [(frame, none)] }
    | _ => none
  | .checkRetired =>
    match lane.reader with
    | .missing transferId =>
      if transferId ∈ lane.retired then
        some { lane with reader := .idle }
      else
        some { lane with reader := .closing (.unknownTransfer transferId) }
    | _ => none
  | .forward =>
    match lane.reader with
    | .dispatching frame transferId index =>
      match lane.controls[index]? with
      | none => none
      | some control =>
        if control.listening then
          if control.inbox.length < frameQueueCapacity then
            some
              ({ lane with reader := .idle }.withControl index
                fun found => found.push (.frame frame))
          else
            none
        else
          some { lane with reader := .stale transferId }
    | _ => none
  | .forget =>
    match lane.reader with
    | .stale transferId =>
      some { lane with reader := .idle, routes := lane.routes.erase transferId }
    | _ => none
  | .close =>
    match lane.reader with
    | .closing closure => some { lane.drain closure with reader := .stopped }
    | _ => none
  | .stop =>
    match lane.reader with
    | .idle => if lane.shutdown then some { lane with reader := .stopped } else none
    | _ => none
  | _ => none

/-- A registration that fails gives its permit back; the reader then closes the lane. -/
def refuse (lane : LaneControl) (index : Nat) (registration : Registration) (error : Error) :
    LaneControl :=
  { lane with
    registrations := lane.registrations.eraseIdx index
    permits := lane.permits + 1
    reader := if registration.request.isSome then .closing (.registration error) else lane.reader }

/-- The new control of a registration; the reader hands its own one on. -/
def enroll (lane : LaneControl) (index : Nat) (registration : Registration) : LaneControl :=
  { lane with
    registrations := lane.registrations.eraseIdx index
    routes := lane.routes.insert registration.transferId lane.controls.length
    controls := lane.controls ++ [.new registration.transferId]
    reader := match registration.request with
      | some request => .handing lane.controls.length request
      | none => lane.reader }

/-- The steps of `register`, and of `register_transfer` for callers and reader. -/
def registerStep (lane : LaneControl) : ControlEvent → Option LaneControl
  | .registerStart transferId =>
    if lane.owned then
      if transferId = 0 ∨ lane.permits = 0 then
        some lane
      else
        some
          { lane with
            permits := lane.permits - 1
            registrations := lane.registrations ++ [⟨transferId, none, false⟩] }
    else
      none
  | .registerCheck index =>
    match lane.registrations[index]? with
    | some registration =>
      if registration.checked then
        none
      else if registration.transferId ∈ lane.retired then
        let id := registration.transferId
        some (lane.refuse index registration
          (.protocol s!"retired URMA transfer id {id} cannot be reused"))
      else
        some
          { lane with
            registrations := lane.registrations.set index
              { registration with checked := true } }
    | none => none
  | .registerInsert index =>
    match lane.registrations[index]? with
    | some registration =>
      if registration.checked then
        if (lane.routes.lookup registration.transferId).isSome then
          let id := registration.transferId
          some (lane.refuse index registration
            (.protocol s!"duplicate URMA transfer id {id}"))
        else
          some (lane.enroll index registration)
      else
        none
    | none => none
  | _ => none

/-- The control is still on its way to `accept`. -/
def waiting (lane : LaneControl) (index : Nat) : Bool :=
  decide (index ∈ lane.incoming.map Prod.fst) ||
    match lane.reader with
    | .handing control _ => control == index
    | _ => false

def handedOut (lane : LaneControl) (index : Nat) : Bool :=
  !lane.waiting index && decide (index ∉ lane.orphans)

/-- What a call of `receive` returns, and the inbox behind it; `none` while it waits. -/
def receiveResult (lane : LaneControl) (index : Nat) (control : TransferControl) :
    Option (Except ReceiveError Frame × List TransferEvent) :=
  match control.inbox with
  | .frame frame :: rest => some (.ok frame, rest)
  | .closed closure :: rest => some (.error (.closed closure), rest)
  | [] => if lane.connected index then none else some (.error .inboxClosed, [])

/-- The steps of the callers that hold a `TransferControl`, and of its drop. -/
def controlStep (lane : LaneControl) : ControlEvent → Option LaneControl
  | .accept =>
    if lane.owned then
      match lane.incoming with
      | _ :: rest => some { lane with incoming := rest }
      | [] => none
    else
      none
  | .receive index =>
    match lane.controls[index]? with
    | some control =>
      if control.phase = .live ∧ lane.handedOut index then
        (lane.receiveResult index control).map fun (result, inbox) =>
          lane.withControl index fun control =>
            { control with inbox, results := control.results ++ [result] }
      else
        none
    | none => none
  | .finish index =>
    match lane.controls[index]? with
    | some control =>
      if control.phase = .live ∧ lane.handedOut index then
        some ({ lane with routes := lane.routes.erase control.transferId }.withControl index
          fun control => { control with phase := .finished, completed := true })
      else
        none
    | none => none
  | .drop index =>
    match lane.controls[index]? with
    | some control =>
      if control.phase = .live ∧ ¬ lane.waiting index ∨ control.phase = .finished then
        some ({ lane with routes := lane.routes.erase control.transferId }.withControl index
          fun control =>
            { control with phase := if control.completed then .detached else .removed })
      else
        none
    | none => none
  | .retire index =>
    match lane.controls[index]? with
    | some control =>
      if control.phase = .removed then
        some ({ lane with retired := control.transferId :: lane.retired }.withControl index
          fun control => { control with phase := .detached })
      else
        none
    | none => none
  | .dropInbox index =>
    match lane.controls[index]? with
    | some control =>
      if control.phase = .detached then
        some (lane.withControl index fun control =>
          { control with phase := .released, inbox := [] })
      else
        none
    | none => none
  | .dropPermit index =>
    match lane.controls[index]? with
    | some control =>
      if control.phase = .released then
        some ({ lane with permits := lane.permits + 1 }.withControl index
          fun control => { control with phase := .gone })
      else
        none
    | none => none
  | _ => none

/-- The steps of `close_all` and of its callers other than the reader. -/
def closeStep (lane : LaneControl) : ControlEvent → Option LaneControl
  | .writeFailed error =>
    if lane.writing then
      some { lane.drain (.writeFailed error) with writing := false }
    else
      none
  | .abort message => if lane.owned then some (lane.drain (.aborted message)) else none
  | .dropLane =>
    if lane.owned ∧ lane.registrations.all (·.request.isSome) then
      some
        { lane.drain (.aborted "URMA lane control owner was dropped") with owned := false }
    else
      none
  | .closeIncoming =>
    if ¬ lane.owned ∧ lane.incomingOpen then
      some
        { lane with
          incomingOpen := false, incoming := []
          orphans := lane.orphans ++ lane.incoming.map Prod.fst }
    else
      none
  | .notify index sender =>
    match lane.closers[index]? with
    | some closer =>
      if sender ∈ closer.senders then
        some
          ({ lane with
            closers := lane.closers.set index
              { closer with senders := closer.senders.erase sender } }.withControl sender
            fun control =>
              if control.listening ∧ control.inbox.length < frameQueueCapacity then
                control.push (.closed closer.closure)
              else
                control)
      else
        none
    | none => none
  | .closed index =>
    match lane.closers[index]? with
    | some closer =>
      if closer.senders = [] then
        some { lane with closers := lane.closers.eraseIdx index, shutdown := true }
      else
        none
    | none => none
  | _ => none

def step (lane : LaneControl) (event : ControlEvent) : Option LaneControl :=
  match event with
  | .read _ | .admitTransfer | .hand | .discarded | .lookup | .checkRetired | .forward | .forget
  | .close | .stop => lane.readerStep event
  | .registerStart _ | .registerCheck _ | .registerInsert _ => lane.registerStep event
  | .accept | .receive _ | .finish _ | .drop _ | .retire _ | .dropInbox _ | .dropPermit _ =>
    lane.controlStep event
  | .writeFailed _ | .abort _ | .dropLane | .closeIncoming | .notify _ _ | .closed _ =>
    lane.closeStep event

def perform (lane : LaneControl) : List ControlEvent → Option LaneControl
  | [] => some lane
  | event :: events => (lane.step event).bind (·.perform events)

def Initial (lane : LaneControl) : Prop :=
  ∃ maxConcurrentTransfers, spawn maxConcurrentTransfers = .ok lane

def Step (lane : LaneControl) (event : ControlEvent) (target : LaneControl) : Prop :=
  lane.step event = some target

end LaneControl

end DragonflyClient.Urma
