import DragonflyClient.Server.Upload
import DragonflyClient.Urma.Buffer

/-!
The transmit ring of the uploader (`handle_piece` in `server/urma.rs`).

A window is sent from `current` while the next one is filled into `spare`, if
there is a spare lease.  What the environment decides, whether a waiter asks for
the spare lease and how each call of the session and the fabric ends, is an
argument.
-/

namespace DragonflyClient.Server

open Library Rendezvous Urma

/-- Where the bytes of a Piece come from.  A reader has no position of its own: it
gives its next bytes, whatever offset is asked for. -/
inductive PieceSource where
  | mapped (content : List UInt8)
  | reader (rest : List UInt8)

namespace PieceSource

def fillPart (source : PieceSource) (offset length : Nat) :
    ClientResult (PieceSource × List UInt8) :=
  match source with
  | .mapped content =>
    if 2 ^ 64 ≤ offset + length then
      .error .invalidParameter
    else if content.length < offset + length then
      .error (.unknown
        s!"URMA mmap piece underflow at offset {offset} length {length}")
    else
      .ok (.mapped content, (content.drop offset).take length)
  | .reader rest =>
    if rest.length < length then
      .error (.io "early eof")
    else
      .ok (.reader (rest.drop length), rest.take length)

def fillParts (source : PieceSource) (offset : Nat) :
    List Nat → ClientResult (PieceSource × List (List UInt8))
  | [] => .ok (source, [])
  | length :: lengths =>
    match source.fillPart offset length with
    | .error error => .error error
    | .ok (source, part) =>
      if 2 ^ 64 ≤ offset + length then
        .error .invalidParameter
      else
        match fillParts source (offset + length) lengths with
        | .error error => .error error
        | .ok (source, parts) => .ok (source, part :: parts)

def fill (source : PieceSource) (pieceOffset : Nat) (lease : TxWindowLease) :
    ClientResult (PieceSource × List (List UInt8)) :=
  source.fillParts pieceOffset (lease.spans.map RegisteredSpan.length)

end PieceSource

structure Piece where
  length : UInt64
  chunkSize : UInt64
  maxInflightChunks : UInt32

def Piece.chunkLengths (piece : Piece) (offset : UInt64) : ClientResult (List Nat) :=
  txWindowChunkLengths piece.length piece.chunkSize piece.maxInflightChunks offset

structure SentWindow where
  chunkLengths : List Nat
  parts : List (List UInt8)
  deriving DecidableEq

inductive Failure where
  | parameter
  | acquire (error : Error)
  | fill (error : DFError)
  | ready (error : Error)
  | reshape (error : Error)
  | send (error : Error)
  | recycle (error : Error)
  | mismatch

/-- The leases of the loop, what they hold, and what has been done so far. -/
structure Ring where
  source : PieceSource
  current : TxWindowLease
  parts : List (List UInt8)
  spare : Option TxWindowLease
  sent : UInt64
  sends : List SentWindow
  acquired : List LeaseRecycle
  recycled : List LeaseRecycle

structure Turn where
  waiting : Bool
  recycled : Result Unit
  sent : Result Unit

structure Upload where
  acquire : List Nat → Result TxWindowLease
  pipelineDepth : Nat
  waiting : Bool
  tryAcquire : List Nat → Result TxWindowLease
  ready : Result Unit
  turns : Nat → Turn
  recycledCurrent : Result Unit
  recycledSpare : Result Unit

def checkedAdd64 (left right : UInt64) : Option UInt64 :=
  if 2 ^ 64 ≤ left.toNat + right.toNat then none else some (left + right)

namespace Ring

def optionalLease (piece : Piece) (upload : Upload) (firstWindowLen : UInt64) :
    Except Failure (Option TxWindowLease) :=
  if 1 < upload.pipelineDepth ∧ firstWindowLen < piece.length ∧ ¬ upload.waiting then
    match piece.chunkLengths firstWindowLen with
    | .error _ => .error .parameter
    | .ok nextLengths =>
      match upload.tryAcquire nextLengths with
      | .ok lease => .ok (some lease)
      | .error (.bufferUnavailable ..) => .ok none
      | .error error => .error (.acquire error)
  else
    .ok none

/-- `handle_piece` up to the send loop. -/
def start (piece : Piece) (source : PieceSource) (upload : Upload) : Except Failure Ring :=
  match piece.chunkLengths 0 with
  | .error _ => .error .parameter
  | .ok firstLengths =>
    match upload.acquire firstLengths with
    | .error error => .error (.acquire error)
    | .ok current =>
      match source.fill 0 current with
      | .error error => .error (.fill error)
      | .ok (source, parts) =>
        match optionalLease piece upload (UInt64.ofNat current.length) with
        | .error failure => .error failure
        | .ok spare =>
          match upload.ready with
          | .error error => .error (.ready error)
          | .ok () =>
            .ok
              { source, current, parts, spare, sent := 0, sends := []
                acquired := current.core :: (spare.map TxWindowLease.core).toList
                recycled := [] }

/-- A required waiter gets the spare lease. -/
def yieldSpare (turn : Turn) (ring : Ring) : Ring × Except Failure Unit :=
  match turn.waiting, ring.spare with
  | true, some lease =>
    match turn.recycled with
    | .error error => ({ ring with spare := none }, .error (.recycle error))
    | .ok () =>
      ({ ring with spare := none, recycled := ring.recycled ++ [lease.core] }, .ok ())
  | _, _ => (ring, .ok ())

/-- The call of `send_next_registered_window` with the current lease, which comes back
as it went in. -/
def send (ring : Ring) : Ring :=
  { ring with
    sends := ring.sends ++
      [{ chunkLengths := ring.current.layouts.map TxLeaseLayout.length, parts := ring.parts }] }

/-- Send the current window and fill the next one into the spare lease meanwhile. -/
def overlap (turn : Turn) (nextOffset : UInt64) (nextLengths : List Nat) (next : TxWindowLease)
    (ring : Ring) : Ring × Except Failure Unit :=
  match next.reshape nextLengths with
  | (_, .error error) => (ring, .error (.reshape error))
  | (next, .ok ()) =>
    let ring := ring.send
    match turn.sent, ring.source.fill nextOffset.toNat next with
    | .error error, _ => (ring, .error (.send error))
    | .ok (), .error error =>
      ({ ring with spare := none, recycled := ring.recycled ++ [ring.current.core, next.core] },
        .error (.fill error))
    | .ok (), .ok (source, parts) =>
      ({ ring with source, parts, current := next, spare := some ring.current }, .ok ())

def reuse (turn : Turn) (nextOffset : UInt64) (nextLengths : List Nat) (ring : Ring) :
    Ring × Except Failure Unit :=
  let ring := ring.send
  match turn.sent with
  | .error error => (ring, .error (.send error))
  | .ok () =>
    match ring.current.reshape nextLengths with
    | (returned, .error error) => ({ ring with current := returned }, .error (.reshape error))
    | (returned, .ok ()) =>
      match ring.source.fill nextOffset.toNat returned with
      | .error error =>
        ({ ring with current := returned, recycled := ring.recycled ++ [returned.core] },
          .error (.fill error))
      | .ok (source, parts) => ({ ring with source, parts, current := returned }, .ok ())

def advance (piece : Piece) (turn : Turn) (nextOffset : UInt64) (ring : Ring) :
    Ring × Except Failure Unit :=
  if nextOffset < piece.length then
    match piece.chunkLengths nextOffset with
    | .error _ => (ring, .error .parameter)
    | .ok nextLengths =>
      match ring.spare with
      | some next => ring.overlap turn nextOffset nextLengths next
      | none => ring.reuse turn nextOffset nextLengths
  else
    match turn.sent with
    | .error error => (ring.send, .error (.send error))
    | .ok () => (ring.send, .ok ())

def iterate (piece : Piece) (turn : Turn) (ring : Ring) : Ring × Except Failure Unit :=
  match checkedAdd64 ring.sent (UInt64.ofNat ring.current.length) with
  | none => (ring, .error .parameter)
  | some nextOffset =>
    andThen (ring.yieldSpare turn) fun ring =>
      andThen (ring.advance piece turn nextOffset) fun ring =>
        ({ ring with sent := nextOffset }, .ok ())

/-- The send loop; `rounds` bounds the number of iterations. -/
def loop (piece : Piece) (turns : Nat → Turn) : Nat → Nat → Ring → Ring × Except Failure Unit
  | 0, _, ring => (ring, .ok ())
  | rounds + 1, index, ring =>
    if ring.sent < piece.length then
      andThen (ring.iterate piece (turns index)) (loop piece turns rounds (index + 1))
    else
      (ring, .ok ())

def finish (piece : Piece) (upload : Upload) (ring : Ring) : Ring × Except Failure Unit :=
  if ring.sent ≠ piece.length then
    (ring, .error .mismatch)
  else
    match upload.recycledCurrent with
    | .error error => (ring, .error (.recycle error))
    | .ok () =>
      let ring := { ring with recycled := ring.recycled ++ [ring.current.core] }
      match ring.spare with
      | none => (ring, .ok ())
      | some lease =>
        match upload.recycledSpare with
        | .error error => (ring, .error (.recycle error))
        | .ok () => ({ ring with recycled := ring.recycled ++ [lease.core] }, .ok ())

/-- The send loop and what follows it.  Every iteration sends at least one byte, so
as many rounds as the Piece has bytes are enough. -/
def run (piece : Piece) (upload : Upload) (ring : Ring) : Ring × Except Failure Unit :=
  andThen (ring.loop piece upload.turns piece.length.toNat 0) (finish piece upload)

end Ring

end DragonflyClient.Server
