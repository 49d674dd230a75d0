import DragonflyClient.Server.Ring
import DragonflyClient.Urma.Credit

/-!
Negotiation and receive credit between two peers.

The limits of a Piece are checked four times, against different local bounds.  Once
all of them pass, both sides cut the Piece the same way, and every announcement the
downloader makes is the one the uploader waits for.
-/

namespace DragonflyClient.Server

open Library Rendezvous Urma TransferShape

/-- A lane seen from both ends. -/
structure Lane where
  clientCapability : UrmaCapability
  serverCapability : UrmaCapability
  recvDepth : UInt32
  sendDepth : UInt32
  client : ClientLane
  server : ServerLane
  connected : ClientLane.connect clientCapability serverCapability recvDepth
    client.maxReceiveInflight = .ok client
  accepted : ServerLane.accept serverCapability clientCapability sendDepth
    server.maxSendInflight = .ok server

namespace Lane

variable (lane : Lane)

theorem server_limits : lane.server.maxSendInflight ≠ 0 ∧ lane.server.maxMessageSize =
    min lane.serverCapability.maxMessageSize lane.clientCapability.maxMessageSize := by
  have accepted := lane.accepted
  unfold ServerLane.accept at accepted
  split at accepted
  · cases accepted
  split at accepted
  · cases accepted
  next within =>
    refine ⟨fun zero => within (.inl zero), ?_⟩
    rw [← Except.ok.inj accepted]

structure Admits (request : PieceRequest) : Prop where
  client : lane.client.checkRequest request = .ok ()
  server : lane.server.checkRequest request = .ok ()

variable {lane}

variable {request : PieceRequest}

theorem Admits.bounds (admits : lane.Admits request) :
    request.taskId.isEmpty = false ∧ request.chunkSize ≠ 0 ∧ request.maxInflightChunks ≠ 0 ∧
      request.chunkSize ≤ lane.client.maxMessageSize ∧
      request.chunkSize ≤ lane.server.maxMessageSize ∧
      request.maxInflightChunks ≤ lane.client.maxReceiveInflight := by
  have client := admits.client
  have server := admits.server
  unfold ClientLane.checkRequest at client
  unfold ServerLane.checkRequest at server
  split at client
  · cases client
  split at client
  · cases client
  next clientBounds =>
  split at server
  · cases server
  split at server
  · cases server
  next serverBounds =>
  simp only [Bool.or_eq_true, beq_iff_eq, decide_eq_true_eq, not_or, gt_iff_lt,
    Bool.not_eq_true, UInt64.not_lt, UInt32.not_lt] at clientBounds serverBounds
  obtain ⟨⟨⟨⟨named, sized⟩, clientSize⟩, inflight⟩, limited⟩ := clientBounds
  exact ⟨named, sized, inflight, clientSize, serverBounds.1.2, limited⟩

/-- The uploader keeps the requested chunk size and cuts the inflight limit to its own. -/
theorem Admits.negotiateTransfer_eq (admits : lane.Admits request) :
    negotiateTransfer request lane.serverCapability.maxMessageSize lane.server.maxSendInflight =
        .ok (request.chunkSize, min request.maxInflightChunks lane.server.maxSendInflight) ∧
      min request.maxInflightChunks lane.server.maxSendInflight ≠ 0 := by
  obtain ⟨-, sized, inflight, -, within, -⟩ := admits.bounds
  obtain ⟨sends, limit⟩ := lane.server_limits
  have size : min request.chunkSize lane.serverCapability.maxMessageSize = request.chunkSize := by
    apply UInt64.toNat_inj.mp
    rw [limit, UInt64.le_iff_toNat_le, toNat_min] at within
    rw [toNat_min]
    omega
  have some : min request.maxInflightChunks lane.server.maxSendInflight ≠ 0 := by
    change (if request.maxInflightChunks ≤ lane.server.maxSendInflight then
      request.maxInflightChunks else lane.server.maxSendInflight) ≠ 0
    split
    · exact inflight
    · exact sends
  refine ⟨?_, some⟩
  simp only [negotiateTransfer, size, sized, some, or_self, if_false]

/-- The metadata that `handle_piece` builds for `ready`. -/
def metadata (lane : Lane) (request : PieceRequest) (offset length : UInt64) (digest : String) :
    ClientResult PieceMetadata :=
  (negotiateTransfer request lane.serverCapability.maxMessageSize
    lane.server.maxSendInflight).map fun parameters =>
      { offset, length, digest, chunkSize := parameters.1, maxInflightChunks := parameters.2 }

theorem Admits.negotiate_eq (admits : lane.Admits request) {offset length} (nonempty : length ≠ 0)
    {digest metadata} (built : lane.metadata request offset length digest = .ok metadata) :
    lane.client.negotiate request metadata = .ok (ofMetadata metadata) ∧
      lane.server.negotiate request metadata = .ok (ofMetadata metadata) ∧
      (ofMetadata metadata).Regular := by
  obtain ⟨named, sized, inflight, clientSize, serverSize, limited⟩ := admits.bounds
  obtain ⟨negotiated, some⟩ := admits.negotiateTransfer_eq
  rw [Lane.metadata, negotiated] at built
  cases built
  have least (left right : UInt32) : (min left right).toNat = min left.toNat right.toNat := by
    rw [Nat.min_def]
    change (if left ≤ right then left else right).toNat = _
    simp only [UInt32.le_iff_toNat_le]
    split <;> rfl
  have cut := least request.maxInflightChunks lane.server.maxSendInflight
  have kept : ¬ min request.maxInflightChunks lane.server.maxSendInflight >
      request.maxInflightChunks := by
    rw [gt_iff_lt, UInt32.lt_iff_toNat_lt]
    omega
  have sends : ¬ min request.maxInflightChunks lane.server.maxSendInflight >
      lane.server.maxSendInflight := by
    rw [gt_iff_lt, UInt32.lt_iff_toNat_lt]
    omega
  have receives : ¬ min request.maxInflightChunks lane.server.maxSendInflight >
      lane.client.maxReceiveInflight := by
    rw [UInt32.le_iff_toNat_le] at limited
    rw [gt_iff_lt, UInt32.lt_iff_toNat_lt]
    omega
  refine ⟨?_, ?_, nonempty, sized, some, rfl⟩
  · simp [ClientLane.negotiate, TransferShape.negotiate, refused, named, sized, inflight, nonempty,
      some, kept, receives, UInt64.not_lt.mpr clientSize, ofMetadata]
  · simp [ServerLane.negotiate, TransferShape.negotiate, refused, named, sized, inflight, nonempty,
      some, kept, sends, UInt64.not_lt.mpr serverSize, ofMetadata]

end Lane

/-- One Piece between its two peers; `posted` are its control frames on their way to
the uploader. -/
structure Exchange where
  client : ClientPiece
  posted : List Frame
  server : ServerPiece
  ring : Ring

namespace Exchange

inductive Event where
  | announce
  | upload (waiting : Bool) (recycled native : Result Unit)

/-- The peers move independently.  A step of the uploader is one iteration of its send
loop, whose call of `send_next_registered_window` takes the next frame. -/
inductive Step (piece : Piece) : Exchange → Event → Exchange → Prop where
  | announce {exchange client frame} (announced : exchange.client.announce = .ok (client, frame)) :
      Step piece exchange .announce
        { exchange with client, posted := exchange.posted ++ [frame] }
  | upload {exchange waiting recycled native frame rest server ring}
      (unfinished : exchange.ring.sent < piece.length) (arrived : exchange.posted = frame :: rest)
      (sent : exchange.server.sendNextRegisteredWindow exchange.ring.current (.ok frame) native =
        .ok server) (advanced : exchange.ring.iterate piece { waiting, recycled, sent := .ok () } =
        (ring, .ok ())) :
      Step piece exchange (.upload waiting recycled native)
        { exchange with posted := rest, server, ring }

/-- Both peers have negotiated and the uploader has filled its first window. -/
structure Initial (lane : Lane) (request : PieceRequest) (metadata : PieceMetadata)
    (transferId : TransferId) (exchange : Exchange) : Prop where
  client : ∃ shape, lane.client.negotiate request metadata = .ok shape ∧
    exchange.client = { transferId, shape, nextPostChunk := 0 }
  server : ∃ shape, lane.server.negotiate request metadata = .ok shape ∧
    exchange.server = { transferId, shape, nextChunk := 0 }
  posted : exchange.posted = []
  ring : ∃ source upload, upload.Leases ∧
    Ring.start (.ofMetadata metadata) source upload = .ok exchange.ring

inductive Queued (shape : TransferShape) (transferId : TransferId) :
    UInt64 → List Frame → UInt64 → Prop where
  | nil (start : UInt64) : Queued shape transferId start [] start
  | cons {start stop window rest} (opened : shape.window start = .ok window)
      (later : Queued shape transferId (start + window.chunkCount.toUInt64) rest stop) :
      Queued shape transferId start (.recvPosted transferId window :: rest) stop

theorem Queued.snoc {shape transferId start stop frames}
    (queued : Queued shape transferId start frames stop) {window}
    (opened : shape.window stop = .ok window) :
    Queued shape transferId start (frames ++ [.recvPosted transferId window])
      (stop + window.chunkCount.toUInt64) := by
  induction queued with
  | nil start => exact .cons opened (.nil _)
  | cons first _ ih => exact .cons first (ih opened)

theorem window_chunkCount (shape : TransferShape) :
    ∀ window, shape.window shape.chunkCount ≠ .ok window := by
  intro window opened
  unfold TransferShape.window at opened
  rw [if_pos (UInt64.le_refl _)] at opened
  cases opened

theorem Queued.ended {shape transferId start stop frames}
    (queued : Queued shape transferId start frames stop) (complete : start = shape.chunkCount) :
    frames = [] ∧ stop = shape.chunkCount := by
  cases queued with
  | nil => exact ⟨rfl, complete⟩
  | cons opened _ =>
    rw [complete] at opened
    exact absurd opened (window_chunkCount _ _)

inductive Placed (metadata : PieceMetadata) (exchange : Exchange) : Prop where
  | ahead {content acquired} (start : Nat)
      (ring : exchange.ring.Ahead metadata content acquired start)
      (next : exchange.server.nextChunk = .ofNat start)
      (queued : Queued (ofMetadata metadata) exchange.server.transferId exchange.server.nextChunk
        exchange.posted exchange.client.nextPostChunk) : Placed metadata exchange
  | finished (ring : exchange.ring.sent = metadata.length) (posted : exchange.posted = [])
      (complete : exchange.client.nextPostChunk = (ofMetadata metadata).chunkCount) :
      Placed metadata exchange

structure Agreed (metadata : PieceMetadata) (exchange : Exchange) : Prop where
  client : exchange.client.shape = ofMetadata metadata
  server : exchange.server.shape = ofMetadata metadata
  transferId : exchange.client.transferId = exchange.server.transferId
  placed : exchange.Placed metadata

section Run

variable {metadata : PieceMetadata} {content : List UInt8} {acquired : List LeaseRecycle}
  {start : Nat} {exchange : Exchange}

theorem window_of_ahead (regular : (ofMetadata metadata).Regular)
    (inside : start < (ofMetadata metadata).chunkCount.toNat) {window}
    (opened : (ofMetadata metadata).window (.ofNat start) = .ok window) :
    (ofMetadata metadata).windowLen window =
        .ok (Position.lengths (ofMetadata metadata) start).sum ∧
      window.chunkCount.toNat = Position.count (ofMetadata metadata) start ∧
      UInt64.ofNat start + window.chunkCount.toUInt64 =
        .ofNat (start + Position.count (ofMetadata metadata) start) := by
  have bounded := (ofMetadata metadata).chunkCount.toNat_lt
  have same : (UInt64.ofNat start).toNat = start := toNat_ofNat (by omega)
  have inside' : (UInt64.ofNat start).toNat < (ofMetadata metadata).chunkCount.toNat := by omega
  obtain ⟨found, opened', starts, counted⟩ := regular.window_eq inside'
  obtain rfl := Except.ok.inj (opened'.symm.trans opened)
  rw [same] at counted
  have within : start + Position.count (ofMetadata metadata) start < 2 ^ 64 := by
    unfold Position.count
    omega
  refine ⟨?_, counted, ?_⟩
  · rw [regular.windowLen_eq (by rw [starts, opened]) (by rw [starts]; exact inside'),
      Regular.lengths, starts, same, counted]
    rfl
  · apply UInt64.toNat_inj.mp
    rw [UInt64.toNat_add, UInt32.toNat_toUInt64, same, toNat_ofNat within, counted]
    exact Nat.mod_eq_of_lt within

theorem receiveCredit_eq (regular : (ofMetadata metadata).Regular) {server : ServerPiece}
    {ring : Ring} (shape : server.shape = ofMetadata metadata)
    (next : server.nextChunk = .ofNat start) (ahead : ring.Ahead metadata content acquired start)
    {window} (opened : (ofMetadata metadata).window server.nextChunk = .ok window) :
    server.receiveCredit ring.current (.ok (.recvPosted server.transferId window)) =
      .ok window := by
  obtain ⟨measured, counted, -⟩ := window_of_ahead regular ahead.inside (next ▸ opened)
  have chunks : ring.current.layouts.length = window.chunkCount.toNat := by
    have lengths := congrArg List.length ahead.shaped.layouts
    rw [List.length_map] at lengths
    rw [lengths, counted, Position.lengths, List.length_map, List.length_range']
  unfold ServerPiece.receiveCredit
  rw [shape, opened]
  simp only [ne_eq, not_true_eq_false, if_false, measured, ahead.shaped.total, chunks, or_self]

theorem of_announce_ok {piece client : ClientPiece} {frame}
    (announced : piece.announce = .ok (client, frame)) :
    ∃ window, piece.shape.window piece.nextPostChunk = .ok window ∧
      frame = .recvPosted piece.transferId window ∧
      client =
        { piece with nextPostChunk := piece.nextPostChunk + window.chunkCount.toUInt64 } := by
  unfold ClientPiece.announce at announced
  split at announced
  · cases announced
  next window opened =>
  split at announced
  · cases announced
  split at announced
  · cases announced
  · cases announced
    exact ⟨window, opened, rfl, rfl⟩

theorem of_sendNext_ok {piece server : ServerPiece} {lease received native}
    (sent : piece.sendNextRegisteredWindow lease received native = .ok server) :
    ∃ window, piece.receiveCredit lease received = .ok window ∧
      server = { piece with nextChunk := piece.nextChunk + window.chunkCount.toUInt64 } := by
  unfold ServerPiece.sendNextRegisteredWindow at sent
  split at sent
  · cases sent
  next window credit =>
    split at sent
    · cases sent
    · cases sent
      exact ⟨window, credit, rfl⟩

theorem Agreed.step (regular : (ofMetadata metadata).Regular) (agreed : exchange.Agreed metadata)
    {event : Event} {target : Exchange}
    (moved : Step (.ofMetadata metadata) exchange event target) : target.Agreed metadata := by
  obtain ⟨clientShape, serverShape, sameId, placed⟩ := agreed
  cases moved with
  | announce announced =>
    obtain ⟨window, opened, rfl, rfl⟩ := of_announce_ok announced
    rw [clientShape] at opened
    refine ⟨clientShape, serverShape, sameId, ?_⟩
    cases placed with
    | ahead start ring next queued =>
      rw [sameId]
      exact .ahead start ring next (queued.snoc opened)
    | finished ring posted complete =>
      rw [complete] at opened
      exact absurd opened (window_chunkCount _ _)
  | @upload waiting recycled native frame rest server ring unfinished arrived sent advanced =>
    cases placed with
    | finished whole posted complete =>
      rw [posted] at arrived
      cases arrived
    | ahead start ahead next queued =>
      rw [arrived] at queued
      cases queued with
      | @cons _ _ window _ opened later =>
        obtain ⟨credit, passed, rfl⟩ := of_sendNext_ok sent
        have same := receiveCredit_eq regular serverShape next ahead opened
        obtain rfl := Except.ok.inj (same.symm.trans passed)
        have outcome := ahead.iterate_outcome regular { waiting, recycled, sent := .ok () }
        rw [advanced] at outcome
        rw [next] at opened later
        obtain ⟨-, -, further⟩ := window_of_ahead regular ahead.inside opened
        refine ⟨clientShape, serverShape, sameId, ?_⟩
        cases outcome with
        | ahead ahead =>
          refine .ahead _ ahead ?_ ?_
          · rw [next, further]
          · rw [next]
            exact later
        | finished last finished =>
          rw [further, last, UInt64.ofNat_toNat] at later
          obtain ⟨posted, complete⟩ := later.ended rfl
          exact .finished finished.sent posted complete

theorem Initial.agreed {lane : Lane} {request : PieceRequest} {transferId}
    (client : lane.client.negotiate request metadata = .ok (ofMetadata metadata))
    (server : lane.server.negotiate request metadata = .ok (ofMetadata metadata))
    (regular : (ofMetadata metadata).Regular)
    (initial : Initial lane request metadata transferId exchange) : exchange.Agreed metadata := by
  obtain ⟨⟨shape, negotiated, atClient⟩, ⟨shape', negotiated', atServer⟩, posted, source, upload,
    leases, started⟩ := initial
  obtain rfl := Except.ok.inj (client.symm.trans negotiated)
  obtain rfl := Except.ok.inj (server.symm.trans negotiated')
  obtain ⟨content, gives⟩ : ∃ content, PieceSource.Gives content 0 source := by
    cases source with
    | mapped content => exact ⟨content, .mapped 0⟩
    | reader content => exact ⟨content, .reader 0⟩
  refine ⟨by rw [atClient], by rw [atServer], by rw [atClient, atServer], ?_⟩
  refine .ahead 0 (Ring.ahead_of_start gives leases regular started) (by rw [atServer]; rfl) ?_
  rw [posted, atClient, atServer]
  exact .nil 0

end Run

/-- For every request that both sides admit and every Piece with a byte, the metadata
that the uploader builds gives both sides the same shape; and however the peers
move from there, the next frame that reaches the uploader announces the window
it expects, with the lease it is about to send. -/
theorem negotiation_agreement (lane : Lane) (request : PieceRequest) (admits : lane.Admits request)
    (offset length : UInt64) (nonempty : length ≠ 0) (digest : String) :
    ∃ metadata, lane.metadata request offset length digest = .ok metadata ∧
      (∃ shape, lane.client.negotiate request metadata = .ok shape ∧
        lane.server.negotiate request metadata = .ok shape) ∧
      ∀ transferId exchange,
        Reachable (Initial lane request metadata transferId) (Step (.ofMetadata metadata))
            exchange →
        exchange.client.shape = exchange.server.shape ∧
        ∀ frame rest, exchange.posted = frame :: rest →
          ∃ window, frame = .recvPosted exchange.server.transferId window ∧
            exchange.server.shape.window exchange.server.nextChunk = .ok window ∧
            exchange.server.receiveCredit exchange.ring.current (.ok frame) = .ok window := by
  obtain ⟨negotiated, -⟩ := admits.negotiateTransfer_eq
  have built : ∃ metadata, lane.metadata request offset length digest = .ok metadata := by
    rw [Lane.metadata, negotiated]
    exact ⟨_, rfl⟩
  obtain ⟨metadata, built⟩ := built
  obtain ⟨client, server, regular⟩ := admits.negotiate_eq nonempty built
  refine ⟨metadata, built, ⟨_, client, server⟩, ?_⟩
  intro transferId exchange reached
  have agreed : exchange.Agreed metadata := by
    apply reached.invariant
    · intro exchange initial
      exact initial.agreed client server regular
    · intro exchange event target agreed moved
      exact agreed.step regular moved
  refine ⟨agreed.client.trans agreed.server.symm, ?_⟩
  intro frame rest arrived
  cases agreed.placed with
  | finished whole posted complete =>
    rw [posted] at arrived
    cases arrived
  | ahead start ahead next queued =>
    rw [arrived] at queued
    cases queued with
    | @cons _ _ window _ opened later =>
      exact ⟨window, rfl, agreed.server ▸ opened,
        receiveCredit_eq regular agreed.server next ahead opened⟩

def smallLane : Lane where
  clientCapability := ⟨0, "fabric", 8⟩
  serverCapability := ⟨0, "fabric", 4⟩
  recvDepth := 2
  sendDepth := 2
  client := ⟨false, 4, 2⟩
  server := ⟨false, 4, 2⟩
  connected := rfl
  accepted := rfl

def smallRequest : PieceRequest where
  kind := .piece
  taskId := "t"
  pieceNumber := 0
  chunkSize := 4
  maxInflightChunks := 2

/-- The first window of ten bytes is announced and passes. -/
theorem agreement_ten_bytes :
    smallLane.Admits smallRequest ∧
      ∃ exchange, Reachable (Initial smallLane smallRequest ⟨0, 10, "", 4, 2⟩ 1)
          (Step (.ofMetadata ⟨0, 10, "", 4, 2⟩)) exchange ∧
        exchange.posted = [.recvPosted 1 ⟨0, 2⟩] ∧
        exchange.server.receiveCredit exchange.ring.current (.ok (.recvPosted 1 ⟨0, 2⟩)) =
          .ok ⟨0, 2⟩ := by
  have admits : smallLane.Admits smallRequest := ⟨by decide, by decide⟩
  obtain ⟨metadata, built, -, agree⟩ :=
    negotiation_agreement smallLane smallRequest admits 0 10 (by decide) ""
  obtain rfl : metadata = ⟨0, 10, "", 4, 2⟩ := (Except.ok.inj built).symm
  have leases : Ring.tenBytes.Leases :=
    ⟨fun _ _ acquired => ⟨_, acquired⟩, fun _ _ acquired => ⟨_, acquired⟩⟩
  obtain ⟨ring, started⟩ : ∃ ring, Ring.start (.ofMetadata ⟨0, 10, "", 4, 2⟩)
      (.reader [0, 1, 2, 3, 4, 5, 6, 7, 8, 9]) Ring.tenBytes = .ok ring := ⟨_, rfl⟩
  let first : Exchange :=
    { client := ⟨1, .ofMetadata ⟨0, 10, "", 4, 2⟩, 0⟩, posted := []
      server := ⟨1, .ofMetadata ⟨0, 10, "", 4, 2⟩, 0⟩, ring }
  have initial : Initial smallLane smallRequest ⟨0, 10, "", 4, 2⟩ 1 first :=
    ⟨⟨_, by decide, rfl⟩, ⟨_, by decide, rfl⟩, rfl, _, _, leases, started⟩
  have moved : (⟨1, .ofMetadata ⟨0, 10, "", 4, 2⟩, 0⟩ : ClientPiece).announce =
      .ok (⟨1, .ofMetadata ⟨0, 10, "", 4, 2⟩, 2⟩, .recvPosted 1 ⟨0, 2⟩) := by decide
  have announced := Reachable.next (.start initial)
    (@Step.announce (.ofMetadata ⟨0, 10, "", 4, 2⟩) first _ _ moved)
  refine ⟨admits, _, announced, rfl, ?_⟩
  obtain ⟨window, same, -, credit⟩ := (agree 1 _ announced).2 _ _ rfl
  cases same
  exact credit

end Exchange

end DragonflyClient.Server
