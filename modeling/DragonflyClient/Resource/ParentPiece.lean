import DragonflyClient.Resource.Interested
import DragonflyClient.Storage.WriteExtent

/-!
`Piece::download_from_parent` (`resource/piece.rs`): the record is started, URMA is tried if
it is configured, and the stream of the other transports otherwise or after it has failed.

The offset that a parent answers with takes the place of the one that was asked for.  What a
failed attempt has handed to the pool is still written.
-/

namespace DragonflyClient.Resource

open Storage Util Library

/-- The way to the parent: `download_piece_from_parent_over_urma`, or the TCP, QUIC or
fallback downloader. -/
inductive Transport where
  | urma
  | stream
  deriving DecidableEq, Repr

def Transport.kind : Transport → WriteKind
  | .urma => .urma
  | .stream => .stream

/-- An answer of the parent: the digest it gives, and the write of its bytes. -/
structure ParentFetch where
  offset : UInt64
  digest : String
  write : RangeWrite

inductive ParentPhase where
  | starting
  | requesting (transport : Transport)
  | writing (transport : Transport)
  | returned (result : ClientResult Piece)
  | dropped

/-- One call of `download_from_parent`, with the file of the task and the record of the
piece. -/
structure ParentDownload where
  pieceId : String
  parentId : String
  request : DownloadRequest
  usesUrma : Bool
  bufferSize : Nat
  file : FileContent
  record : Option Piece
  fetches : Transport → Option ParentFetch
  phase : ParentPhase

open ParentDownload

inductive ParentEvent where
  -- `download_piece_started` returns.
  | start (fault : Option DFError)
  -- The parent answers, or the request fails.
  | answer (offset : UInt64) (digest : String)
  | refuse (error : DFError) (deleteFault : Option DFError)
  | write (transport : Transport) (event : WriteEvent)
  -- The write of the answer has ended.
  | settle (now : Nat) (fault deleteFault : Option DFError)
  | drop (deleteFault : Option DFError)

namespace ParentDownload

/-- `download_piece_failed`, run by the guard; `fault` is a failure of the database. -/
def sweep (download : ParentDownload) (fault : Option DFError) : Option Piece :=
  match fault, download.record with
  | some _, record => record
  | none, some piece => if piece.isFinished then some piece else none
  | none, none => none

/-- A failed attempt over URMA is followed by the stream, a failed stream ends the call. -/
def fallBack (download : ParentDownload) (transport : Transport) (error : DFError)
    (deleteFault : Option DFError) : ParentDownload :=
  match transport with
  | .urma => { download with phase := .requesting .stream }
  | .stream =>
    { download with record := download.sweep deleteFault, phase := .returned (.error error) }

/-- `finish_parent_piece`; a missing digest is only logged. -/
def finishParentPiece (download : ParentDownload) (fetch : ParentFetch)
    (response : WriteRangeResponse) (now : Nat) (fault : Option DFError) : ClientResult Piece :=
  let digest := crc32Digest response.hash
  if fetch.digest ≠ "" ∧ fetch.digest ≠ digest then
    .error (.digestMismatch fetch.digest digest)
  else
    match fault, download.record with
    | some error, _ => .error error
    | none, none => .error (.pieceNotFound download.pieceId)
    | none, some piece =>
      .ok (Completion.apply
        { offset := fetch.offset, length := response.length, digest
          parentId := some download.parentId, now } piece)

def settle (download : ParentDownload) (transport : Transport) (fetch : ParentFetch) (now : Nat)
    (fault deleteFault : Option DFError) : Option ParentDownload :=
  match fetch.write.phase with
  | .returned (.ok response) =>
    match download.finishParentPiece fetch response now fault with
    | .ok piece =>
      some { download with record := some piece, phase := .returned (.ok piece) }
    | .error error => some (download.fallBack transport error deleteFault)
  | .returned (.error error) => some (download.fallBack transport error deleteFault)
  | .dropped =>
    some { download with record := download.sweep deleteFault, phase := .dropped }
  | _ => none

def act (download : ParentDownload) (event : ParentEvent) : Option ParentDownload :=
  match event with
  | .start fault =>
    match download.phase, fault, download.record with
    | .starting, some error, _ => some { download with phase := .returned (.error error) }
    | .starting, none, record =>
      match record.filter Piece.isFinished with
      | some piece => some { download with phase := .returned (.ok piece) }
      | none =>
        some { download with
          record := some download.request.piece
          phase := .requesting (if download.usesUrma then .urma else .stream) }
    | _, _, _ => none
  | .answer offset digest =>
    match download.phase with
    | .requesting transport =>
      let write := RangeWrite.begin transport.kind download.pieceId offset
        download.request.length download.bufferSize
      some { download with
        fetches := Function.update download.fetches transport (some ⟨offset, digest, write⟩)
        phase := .writing transport }
    | _ => none
  | .refuse error deleteFault =>
    match download.phase with
    | .requesting transport => some (download.fallBack transport error deleteFault)
    | _ => none
  | .write transport event =>
    (download.fetches transport).bind fun fetch =>
      (fetch.write.act download.file event).map fun after =>
        { download with
          file := after.2
          fetches := Function.update download.fetches transport
            (some { fetch with write := after.1 }) }
  | .settle now fault deleteFault =>
    match download.phase with
    | .writing transport =>
      (download.fetches transport).bind fun fetch =>
        download.settle transport fetch now fault deleteFault
    | _ => none
  | .drop deleteFault =>
    match download.phase with
    | .requesting _ =>
      some { download with record := download.sweep deleteFault, phase := .dropped }
    | _ => none

def Step (download : ParentDownload) (event : ParentEvent) (target : ParentDownload) : Prop :=
  download.act event = some target

/-- The record has the place of the piece in the content, or the call has found it finished. -/
def Placed (request : DownloadRequest) (earlier : Option Piece) (piece : Piece) : Prop :=
  piece.offset = request.offset ∧ piece.length = request.length ∨
    earlier = some piece ∧ piece.isFinished = true

structure Initial (original : FileContent) (request : DownloadRequest) (earlier : Option Piece)
    (download : ParentDownload) : Prop where
  asked : download.request = request
  file : download.file = original
  record : download.record = earlier
  fetches : ∀ transport, download.fetches transport = none
  phase : download.phase = .starting

/-- The parent answers with the offset that the piece has. -/
def Honest (download : ParentDownload) : ParentEvent → Prop
  | .answer offset _ => offset = download.request.offset
  | _ => True

structure Confined (original : FileContent) (request : DownloadRequest) (earlier : Option Piece)
    (download : ParentDownload) : Prop where
  asked : download.request = request
  outside : ∀ position, position < request.offset.toNat ∨
    request.offset.toNat + request.length.toNat ≤ position →
      download.file position = original position
  fetches : ∀ transport fetch, download.fetches transport = some fetch →
    fetch.offset = request.offset ∧ fetch.write.Bounded request.offset request.length
  record : ∀ piece, download.record = some piece → piece.isFinished = true →
    Placed request earlier piece
  returned : ∀ piece, download.phase = .returned (.ok piece) →
    download.record = some piece ∧ Placed request earlier piece

variable {original : FileContent} {request : DownloadRequest} {earlier : Option Piece}
  {download target : ParentDownload} {event : ParentEvent}

theorem Initial.confined (initial : Initial original request earlier download) :
    Confined original request earlier download := by
  obtain ⟨asked, file, record, fetches, phase⟩ := initial
  refine ⟨asked, ?_, ?_, fun piece found finished => .inr ⟨record ▸ found, finished⟩, ?_⟩
  · intro position _
    rw [file]
  · intro transport fetch found
    rw [fetches] at found
    cases found
  · intro piece returned
    rw [phase] at returned
    cases returned

section

variable (confined : Confined original request earlier download)
include confined

theorem Confined.withPhase {record phase}
    (placed : ∀ piece, record = some piece → piece.isFinished = true → Placed request earlier piece)
    (returned : ∀ piece, phase = .returned (.ok piece) →
      record = some piece ∧ Placed request earlier piece) :
    Confined original request earlier { download with record, phase } :=
  { confined with record := placed, returned }

theorem Confined.withFetch {transport fetch} (offset : fetch.offset = request.offset)
    (bounded : fetch.write.Bounded request.offset request.length) :
    Confined original request earlier
      { download with fetches := Function.update download.fetches transport (some fetch) } := by
  refine { confined with fetches := ?_ }
  intro other found same
  dsimp only at same
  by_cases here : other = transport
  · subst here
    rw [Function.update_self] at same
    cases same
    exact ⟨offset, bounded⟩
  · rw [Function.update_of_ne here] at same
    exact confined.fetches other found same

theorem Confined.swept
    (fault : Option DFError) (piece : Piece) (swept : download.sweep fault = some piece)
    (finished : piece.isFinished = true) : Placed request earlier piece := by
  apply confined.record piece _ finished
  unfold sweep at swept
  split at swept
  · exact swept
  next kept stored =>
    split at swept
    · cases swept
      exact stored
    · cases swept
  · cases swept

theorem Confined.fallBack (transport : Transport) (error : DFError) (deleteFault : Option DFError) :
    Confined original request earlier (download.fallBack transport error deleteFault) := by
  unfold ParentDownload.fallBack
  split
  · exact confined.withPhase confined.record fun piece same => by cases same
  · exact confined.withPhase (confined.swept deleteFault) fun piece same => by cases same

theorem Confined.settle {transport fetch now fault deleteFault}
    (found : download.fetches transport = some fetch)
    (moved : download.settle transport fetch now fault deleteFault = some target) :
    Confined original request earlier target := by
  unfold ParentDownload.settle at moved
  split at moved
  next response written =>
    split at moved
    next piece finished =>
      cases moved
      obtain ⟨offset, bounded⟩ := confined.fetches transport fetch found
      have placed : Placed request earlier piece := by
        unfold finishParentPiece at finished
        dsimp only at finished
        split at finished
        · cases finished
        · split at finished
          · cases finished
          · cases finished
          · cases finished
            have whole := bounded.whole response (by rw [written]; rfl)
            exact .inl ⟨offset, whole.trans bounded.spans⟩
      apply confined.withPhase
      · intro stored same _
        cases same
        exact placed
      · intro result same
        obtain rfl : piece = result := by simpa using same
        exact ⟨rfl, placed⟩
    next error _ =>
      cases moved
      exact confined.fallBack transport error deleteFault
  next error _ =>
    cases moved
    exact confined.fallBack transport error deleteFault
  · cases moved
    exact confined.withPhase (confined.swept deleteFault) fun piece same => by cases same
  · cases moved

theorem Confined.step (fits : request.offset.toNat + request.length.toNat < 2 ^ 64)
    (moved : Guarded Step Honest download event target) :
    Confined original request earlier target := by
  obtain ⟨moved, honest⟩ := moved
  unfold Step at moved
  cases event with
  | start fault =>
    simp only [act] at moved
    split at moved
    · cases moved
      exact confined.withPhase confined.record fun piece same => by cases same
    · split at moved
      next piece finished =>
        cases moved
        obtain ⟨stored, done⟩ := Option.filter_eq_some_iff.mp finished
        apply confined.withPhase confined.record
        intro result same
        obtain rfl : piece = result := by simpa using same
        exact ⟨stored, confined.record piece stored done⟩
      next =>
        cases moved
        apply confined.withPhase
        · intro piece same finished
          cases same
          cases finished
        · intro piece same
          cases same
    · cases moved
  | answer offset digest =>
    simp only [act] at moved
    split at moved
    next transport requesting =>
      cases moved
      have same : offset = request.offset := honest.trans (congrArg _ confined.asked)
      have length : download.request.length = request.length := congrArg _ confined.asked
      have begun : (RangeWrite.begin transport.kind download.pieceId offset
          download.request.length download.bufferSize).Bounded request.offset
            request.length := by
        rw [same, length]
        exact RangeWrite.bounded_begin _ _ _ fits
      exact (confined.withFetch same begun).withPhase confined.record fun piece returned => by
        cases returned
    next => cases moved
  | refuse error deleteFault =>
    simp only [act] at moved
    split at moved
    · cases moved
      exact confined.fallBack _ error deleteFault
    · cases moved
  | write transport event =>
    obtain ⟨fetch, found, moved⟩ := Option.bind_eq_some_iff.mp moved
    obtain ⟨⟨write, file⟩, acted, rfl⟩ := Option.map_eq_some_iff.mp moved
    obtain ⟨offset, bounded⟩ := confined.fetches transport fetch found
    have fetched : Confined original request earlier
        { download with
          fetches := Function.update download.fetches transport (some { fetch with write }) } :=
      confined.withFetch offset (bounded.act acted)
    refine { fetched with outside := ?_ }
    intro position outside
    exact (bounded.file_outside acted outside).trans (confined.outside position outside)
  | settle now fault deleteFault =>
    simp only [act] at moved
    split at moved
    · obtain ⟨fetch, found, settled⟩ := Option.bind_eq_some_iff.mp moved
      exact confined.settle found settled
    · cases moved
  | drop deleteFault =>
    simp only [act] at moved
    split at moved
    · cases moved
      exact confined.withPhase (confined.swept deleteFault) fun piece same => by cases same
    · cases moved

end

/-- When the parent answers with the offset of the piece, over whichever transport, no byte
outside the piece changes.  If the call has found no finished record, or one with the offset and
length of the piece, then it leaves no other, and one that returns `Ok` returns it. -/
theorem parent_confined {pieceLength contentLength : UInt64} {pieces : List Piece} {piece : Piece}
    (bounded : pieceLength.toNat + contentLength.toNat < 2 ^ 64)
    (interested : calculateInterested pieceLength contentLength none = some (.ok pieces))
    (listed : piece ∈ pieces)
    (reached : Reachable (Initial original ⟨piece.number, piece.offset, piece.length⟩ earlier)
      (Guarded Step Honest) download) :
    (∀ position, position < piece.offset.toNat ∨
      piece.offset.toNat + piece.length.toNat ≤ position →
        download.file position = original position) ∧
    ((∀ stored, earlier = some stored → stored.isFinished = true →
        stored.offset = piece.offset ∧ stored.length = piece.length) →
      (∀ stored, download.record = some stored → stored.isFinished = true →
        stored.offset = piece.offset ∧ stored.length = piece.length) ∧
      ∀ result, download.phase = .returned (.ok result) →
        download.record = some result ∧ result.offset = piece.offset ∧
          result.length = piece.length) := by
  have fits : piece.offset.toNat + piece.length.toNat < 2 ^ 64 := by
    have ends := end_le_of_interested bounded interested listed
    omega
  have confined := reached.invariant (Confined original _ earlier)
    (fun _ initial => initial.confined) fun _ _ _ confined moved => confined.step fits moved
  refine ⟨confined.outside, fun found => ⟨fun stored same finished => ?_, ?_⟩⟩
  · exact (confined.record stored same finished).elim id fun before => found _ before.1 before.2
  · intro result returned
    obtain ⟨stored, placed⟩ := confined.returned result returned
    exact ⟨stored, placed.elim id fun before => found _ before.1 before.2⟩

namespace Small

def asked : DownloadRequest := ⟨1, 4, 4⟩

def begun : ParentDownload :=
  { pieceId := "task-1", parentId := "parent", request := asked, usesUrma := false
    bufferSize := 4, file := fun _ => 0, record := none, fetches := fun _ => none
    phase := .starting }

/-- The parent answers with an offset, no digest and four bytes, and the call returns. -/
def answered (offset : UInt64) : List ParentEvent :=
  [.start none, .answer offset "", .write .stream (.item [1, 2, 3, 4]),
    .write .stream (.advance none), .write .stream (.pwrite 4),
    .write .stream (.advance none), .write .stream (.advance none),
    .settle 7 none none]

theorem initial_begun : Initial begun.file asked none begun := ⟨rfl, rfl, rfl, fun _ => rfl, rfl⟩

end Small

theorem parent_confined_of_second :
    ∃ download result, perform act Small.begun (Small.answered 4) = some download ∧
      download.phase = .returned (.ok result) ∧ download.file 4 = 1 ∧ download.file 3 = 0 ∧
      download.record = some result ∧ result.offset = 4 ∧ result.length = 4 := by
  have performed : perform act Small.begun (Small.answered 4) = some _ := rfl
  have start : Reachable (Initial Small.begun.file Small.asked none) (Guarded Step Honest)
      Small.begun := .start Small.initial_begun
  have reached := (start.perform_kept (Confined Small.begun.file Small.asked none)
    Small.initial_begun.confined ?_ performed).1
  have interested : calculateInterested 4 8 none = some (.ok [pieceOf 4 8 0, pieceOf 4 8 1]) := rfl
  have listed : pieceOf 4 8 1 ∈ [pieceOf 4 8 0, pieceOf 4 8 1] := .tail _ (.head _)
  have confined := parent_confined (by decide) interested listed reached
  · exact ⟨_, _, performed, rfl, rfl, confined.1 3 (.inl (by decide)),
      (confined.2 (by simp)).2 _ rfl⟩
  · intro event listed before after confined moved
    have honest : before.Honest event := by
      simp only [Small.answered, List.mem_cons, List.not_mem_nil, or_false] at listed
      rcases listed with rfl | rfl | rfl | rfl | rfl | rfl | rfl | rfl
      case inr.inl =>
        rw [Honest, confined.asked]
        rfl
      all_goals trivial
    exact ⟨⟨moved, honest⟩, confined.step (by decide) ⟨moved, honest⟩⟩

/-- The parent answers with the offset of the first piece: its bytes are overwritten, and the
record of the second has its offset. -/
theorem parent_writes_other_piece :
    ∃ download result, calculateInterested 4 8 none = some (.ok [pieceOf 4 8 0, pieceOf 4 8 1]) ∧
      (pieceOf 4 8 1).offset = 4 ∧
      Reachable (Initial Small.begun.file Small.asked none) Step download ∧
      download.phase = .returned (.ok result) ∧
      (Small.begun.file 0, download.file 0) = (0, 1) ∧
      ∃ stored, download.record = some stored ∧ stored.number = 1 ∧ stored.offset = 0 := by
  have performed : perform act Small.begun (Small.answered 0) = some _ := rfl
  have start : Reachable (Initial Small.begun.file Small.asked none) Step Small.begun :=
    .start Small.initial_begun
  exact ⟨_, _, rfl, rfl, start.perform (fun _ _ _ _ moved => moved) performed, rfl, rfl, _, rfl,
    rfl, rfl⟩

end ParentDownload

end DragonflyClient.Resource
