import DragonflyClient.Library.Table
import DragonflyClient.Storage.Download
import DragonflyClient.Storage.LruCache
import DragonflyClient.Util.Digest

/-!
The memory cache of pieces (`cache/mod.rs`) and the download of a cache piece into it
(`lib.rs`).

The content of a piece and its record are in two stores.  A download writes the content
first, without replacing what is there, and then the record, from what it read.
-/

namespace DragonflyClient.Storage

open Util Library Option

/-- A task in the cache: `cache::Task`. -/
structure CachedTask where
  contentLength : UInt64
  pieces : Table String (List UInt8)

namespace CachedTask

def contains (task : CachedTask) (id : String) : Bool := (task.pieces.lookup id).isSome

def writePiece (task : CachedTask) (id : String) (content : List UInt8) : CachedTask :=
  { task with pieces := task.pieces.insert id content }

end CachedTask

structure Cache where
  size : UInt64
  capacity : UInt64
  tasks : LruCache String CachedTask

namespace Cache

def content (cache : Cache) (taskId pieceId : String) : Option (List UInt8) :=
  (cache.tasks.peek taskId).bind (·.pieces.lookup pieceId)

def writePiece (cache : Cache) (taskId pieceId : String) (content : List UInt8) :
    ClientResult Unit × Cache :=
  match cache.tasks.get taskId with
  | (none, tasks) => (.error (.taskNotFound taskId), { cache with tasks })
  | (some task, tasks) =>
    if task.contains pieceId then (.ok (), { cache with tasks })
    else (.ok (), { cache with tasks := tasks.modify taskId (·.writePiece pieceId content) })

theorem content_writePiece {cache after : Cache} {taskId pieceId content}
    (written : cache.writePiece taskId pieceId content = (.ok (), after)) (other : String) :
    after.content taskId other =
      if other = pieceId then some ((cache.content taskId pieceId).getD content)
      else cache.content taskId other := by
  unfold writePiece at written
  split at written
  next => cases written
  next task tasks found =>
    have resident : cache.tasks.peek taskId = some task := by
      rw [← LruCache.get_fst, found]
    have kept (key : String) : tasks.peek key = cache.tasks.peek key := by
      rw [← cache.tasks.peek_get taskId key, found]
    split at written
    next present =>
      obtain rfl := (Prod.mk.inj written).2
      obtain ⟨old, stored⟩ := isSome_iff_exists.mp present
      by_cases same : other = pieceId
      · subst same
        simp [Cache.content, kept, resident, stored]
      · simp [Cache.content, kept, same]
    next absent =>
      obtain rfl := (Prod.mk.inj written).2
      have missing : task.pieces.lookup pieceId = none := by
        simpa [CachedTask.contains] using absent
      simp only [Cache.content, LruCache.peek_modify, kept, resident, if_true, map_some,
        bind_some, CachedTask.writePiece, Table.lookup_insert_eq, missing,
        getD_none]

theorem content_of_writePiece_error {cache after : Cache} {taskId pieceId content error}
    (refused : cache.writePiece taskId pieceId content = (.error error, after)) (other : String) :
    after.content taskId other = cache.content taskId other := by
  unfold writePiece at refused
  split at refused
  next tasks missing =>
    obtain rfl := (Prod.mk.inj refused).2
    have kept : tasks.peek taskId = cache.tasks.peek taskId := by
      rw [← cache.tasks.peek_get taskId taskId, missing]
    simp only [Cache.content, kept]
  next =>
    split at refused
    all_goals cases refused

end Cache

/-- What a reader gives: its bytes up to the end, or up to a failure of the read or the
timeout of the call. -/
structure ByteStream where
  bytes : List UInt8
  failure : Option DFError
  deriving DecidableEq, Repr

inductive CacheOrigin where
  | source
  | parent (expectedDigest parentId : String)
  deriving DecidableEq, Repr

/-- The digest check of a piece from a parent; an empty expected digest is only logged. -/
def CacheOrigin.check (origin : CacheOrigin) (digest : String) : ClientResult Unit :=
  match origin with
  | .source => .ok ()
  | .parent expectedDigest _ =>
    if expectedDigest.isEmpty then .ok ()
    else if expectedDigest ≠ digest then .error (.digestMismatch expectedDigest digest)
    else .ok ()

def CacheOrigin.parentId : CacheOrigin → Option String
  | .source => none
  | .parent _ parentId => some parentId

/-- The operations of one attempt on the metadata; each may fail, and then does nothing. -/
inductive CacheOperation where
  | look
  | sweep
  | start
  | read
  | store
  | check
  | delete
  deriving DecidableEq, Repr

/-- One call of `download_cache_piece_started`, followed by the call that ends the download
if the piece was not finished. -/
structure CacheAttempt where
  pieceId : String
  request : DownloadRequest
  origin : CacheOrigin
  stream : ByteStream
  now : Nat
  fault : CacheOperation → Option DFError

structure CacheStore where
  records : Table String Piece
  cache : Cache

namespace CacheStore

def downloadPieceStarted (store : CacheStore) (attempt : CacheAttempt) :
    ClientResult Piece × CacheStore :=
  match attempt.fault .start with
  | some error => (.error error, store)
  | none =>
    (.ok attempt.request.piece,
      { store with records := store.records.insert attempt.pieceId attempt.request.piece })

/-- `download_cache_piece_started` of a caller on its own: a finished record is handed out,
any other one is replaced. -/
def downloadCachePieceStarted (store : CacheStore) (attempt : CacheAttempt) :
    ClientResult Piece × CacheStore :=
  match attempt.fault .look with
  | some error => (.error error, store)
  | none =>
    match store.records.lookup attempt.pieceId with
    | none => store.downloadPieceStarted attempt
    | some piece =>
      if piece.isFinished then (.ok piece, store)
      else
        match attempt.fault .sweep with
        | some _ => store.downloadPieceStarted attempt
        | none =>
          downloadPieceStarted
            { store with records := store.records.erase attempt.pieceId } attempt

def downloadPieceFinished (store : CacheStore) (attempt : CacheAttempt)
    (completion : Completion) : ClientResult Piece × CacheStore :=
  match attempt.fault .read, store.records.lookup attempt.pieceId with
  | some error, _ => (.error error, store)
  | none, none => (.error (.pieceNotFound attempt.pieceId), store)
  | none, some piece =>
    match attempt.fault .store with
    | some error => (.error error, store)
    | none =>
      (.ok (completion.apply piece),
        { store with
          records := store.records.insert attempt.pieceId (completion.apply piece) })

/-- `handle_downloaded_cache_piece_from_source_finished`, and the same with the digest
check for `handle_downloaded_cache_piece_from_parent_finished`. -/
def handleDownloadedCachePieceFinished (store : CacheStore) (taskId : String)
    (attempt : CacheAttempt) : ClientResult Piece × CacheStore :=
  match attempt.stream.failure with
  | some error => (.error error, store)
  | none =>
    match store.cache.writePiece taskId attempt.pieceId attempt.stream.bytes with
    | (.error error, cache) => (.error error, { store with cache })
    | (.ok (), cache) =>
      let digest := crc32Digest (crc32 attempt.stream.bytes)
      match attempt.origin.check digest with
      | .error error => (.error error, { store with cache })
      | .ok () =>
        downloadPieceFinished { store with cache } attempt
          { offset := attempt.request.offset, length := attempt.request.length, digest
            parentId := attempt.origin.parentId, now := attempt.now }

def downloadCachePieceFailed (store : CacheStore) (attempt : CacheAttempt) : CacheStore :=
  match attempt.fault .check with
  | some _ => store
  | none =>
    match store.records.lookup attempt.pieceId with
    | some piece => if piece.isFinished then store else delete
    | none => delete
where
  delete : CacheStore :=
    match attempt.fault .delete with
    | some _ => store
    | none => { store with records := store.records.erase attempt.pieceId }

def download (store : CacheStore) (taskId : String) (attempt : CacheAttempt) :
    ClientResult Piece × CacheStore :=
  match store.downloadCachePieceStarted attempt with
  | (.error error, store) => (.error error, store)
  | (.ok piece, store) =>
    if piece.isFinished then (.ok piece, store)
    else
      match store.handleDownloadedCachePieceFinished taskId attempt with
      | (.ok piece, store) => (.ok piece, store)
      | (.error error, store) => (.error error, store.downloadCachePieceFailed attempt)

def Finished (store : CacheStore) (pieceId : String) : Prop :=
  ∃ piece, store.records.lookup pieceId = some piece ∧ piece.isFinished = true

structure Frame (store after : CacheStore) (taskId pieceId : String) : Prop where
  record : ∀ other, other ≠ pieceId → after.records.lookup other = store.records.lookup other
  content : ∀ other, other ≠ pieceId →
    after.cache.content taskId other = store.cache.content taskId other

variable {store middle after : CacheStore} {taskId pieceId : String} {attempt : CacheAttempt}

theorem Frame.refl (store : CacheStore) (taskId pieceId : String) :
    Frame store store taskId pieceId :=
  ⟨fun _ _ => rfl, fun _ _ => rfl⟩

theorem Frame.trans (first : Frame store middle taskId pieceId)
    (second : Frame middle after taskId pieceId) : Frame store after taskId pieceId :=
  ⟨fun other different => (second.record other different).trans (first.record other different),
    fun other different => (second.content other different).trans (first.content other different)⟩

theorem frame_insert (store : CacheStore) (taskId pieceId : String) (piece : Piece) :
    Frame store { store with records := store.records.insert pieceId piece } taskId pieceId := by
  refine ⟨fun other different => ?_, fun _ _ => rfl⟩
  simp only [Table.lookup_insert_eq, different, if_false]

theorem frame_erase (store : CacheStore) (taskId pieceId : String) :
    Frame store { store with records := store.records.erase pieceId } taskId pieceId := by
  refine ⟨fun other different => ?_, fun _ _ => rfl⟩
  simp only [Table.lookup_erase_eq, different, if_false]

theorem not_finished_erase (store : CacheStore) (pieceId : String) :
    ¬ Finished { store with records := store.records.erase pieceId } pieceId := by
  rintro ⟨piece, stored, -⟩
  simp at stored

inductive Outcome (store : CacheStore) (taskId : String) (attempt : CacheAttempt)
    (after : CacheStore) : Prop where
  | unchanged (same : after = store)
  | unfinished (frame : Frame store after taskId attempt.pieceId)
      (pending : ¬ after.Finished attempt.pieceId)
  | finished {piece} (frame : Frame store after taskId attempt.pieceId)
      (before : ¬ store.Finished attempt.pieceId) (whole : attempt.stream.failure = none)
      (checked : attempt.origin.check (crc32Digest (crc32 attempt.stream.bytes)) = .ok ())
      (content : after.cache.content taskId attempt.pieceId =
        some ((store.cache.content taskId attempt.pieceId).getD attempt.stream.bytes))
      (stored : after.records.lookup attempt.pieceId = some piece)
      (length : piece.length = attempt.request.length)
      (digest : piece.digest = crc32Digest (crc32 attempt.stream.bytes))
      variable {result : ClientResult Piece}

theorem metadata_started_cases (taskId : String)
    (started : store.downloadPieceStarted attempt = (result, after))
    (before : ¬ store.Finished attempt.pieceId) :
    ¬ after.Finished attempt.pieceId ∧ Frame store after taskId attempt.pieceId ∧
      after.cache = store.cache := by
  unfold downloadPieceStarted at started
  split at started
  · obtain rfl := (Prod.mk.inj started).2
    exact ⟨before, .refl store taskId _, rfl⟩
  · obtain rfl := (Prod.mk.inj started).2
    refine ⟨?_, frame_insert store taskId _ _, rfl⟩
    rintro ⟨piece, stored, finished⟩
    simp only [Table.lookup_insert_eq, if_true, some.injEq] at stored
    subst stored
    cases finished

/-- `download_cache_piece_started` returns with the store as it was, or with no finished
record of the piece. -/
theorem started_cases (taskId : String)
    (started : store.downloadCachePieceStarted attempt = (result, after)) :
    after = store ∧ (∀ piece, result = .ok piece → piece.isFinished = true) ∨
      ¬ store.Finished attempt.pieceId ∧ ¬ after.Finished attempt.pieceId ∧
        Frame store after taskId attempt.pieceId ∧ after.cache = store.cache := by
  unfold downloadCachePieceStarted at started
  split at started
  next error _ =>
    cases started
    exact .inl ⟨rfl, fun piece same => by cases same⟩
  next =>
    split at started
    next missing =>
      have before : ¬ store.Finished attempt.pieceId := by
        rintro ⟨piece, stored, -⟩
        rw [missing] at stored
        cases stored
      exact .inr ⟨before, metadata_started_cases taskId started before⟩
    next record stored =>
      split at started
      next finished =>
        cases started
        refine .inl ⟨rfl, fun piece same => ?_⟩
        cases same
        exact finished
      next unfinished =>
        have before : ¬ store.Finished attempt.pieceId := by
          rintro ⟨piece, same, finished⟩
          obtain rfl := some.inj (stored.symm.trans same)
          exact unfinished finished
        refine .inr ⟨before, ?_⟩
        split at started
        · exact metadata_started_cases taskId started before
        · obtain ⟨pending, frame, kept⟩ := metadata_started_cases taskId started
            (not_finished_erase store attempt.pieceId)
          exact ⟨pending, (frame_erase store taskId _).trans frame, kept⟩

theorem failed_cases (taskId : String) (store : CacheStore) (attempt : CacheAttempt) :
    (store.downloadCachePieceFailed attempt = store ∨
      ¬ (store.downloadCachePieceFailed attempt).Finished attempt.pieceId) ∧
    Frame store (store.downloadCachePieceFailed attempt) taskId attempt.pieceId := by
  have deleted : (downloadCachePieceFailed.delete store attempt = store ∨
      ¬ (downloadCachePieceFailed.delete store attempt).Finished attempt.pieceId) ∧
      Frame store (downloadCachePieceFailed.delete store attempt) taskId attempt.pieceId := by
    unfold downloadCachePieceFailed.delete
    split
    · exact ⟨.inl rfl, .refl store taskId _⟩
    · exact ⟨.inr (not_finished_erase store _), frame_erase store taskId _⟩
  unfold downloadCachePieceFailed
  split
  · exact ⟨.inl rfl, .refl store taskId _⟩
  · split
    · split
      · exact ⟨.inl rfl, .refl store taskId _⟩
      · exact deleted
    · exact deleted

theorem metadata_finished_cases (taskId : String) {completion}
    (finished : store.downloadPieceFinished attempt completion = (result, after)) :
    after.cache = store.cache ∧ Frame store after taskId attempt.pieceId ∧
      (after = store ∧ (∃ error, result = .error error) ∨
        ∃ piece, result = .ok piece ∧ after.records.lookup attempt.pieceId = some piece ∧
          piece.length = completion.length ∧ piece.digest = completion.digest) := by
  unfold downloadPieceFinished at finished
  split at finished
  · cases finished
    exact ⟨rfl, .refl store taskId _, .inl ⟨rfl, _, rfl⟩⟩
  · cases finished
    exact ⟨rfl, .refl store taskId _, .inl ⟨rfl, _, rfl⟩⟩
  · split at finished
    · cases finished
      exact ⟨rfl, .refl store taskId _, .inl ⟨rfl, _, rfl⟩⟩
    · cases finished
      refine ⟨rfl, frame_insert store taskId _ _, .inr ⟨_, rfl, ?_, rfl, rfl⟩⟩
      simp only [Table.lookup_insert_eq, if_true]

/-- The call that ends a download finishes the piece with what it read, or fails. -/
theorem handle_cases
    (handled : store.handleDownloadedCachePieceFinished taskId attempt = (result, after))
    (before : ¬ store.Finished attempt.pieceId) :
    Frame store after taskId attempt.pieceId ∧
      ((∃ error, result = .error error) ∧ ¬ after.Finished attempt.pieceId ∨
        (∃ piece, result = .ok piece) ∧ Outcome store taskId attempt after) := by
  unfold handleDownloadedCachePieceFinished at handled
  split at handled
  next error failed =>
    cases handled
    exact ⟨.refl store taskId _, .inl ⟨⟨error, rfl⟩, before⟩⟩
  next whole =>
    split at handled
    next error cache refused =>
      cases handled
      refine ⟨⟨fun _ _ => rfl, fun other _ => ?_⟩, .inl ⟨⟨error, rfl⟩, before⟩⟩
      exact Cache.content_of_writePiece_error refused other
    next cache written =>
      have content := Cache.content_writePiece written
      have framed : Frame store { store with cache } taskId attempt.pieceId := by
        refine ⟨fun _ _ => rfl, fun other different => ?_⟩
        rw [content other, if_neg different]
      dsimp only at handled
      split at handled
      next error mismatch =>
        cases handled
        exact ⟨framed, .inl ⟨⟨error, rfl⟩, before⟩⟩
      next checked =>
        obtain ⟨kept, frame, ⟨rfl, error, rfl⟩ | ⟨piece, rfl, stored, length, digest⟩⟩ :=
          metadata_finished_cases taskId handled
        · exact ⟨framed, .inl ⟨⟨error, rfl⟩, before⟩⟩
        · refine ⟨framed.trans frame, .inr ⟨⟨piece, rfl⟩, .finished (framed.trans frame) before
            whole checked ?_ stored length digest⟩⟩
          rw [kept, content, if_pos rfl]

theorem Outcome.of_started (kept : middle.cache = store.cache)
    (frame : Frame store middle taskId attempt.pieceId) (before : ¬ store.Finished attempt.pieceId)
    (outcome : Outcome middle taskId attempt after) (pending : ¬ middle.Finished attempt.pieceId) :
    Outcome store taskId attempt after := by
  cases outcome with
  | unchanged same =>
    subst same
    exact .unfinished frame pending
  | unfinished rest done => exact .unfinished (frame.trans rest) done
  | finished rest _ whole checked content stored length digest =>
    rw [kept] at content
    exact .finished (frame.trans rest) before whole checked content stored length digest

theorem download_outcome (downloaded : store.download taskId attempt = (result, after)) :
    Outcome store taskId attempt after := by
  unfold download at downloaded
  split at downloaded
  next error middle started =>
    obtain rfl := (Prod.mk.inj downloaded).2
    rcases started_cases taskId started with ⟨same, -⟩ | ⟨-, pending, frame, -⟩
    · exact .unchanged same
    · exact .unfinished frame pending
  next piece middle started =>
    rcases started_cases taskId started with ⟨rfl, returned⟩ | ⟨before, pending, frame, kept⟩
    · rw [if_pos (returned piece rfl)] at downloaded
      exact .unchanged (Prod.mk.inj downloaded).2.symm
    · apply Outcome.of_started kept frame before _ pending
      split at downloaded
      · exact .unchanged (Prod.mk.inj downloaded).2.symm
      · split at downloaded
        next handled =>
          obtain rfl := (Prod.mk.inj downloaded).2
          obtain ⟨-, ⟨⟨error, same⟩, -⟩ | ⟨-, outcome⟩⟩ := handle_cases handled pending
          · cases same
          · exact outcome
        next error last handled =>
          obtain rfl := (Prod.mk.inj downloaded).2
          obtain ⟨frame, ⟨-, unfinished⟩ | ⟨⟨piece, same⟩, -⟩⟩ := handle_cases handled pending
          · obtain ⟨failed, rest⟩ := failed_cases taskId last attempt
            refine .unfinished (frame.trans rest) ?_
            rcases failed with same | gone
            · rw [same]
              exact unfinished
            · exact gone
          · cases same

/-- A finished piece whose content is in the cache has the length and the digest of it. -/
def Intact (store : CacheStore) (taskId : String) : Prop :=
  ∀ pieceId piece content, store.records.lookup pieceId = some piece →
    piece.isFinished = true → store.cache.content taskId pieceId = some content →
      content.length = piece.length.toNat ∧ crc32Digest (crc32 content) = piece.digest

def Fresh (taskId : String) (store : CacheStore) : Prop :=
  ∃ task, store.cache.tasks.peek taskId = some task ∧ ∀ pieceId, task.pieces.lookup pieceId = none

def Step (taskId : String) (store : CacheStore) (attempt : CacheAttempt) (target : CacheStore) :
    Prop :=
  (store.download taskId attempt).2 = target

/-- An attempt that comes to finish its piece has read as many bytes as the piece has, and
finds no other bytes in the cache. -/
def Clean (taskId : String) (store : CacheStore) (attempt : CacheAttempt) : Prop :=
  ¬ store.Finished attempt.pieceId → attempt.stream.failure = none →
    attempt.origin.check (crc32Digest (crc32 attempt.stream.bytes)) = .ok () →
      attempt.stream.bytes.length = attempt.request.length.toNat ∧
        ∀ content, store.cache.content taskId attempt.pieceId = some content →
          content = attempt.stream.bytes

theorem Intact.of_frame (intact : store.Intact taskId) (frame : Frame store after taskId pieceId)
    (here : ∀ piece content, after.records.lookup pieceId = some piece →
      piece.isFinished = true → after.cache.content taskId pieceId = some content →
        content.length = piece.length.toNat ∧ crc32Digest (crc32 content) = piece.digest) :
    after.Intact taskId := by
  intro other piece content stored finished cached
  by_cases same : other = pieceId
  · subst same
    exact here piece content stored finished cached
  · rw [frame.record other same] at stored
    rw [frame.content other same] at cached
    exact intact other piece content stored finished cached

theorem Intact.step (intact : store.Intact taskId)
    (moved : Guarded (Step taskId) (Clean taskId) store attempt after) : after.Intact taskId := by
  obtain ⟨moved, clean⟩ := moved
  cases download_outcome (Prod.ext rfl moved : store.download taskId attempt = (_, after)) with
  | unchanged same =>
    rw [same]
    exact intact
  | unfinished frame pending =>
    refine intact.of_frame frame fun piece _ stored finished _ => ?_
    exact absurd ⟨piece, stored, finished⟩ pending
  | finished frame before whole checked content stored length digest =>
    obtain ⟨fits, same⟩ := clean before whole checked
    have read : (store.cache.content taskId attempt.pieceId).getD attempt.stream.bytes =
        attempt.stream.bytes := by
      cases found : store.cache.content taskId attempt.pieceId with
      | none => rfl
      | some old => exact same old found
    rw [read] at content
    refine intact.of_frame frame fun piece bytes found _ cached => ?_
    obtain rfl := some.inj (stored.symm.trans found)
    obtain rfl := some.inj (content.symm.trans cached)
    rw [length, digest]
    exact ⟨fits, rfl⟩

theorem Fresh.intact (fresh : Fresh taskId store) : store.Intact taskId := by
  obtain ⟨task, resident, empty⟩ := fresh
  intro pieceId piece content _ _ cached
  simp only [Cache.content, resident, bind_some, empty] at cached
  cases cached

/-- When every attempt that comes to finish its piece has read the whole piece and finds no
other bytes of it in the cache, the finished pieces are the cached ones. -/
theorem cached_pieces_intact
    (reached : Reachable (Fresh taskId) (Guarded (Step taskId) (Clean taskId)) store) :
    store.Intact taskId :=
  reached.invariant (Intact · taskId) (fun _ fresh => fresh.intact)
    fun _ _ _ intact moved => intact.step moved

namespace Small

def resident : CacheStore :=
  { records := ∅
    cache := { size := 1, capacity := 8, tasks := ⟨4, [("task", ⟨1, ∅⟩)]⟩ } }

def fetch (origin : CacheOrigin) (bytes : List UInt8) : CacheAttempt :=
  { pieceId := "task-0", request := ⟨0, 0, 1⟩, origin, stream := ⟨bytes, none⟩, now := 5
    fault := fun _ => none }

theorem fresh_resident : Fresh "task" resident :=
  ⟨⟨1, ∅⟩, rfl, fun _ => rfl⟩

end Small

/-- The stream of a parent breaks off, and the piece is fetched again from the source. -/
theorem cached_pieces_intact_of_source :
    let broken := { Small.fetch (.parent "" "parent") [8] with stream := ⟨[8], some (.io "reset")⟩ }
    ∃ failed store piece, Small.resident.download "task" broken = (.error (.io "reset"), failed) ∧
      (failed.download "task" (Small.fetch .source [7])).2 = store ∧
      store.records.lookup "task-0" = some piece ∧
      store.cache.content "task" "task-0" = some [7] ∧
      [(7 : UInt8)].length = piece.length.toNat ∧ crc32Digest (crc32 [7]) = piece.digest := by
  intro broken
  refine ⟨_, _, _, rfl, rfl, rfl, rfl, ?_⟩
  have first : Clean "task" Small.resident broken := fun _ whole => by cases whole
  have clean : Clean "task" (Small.resident.download "task" broken).2 (Small.fetch .source [7]) :=
    fun _ _ _ => ⟨rfl, fun _ found => by cases found⟩
  exact cached_pieces_intact
    (.next (.next (.start Small.fresh_resident) ⟨rfl, first⟩) ⟨rfl, clean⟩) "task-0" _ [7] rfl
    rfl rfl

/-- The bytes of a parent fail the digest check and stay in the cache; the retry from the
source finishes the piece with the digest of other bytes. -/
theorem cached_piece_of_failed_attempt :
    ∃ store piece, Reachable (Fresh "task") (Step "task") store ∧
      store.records.lookup "task-0" = some piece ∧ piece.isFinished = true ∧
      store.cache.content "task" "task-0" = some [8] ∧
      crc32Digest (crc32 [8]) ≠ piece.digest := by
  let corrupt := Small.fetch (.parent (crc32Digest (crc32 [7])) "parent") [8]
  let refused := (Small.resident.download "task" corrupt).2
  let retried := (refused.download "task" (Small.fetch .source [7])).2
  have first : Step "task" Small.resident corrupt refused := rfl
  have second : Step "task" refused (Small.fetch .source [7]) retried := rfl
  have reached : Reachable (Fresh "task") (Step "task") retried :=
    .next (.next (.start Small.fresh_resident) first) second
  have evaluated : (retried.records.lookup "task-0").any (fun piece =>
      piece.isFinished ∧ retried.cache.content "task" "task-0" = some [8] ∧
        crc32Digest (crc32 [8]) ≠ piece.digest) = true := by decide +kernel
  obtain ⟨piece, stored, holds⟩ := (any_eq_true _ _).mp evaluated
  obtain ⟨finished, cached, differs⟩ := of_decide_eq_true holds
  exact ⟨retried, piece, reached, stored, finished, cached, differs⟩

end CacheStore

end DragonflyClient.Storage
