import DragonflyClient.Server.Position

/-!
The transmit ring sends every window of a Piece once and in order.

Chunk lengths never grow from one window to a later one.  A lease that had room for
a window therefore has room for every later window, in whichever of the two places
of the ring it is.
-/

namespace DragonflyClient.Server

open Library Rendezvous Urma TransferShape List Option UInt64 Position PieceSource

/-- A lease with room for the window at a chunk and for every later one. -/
def Roomy (shape : TransferShape) (start : Nat) (lease : TxWindowLease) : Prop :=
  ∃ wide, lease.Shaped wide ∧ ∀ later, start ≤ later → Narrows (lengths shape later) wide

namespace Roomy

variable {shape : TransferShape} {start : Nat} {lease : TxWindowLease}

theorem ofShaped (shaped : lease.Shaped (lengths shape start)) : Roomy shape start lease :=
  ⟨_, shaped, fun _ ordered => narrows shape ordered⟩

theorem later {further} (roomy : Roomy shape start lease) (ordered : start ≤ further) :
    Roomy shape further lease := by
  obtain ⟨wide, shaped, narrows⟩ := roomy
  exact ⟨wide, shaped, fun chunk beyond => narrows chunk (ordered.trans beyond)⟩

theorem reshape (roomy : Roomy shape start lease) (regular : shape.Regular)
    (inside : start < shape.chunkCount.toNat) :
    ∃ reshaped, lease.reshape (lengths shape start) = (reshaped, .ok ()) ∧
      reshaped.Shaped (lengths shape start) ∧ reshaped.core = lease.core := by
  obtain ⟨wide, shaped, narrows⟩ := roomy
  have bounded := end_lt regular inside
  apply shaped.reshape (narrows start (Nat.le_refl _)) (lengths_ne_nil regular inside)
  · exact lengths_pos regular
  · omega

end Roomy

structure Upload.Leases (upload : Upload) : Prop where
  acquire : ∀ lengths lease, upload.acquire lengths = .ok lease →
    ∃ pool : BufferPool, (pool.acquireTxWindowChunks lengths).2 = .ok lease
  tryAcquire : ∀ lengths lease, upload.tryAcquire lengths = .ok lease →
    ∃ pool : BufferPool, (pool.acquireTxWindowChunks lengths).2 = .ok lease

namespace Ring

def held (ring : Ring) : List LeaseRecycle :=
  ring.current.core :: (ring.spare.map TxWindowLease.core).toList

/-- The ring before it sends the window at a chunk; `acquired` are all leases it got. -/
structure Ahead (metadata : PieceMetadata) (content : List UInt8) (acquired : List LeaseRecycle)
    (start : Nat) (ring : Ring) : Prop where
  inside : start < (ofMetadata metadata).chunkCount.toNat
  sent : ring.sent.toNat = offset (ofMetadata metadata) start
  shaped : ring.current.Shaped (lengths (ofMetadata metadata) start)
  parts : ring.parts = slices content (offset (ofMetadata metadata) start)
    (lengths (ofMetadata metadata) start)
  source : Gives content (offset (ofMetadata metadata) start +
    (lengths (ofMetadata metadata) start).sum) ring.source
  spare : ∀ lease, ring.spare = some lease → Roomy (ofMetadata metadata)
    (start + count (ofMetadata metadata) start) lease
  sends : SentBefore (ofMetadata metadata) content start ring.sends
  leases : (ring.recycled ++ ring.held).Perm acquired

structure Finished (metadata : PieceMetadata) (content : List UInt8)
    (acquired : List LeaseRecycle) (ring : Ring) : Prop where
  sent : ring.sent = metadata.length
  sends : List.Forall₂ (Delivers (ofMetadata metadata) content) (windows (ofMetadata metadata))
    ring.sends
  leases : (ring.recycled ++ ring.held).Perm acquired

/-- How a step of the ring ends: in front of the next window, behind the last one, or
stopped from outside. -/
inductive Outcome (turn : Turn) (metadata : PieceMetadata) (content : List UInt8)
    (acquired : List LeaseRecycle) (start : Nat) : Ring × Except Failure Unit → Prop where
  | ahead {ring}
      (ahead : ring.Ahead metadata content acquired (start + count (ofMetadata metadata) start)) :
      Outcome turn metadata content acquired start (ring, .ok ())
  | finished {ring}
      (last : start + count (ofMetadata metadata) start = (ofMetadata metadata).chunkCount.toNat)
      (finished : ring.Finished metadata content acquired) :
      Outcome turn metadata content acquired start (ring, .ok ())
  | stopped {ring failure} (stops : turn.Stops metadata content failure) {reached}
      (sends : SentBefore (ofMetadata metadata) content reached ring.sends) :
      Outcome turn metadata content acquired start (ring, .error failure)

section Steps

variable {metadata : PieceMetadata} {content : List UInt8} {acquired : List LeaseRecycle}
  {start : Nat} {ring : Ring}

section

variable (ahead : ring.Ahead metadata content acquired start)
include ahead

theorem yieldSpare_cases (turn : Turn) :
    (∃ kept, ring.yieldSpare turn = (kept, .ok ()) ∧ kept.Ahead metadata content acquired start) ∨
      ∃ stopped error, ring.yieldSpare turn = (stopped, .error (.recycle error)) ∧
        turn.waiting = true ∧ turn.recycled = .error error ∧ stopped.sends = ring.sends := by
  unfold yieldSpare
  split
  next lease asked present =>
    split
    next error failed => exact .inr ⟨_, error, rfl, asked, failed, rfl⟩
    next =>
      have leases := ahead.leases
      rw [held, present] at leases
      refine .inl ⟨_, rfl, { ahead with spare := ?_, leases := ?_ }⟩
      · intro lease absent
        cases absent
      · refine List.Perm.trans ?_ leases
        simp only [held, map_some, map_none, toList_some, toList_none,
          append_assoc, singleton_append]
        exact (List.Perm.swap _ _ _).append_left _
  next => exact .inl ⟨ring, rfl, ahead⟩

theorem Ahead.sentBefore_send (regular : (ofMetadata metadata).Regular) :
    SentBefore (ofMetadata metadata) content
      (start + count (ofMetadata metadata) start) ring.send.sends := by
  have next := ahead.sends.next regular ahead.inside
  rw [send, ahead.shaped.layouts, ahead.parts]
  exact next

section Next

variable (regular : (ofMetadata metadata).Regular) {later : Nat}
  (next : start + count (ofMetadata metadata) start = later)
  (inside : later < (ofMetadata metadata).chunkCount.toNat) {nextOffset : UInt64}
  (located : nextOffset.toNat = offset (ofMetadata metadata) later)
  (given : Gives content nextOffset.toNat ring.source) {lease : TxWindowLease}
include regular inside located given

omit ahead in
theorem fill_next (shaped : lease.Shaped (lengths (ofMetadata metadata) later)) :
    (∃ error, ring.source.fill nextOffset.toNat lease = .error error ∧
        content.length < metadata.length.toNat) ∨
      ∃ advanced, ring.source.fill nextOffset.toNat lease = .ok (advanced,
          slices content (offset (ofMetadata metadata) later)
            (lengths (ofMetadata metadata) later)) ∧
        Gives content (offset (ofMetadata metadata) later +
          (lengths (ofMetadata metadata) later).sum) advanced := by
  have bounded := end_lt regular inside
  have ends := offset_add_sum regular inside
  have filled := fill_cases given shaped (by omega)
  rw [located] at filled ⊢
  refine filled.imp_left fun ⟨error, failed, short⟩ => ⟨error, failed, ?_⟩
  rw [ends] at short
  exact short.trans_le (Nat.min_le_left _ _)

include next

theorem overlap_outcome (present : ring.spare = some lease) (turn : Turn) :
    Outcome turn metadata content acquired start
      (andThen (ring.overlap turn nextOffset (lengths (ofMetadata metadata) later) lease)
        fun ring => ({ ring with sent := nextOffset }, .ok ())) := by
  have sends := next ▸ ahead.sentBefore_send regular
  have roomy := next ▸ ahead.spare lease present
  obtain ⟨reshaped, reshape, shaped, core⟩ := roomy.reshape regular inside
  simp only [overlap, reshape]
  cases sent : turn.sent with
  | error error => exact .stopped (.send sent) sends
  | ok _ =>
    rcases fill_next regular inside located given shaped with
      ⟨error, failed, short⟩ | ⟨advanced, filled, gives⟩
    · simp only [send, failed]
      exact .stopped (.fill error short) sends
    · simp only [send, filled]
      subst next
      refine .ahead
        { inside, sent := located, shaped, parts := rfl, source := gives, sends, spare := ?_,
          leases := ?_ }
      · intro returned same
        cases same
        exact (Roomy.ofShaped ahead.shaped).later (by omega)
      · have leases := ahead.leases
        rw [held, present] at leases
        refine List.Perm.trans ?_ leases
        simp only [held, map_some, toList_some, core]
        exact (List.Perm.swap _ _ _).append_left _

/-- Without a spare lease the next window is filled into the lease that comes back. -/
theorem reuse_outcome (absent : ring.spare = none) (turn : Turn) :
    Outcome turn metadata content acquired start
      (andThen (ring.reuse turn nextOffset (lengths (ofMetadata metadata) later))
        fun ring => ({ ring with sent := nextOffset }, .ok ())) := by
  have sends := next ▸ ahead.sentBefore_send regular
  have roomy := (Roomy.ofShaped ahead.shaped).later (show start ≤ later by omega)
  obtain ⟨reshaped, reshape, shaped, core⟩ := roomy.reshape regular inside
  unfold reuse
  cases sent : turn.sent with
  | error error => exact .stopped (.send sent) sends
  | ok _ =>
    simp only [send, reshape]
    rcases fill_next regular inside located given shaped with
      ⟨error, failed, short⟩ | ⟨advanced, filled, gives⟩
    · simp only [failed]
      exact .stopped (.fill error short) sends
    · simp only [filled]
      subst next
      refine .ahead
        { inside, sent := located, shaped, parts := rfl, source := gives, sends, spare := ?_,
          leases := ?_ }
      · intro lease present
        rw [absent] at present
        cases present
      · have leases := ahead.leases
        rw [held, absent] at leases
        rw [held, absent, core]
        exact leases

end Next

theorem last_outcome (regular : (ofMetadata metadata).Regular)
    (last : start + count (ofMetadata metadata) start = (ofMetadata metadata).chunkCount.toNat)
    {nextOffset} (located : nextOffset = metadata.length) (turn : Turn) :
    Outcome turn metadata content acquired start
      (andThen
        (match turn.sent with
          | .error error => (ring.send, .error (.send error))
          | .ok () => (ring.send, .ok ()))
        fun ring => ({ ring with sent := nextOffset }, .ok ())) := by
  have sends := last ▸ ahead.sentBefore_send regular
  cases sent : turn.sent with
  | error error => exact .stopped (.send sent) sends
  | ok _ => exact .finished last ⟨located, sends.all, ahead.leases⟩

theorem Ahead.iterate_outcome (regular : (ofMetadata metadata).Regular) (turn : Turn) :
    Outcome turn metadata content acquired start (ring.iterate (.ofMetadata metadata) turn) := by
  have bounded := Position.end_lt regular ahead.inside
  have ends := Position.offset_add_sum regular ahead.inside
  have within : (Position.lengths (ofMetadata metadata) start).sum < 2 ^ 64 := by omega
  -- the sum of `sent` and the window's length does not overflow
  have added : checkedAdd64 ring.sent (UInt64.ofNat ring.current.length) =
      some (ring.sent + UInt64.ofNat ring.current.length) := by
    rw [checkedAdd64, if_neg]
    rw [ahead.sent, ahead.shaped.total, toNat_ofNat within]
    omega
  have located : (ring.sent + UInt64.ofNat ring.current.length).toNat =
      Position.offset (ofMetadata metadata) start +
        (Position.lengths (ofMetadata metadata) start).sum := by
    rw [UInt64.toNat_add, ahead.sent, ahead.shaped.total, toNat_ofNat within]
    exact Nat.mod_eq_of_lt bounded
  unfold iterate
  rw [added]
  dsimp only
  generalize ring.sent + UInt64.ofNat ring.current.length = nextOffset at located
  rcases yieldSpare_cases ahead turn with
    ⟨kept, yielded, ahead⟩ | ⟨stopped, error, yielded, asked, failed, sends⟩
  · rw [yielded, andThen_ok]
    unfold advance
    have given := ahead.source
    rw [← located] at given
    by_cases more : start + Position.count (ofMetadata metadata) start <
        (ofMetadata metadata).chunkCount.toNat
    · have before := Position.offset_lt regular more
      have here : nextOffset.toNat = Position.offset (ofMetadata metadata)
          (start + Position.count (ofMetadata metadata) start) := by
        rw [located, ends]
        exact Nat.min_eq_right before.le
      have continues : nextOffset < (Piece.ofMetadata metadata).length := by
        rw [UInt64.lt_iff_toNat_lt, here]
        exact before
      rw [if_pos continues, Position.chunkLengths_eq regular more here]
      cases present : kept.spare with
      | some lease => exact overlap_outcome ahead regular rfl more here given present turn
      | none => exact reuse_outcome ahead regular rfl more here given present turn
    · have reached := Position.length_le_offset regular (Nat.not_lt.mp more)
      have last : nextOffset = metadata.length := by
        apply UInt64.toNat_inj.mp
        rw [located, ends]
        exact Nat.min_eq_left reached
      have stops : ¬ nextOffset < (Piece.ofMetadata metadata).length := by
        rw [last]
        exact UInt64.lt_irrefl _
      have inside := ahead.inside
      rw [if_neg stops]
      apply last_outcome ahead regular _ last turn
      unfold Position.count at more ⊢
      omega
  · rw [yielded, andThen_error]
    exact .stopped (.recycle asked failed) (sends ▸ ahead.sends)

end

theorem loop_outcome (regular : (ofMetadata metadata).Regular) (upload : Upload) (rounds : Nat)
    (index : Nat) (ahead : ring.Ahead metadata content acquired start)
    (enough : (ofMetadata metadata).chunkCount.toNat - start ≤ rounds) :
    (∃ final, ring.loop (.ofMetadata metadata) upload.turns rounds index = (final, .ok ()) ∧
        final.Finished metadata content acquired) ∨
      ∃ final failure reached,
        ring.loop (.ofMetadata metadata) upload.turns rounds index = (final, .error failure) ∧
        Outside upload metadata content failure ∧
        SentBefore (ofMetadata metadata) content reached final.sends := by
  induction rounds generalizing index ring start with
  | zero =>
    have inside := ahead.inside
    omega
  | succ rounds ih =>
    have before : ring.sent < (Piece.ofMetadata metadata).length := by
      rw [lt_iff_toNat_lt, ahead.sent]
      exact offset_lt regular ahead.inside
    have outcome := ahead.iterate_outcome regular (upload.turns index)
    rw [loop, if_pos before]
    generalize ring.iterate (.ofMetadata metadata) (upload.turns index) = stepped at outcome
    cases outcome with
    | ahead next =>
      have some := count_pos regular ahead.inside
      exact ih (index + 1) next (by omega)
    | @finished ring last finished =>
      rw [andThen_ok]
      refine .inl ⟨ring, ?_, finished⟩
      cases rounds with
      | zero => rfl
      | succ rounds =>
        rw [loop, if_neg]
        rw [finished.sent]
        exact UInt64.lt_irrefl _
    | @stopped ring failure stops reached sends =>
      exact .inr ⟨ring, failure, reached, rfl, .turn index stops, sends⟩

theorem optionalLease_roomy {upload} (leases : upload.Leases)
    (regular : (ofMetadata metadata).Regular) {firstWindowLen}
    (located : firstWindowLen.toNat = min metadata.length.toNat
      (offset (ofMetadata metadata) (count (ofMetadata metadata) 0))) {lease}
    (given : optionalLease (.ofMetadata metadata) upload firstWindowLen = .ok (some lease)) :
    Roomy (ofMetadata metadata) (count (ofMetadata metadata) 0) lease := by
  unfold optionalLease at given
  split at given
  next wanted =>
    -- the second window exists, since the first one ends before the Piece does
    have before : firstWindowLen.toNat < metadata.length.toNat := lt_iff_toNat_lt.mp wanted.2.1
    have inside : count (ofMetadata metadata) 0 <
        (ofMetadata metadata).chunkCount.toNat := by
      by_contra outside
      have reached := length_le_offset regular (Nat.not_lt.mp outside)
      change metadata.length.toNat ≤ _ at reached
      omega
    have here : firstWindowLen.toNat = offset (ofMetadata metadata)
        (count (ofMetadata metadata) 0) := by omega
    rw [chunkLengths_eq regular inside here] at given
    dsimp only at given
    split at given
    next acquired =>
      cases given
      obtain ⟨pool, issued⟩ := leases.tryAcquire _ _ acquired
      exact Roomy.ofShaped (BufferPool.shaped_of_acquire_ok issued)
    next => cases given
    next => cases given
  next => cases given

theorem length_ne_zero_of_start {source upload}
    (started : Ring.start (.ofMetadata metadata) source upload = .ok ring) :
    metadata.length ≠ 0 := by
  intro empty
  have refused : (Piece.ofMetadata metadata).chunkLengths 0 = .error .invalidParameter := by
    simp [Piece.chunkLengths, Piece.ofMetadata, txWindowChunkLengths, empty]
  rw [Ring.start, refused] at started
  cases started

theorem ahead_of_start {source} (gives : Gives content 0 source) {upload} (leases : upload.Leases)
    (regular : (ofMetadata metadata).Regular)
    (started : Ring.start (.ofMetadata metadata) source upload = .ok ring) :
    ring.Ahead metadata content ring.acquired 0 := by
  have inside : 0 < (ofMetadata metadata).chunkCount.toNat := by
    apply regular.covers.positive
    rw [Nat.pos_iff_ne_zero]
    exact fun zero => regular.length (UInt64.toNat_inj.mp zero)
  have first : (0 : UInt64).toNat = offset (ofMetadata metadata) 0 := (Nat.zero_mul _).symm
  have bounded := end_lt regular inside
  have ends := offset_add_sum regular inside
  rw [← first, UInt64.toNat_zero, Nat.zero_add] at bounded ends
  rw [Nat.zero_add] at ends
  unfold Ring.start at started
  rw [chunkLengths_eq regular inside first] at started
  dsimp only at started
  split at started
  · cases started
  next current acquired =>
  obtain ⟨pool, issued⟩ := leases.acquire _ _ acquired
  have shaped := BufferPool.shaped_of_acquire_ok issued
  rcases fill_cases gives shaped (by omega) with
    ⟨error, failed, short⟩ | ⟨advanced, filled, given⟩
  · rw [failed] at started
    cases started
  rw [filled] at started
  dsimp only at started
  split at started
  · cases started
  next spare optional =>
  split at started
  · cases started
  cases started
  refine
    { inside, sent := first, shaped, parts := ?_, source := ?_, spare := ?_,
      sends := SentBefore.zero _ _, leases := List.Perm.refl _ }
  · rw [← first]
    rfl
  · rw [← first]
    exact given
  · intro lease present
    obtain rfl : spare = some lease := present
    rw [Nat.zero_add]
    apply optionalLease_roomy leases regular _ optional
    rw [shaped.total, toNat_ofNat bounded, ends]
    rfl

/-- What comes of an upload: failures come from outside, the windows are sent in order, and at the
end all of them are, with every lease given back once. -/
structure Uploads (upload : Upload) (metadata : PieceMetadata) (content : List UInt8)
    (acquired : List LeaseRecycle) (outcome : Ring × Except Failure Unit) : Prop where
  stops : ∀ failure, outcome.2 = .error failure → Outside upload metadata content failure
  partly : ∃ done, done <+: windows (ofMetadata metadata) ∧
    List.Forall₂ (Delivers (ofMetadata metadata) content) done outcome.1.sends
  whole : outcome.2 = .ok () →
    List.Forall₂ (Delivers (ofMetadata metadata) content) (windows (ofMetadata metadata))
      outcome.1.sends ∧
    outcome.1.sent = metadata.length ∧ outcome.1.recycled.Perm acquired

theorem finish_spec (finished : ring.Finished metadata content acquired) (upload : Upload) :
    Uploads upload metadata content acquired (ring.finish (.ofMetadata metadata) upload) := by
  obtain ⟨sent, sends, leases⟩ := finished
  have whole : ¬ ring.sent ≠ (Piece.ofMetadata metadata).length := not_not.mpr sent
  unfold finish
  rw [if_neg whole]
  cases current : upload.recycledCurrent with
  | error error =>
    refine ⟨?_, ⟨_, prefix_rfl, sends⟩, fun succeeded => nomatch succeeded⟩
    rintro failure same
    cases same
    exact .recycle (.inl current)
  | ok _ =>
    cases present : ring.spare with
    | none =>
      rw [held, present] at leases
      exact ⟨(fun _ failed => nomatch failed), ⟨_, prefix_rfl, sends⟩,
        fun _ => ⟨sends, sent, leases⟩⟩
    | some lease =>
      cases spare : upload.recycledSpare with
      | error error =>
        refine ⟨?_, ⟨_, prefix_rfl, sends⟩, fun succeeded => nomatch succeeded⟩
        rintro failure same
        cases same
        exact .recycle (.inr spare)
      | ok _ =>
        rw [held, present] at leases
        refine ⟨(fun _ failed => nomatch failed), ⟨_, prefix_rfl, sends⟩,
          fun _ => ⟨sends, sent, ?_⟩⟩
        change ((ring.recycled ++ [ring.current.core]) ++ [lease.core]).Perm acquired
        rw [append_assoc]
        exact leases

theorem run_spec (regular : (ofMetadata metadata).Regular)
    (ahead : ring.Ahead metadata content acquired start) (enough :
      (ofMetadata metadata).chunkCount.toNat - start ≤ (Piece.ofMetadata metadata).length.toNat)
    (upload : Upload) :
    Uploads upload metadata content acquired (ring.run (.ofMetadata metadata) upload) := by
  rw [run]
  rcases loop_outcome regular upload _ 0 ahead enough with
    ⟨final, looped, finished⟩ | ⟨final, failure, reached, looped, outside, sends⟩
  · rw [looped, andThen_ok]
    exact finish_spec finished upload
  · rw [looped, andThen_error]
    refine ⟨?_, sends.partly, fun succeeded => nomatch succeeded⟩
    rintro stopped same
    cases same
    exact outside

end Steps

/-- The send loop and what follows it, for every Piece, every source of its bytes and
every choice of the environment: it stops only for a failed call of the session or the
fabric or a source that is too short, what it sent by then is a beginning of the
windows, and when it succeeds it has sent every window with its chunk lengths and
its bytes and given back every lease once.  It succeeds when the calls do and the source
is long enough. -/
theorem sends_piece_once (metadata : PieceMetadata) (chunkSize : metadata.chunkSize ≠ 0)
    (inflight : metadata.maxInflightChunks ≠ 0) (content : List UInt8) (source : PieceSource)
    (opened : source = .mapped content ∨ source = .reader content) (upload : Upload)
    (leases : upload.Leases) (ring : Ring)
    (started : Ring.start (.ofMetadata metadata) source upload = .ok ring) :
    let shape := TransferShape.ofMetadata metadata
    let outcome := ring.run (.ofMetadata metadata) upload
    (∀ failure, outcome.2 = .error failure → Outside upload metadata content failure) ∧
    (∃ done, done <+: windows shape ∧ List.Forall₂ (Delivers shape content) done outcome.1.sends) ∧
    (outcome.2 = .ok () →
      List.Forall₂ (Delivers shape content) (windows shape) outcome.1.sends ∧
      outcome.1.sent = metadata.length ∧
      outcome.1.recycled.Perm ring.acquired) ∧
    (upload.Answered → metadata.length.toNat ≤ content.length → outcome.2 = .ok ()) := by
  have regular : (TransferShape.ofMetadata metadata).Regular :=
    ⟨length_ne_zero_of_start started, chunkSize, inflight, rfl⟩
  have gives : Gives content 0 source := by
    rcases opened with rfl | rfl
    · exact .mapped 0
    · exact .reader 0
  have ahead := ahead_of_start gives leases regular started
  have enough : (TransferShape.ofMetadata metadata).chunkCount.toNat - 0 ≤
      metadata.length.toNat := by
    have starts := offset_lt regular
      (show (TransferShape.ofMetadata metadata).chunkCount.toNat - 1 < _ from
        Nat.sub_lt ahead.inside Nat.one_pos)
    have further := Nat.mul_le_mul_left
      ((TransferShape.ofMetadata metadata).chunkCount.toNat - 1) regular.size_pos
    change _ < metadata.length.toNat at starts
    unfold offset at starts
    omega
  obtain ⟨stops, partly, whole⟩ := run_spec regular ahead enough upload
  refine ⟨stops, partly, whole, fun answered long => ?_⟩
  cases ended : (ring.run (.ofMetadata metadata) upload).2 with
  | error failure => exact absurd (stops failure ended) (answered.not_outside long)
  | ok _ => rfl

def smallPool : BufferPool where
  segment := some 16
  slots := BufferPool.initialSlots ⟨4, 3, 1, 8⟩
  freeTx := [0, 1, 2]
  freeRx := [3]
  leases := LeaseBook.new 0
  accepting := true

def tenBytes : Upload where
  acquire lengths := (smallPool.acquireTxWindowChunks lengths).2
  pipelineDepth := 2
  waiting := false
  tryAcquire lengths := ((smallPool.acquireTxWindowChunks [4, 4]).1.acquireTxWindowChunks lengths).2
  ready := .ok ()
  turns _ := { waiting := false, recycled := .ok (), sent := .ok () }
  recycledCurrent := .ok ()
  recycledSpare := .ok ()

/-- Ten bytes in chunks of four, two at a time: two windows, the second one filled into
the spare lease. -/
theorem sends_ten_bytes :
    let metadata : PieceMetadata := ⟨0, 10, "", 4, 2⟩
    let content : List UInt8 := [0, 1, 2, 3, 4, 5, 6, 7, 8, 9]
    ∃ ring, Ring.start (.ofMetadata metadata) (.reader content) tenBytes = .ok ring ∧
      (ring.run (.ofMetadata metadata) tenBytes).1.sends =
        [⟨[4, 4], [[0, 1, 2, 3], [4, 5, 6, 7]]⟩, ⟨[2], [[8, 9]]⟩] ∧
      (ring.run (.ofMetadata metadata) tenBytes).2 = .ok () ∧
      (ring.run (.ofMetadata metadata) tenBytes).1.recycled.Perm ring.acquired := by
  have leases : tenBytes.Leases :=
    ⟨fun _ _ acquired => ⟨_, acquired⟩, fun _ _ acquired => ⟨_, acquired⟩⟩
  obtain ⟨-, -, whole, succeeds⟩ := sends_piece_once ⟨0, 10, "", 4, 2⟩ (by decide) (by decide)
    [0, 1, 2, 3, 4, 5, 6, 7, 8, 9] _ (.inr rfl) tenBytes leases _ rfl
  have ended := succeeds ⟨fun _ => rfl, fun _ => rfl, rfl, rfl⟩ (by decide)
  exact ⟨_, rfl, by decide +kernel, ended, (whole ended).2.2⟩

end Ring

end DragonflyClient.Server
