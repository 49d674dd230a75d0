import DragonflyClient.Storage.WriteRange

/-!
The message loop of `download` (`dfget/main.rs`) and the output file that it writes when the
pieces are transferred from dfdaemon.

The progress bar is left out: nothing depends on it.
-/

namespace DragonflyClient.Dfget

open Storage List Option

structure FinishedPiece where
  number : UInt32
  offset : UInt64
  content : Option (List UInt8)
  deriving DecidableEq

/-- `DownloadTaskResponse`, by its `response`. -/
inductive TaskResponse where
  | started (contentLength : UInt64) (pieces : List UInt32)
  | pieceFinished (piece : Option FinishedPiece)
  | missing
  deriving DecidableEq

/-- What happens around one message: the failures of the file operations, how much of a long
content the file takes at once, and whether dfdaemon has made the output by now. -/
structure Circumstances where
  fallocate : Option DFError := none
  seek : Option DFError := none
  write : Option DFError := none
  flush : Option DFError := none
  direct : Nat := 0
  created : Bool := false

/-- A regular file; behind its end it reads as zero. -/
structure OutputFile where
  length : Nat
  bytes : FileContent

open OutputFile

namespace OutputFile

def empty : OutputFile := ⟨0, fun _ => 0⟩

/-- `File::set_len`, which truncates. -/
def setLen (file : OutputFile) (length : Nat) : OutputFile :=
  ⟨length, fun position => if position < length then file.bytes position else 0⟩

def writeAt (file : OutputFile) (offset : Nat) (content : List UInt8) : OutputFile :=
  ⟨if content = [] then file.length else max file.length (offset + content.length),
    file.bytes.writeAt offset content⟩

/-- `fallocate` of the client, which keeps the size it has set. -/
def fallocate (file : OutputFile) (contentLength : UInt64) : OutputFile :=
  if contentLength = 0 then file else file.setLen contentLength.toNat

end OutputFile

/-- `BufWriter<File>`: the file is at `position`, where the buffer goes. -/
structure Writer where
  file : OutputFile
  position : Nat
  buffer : List UInt8

namespace Writer

def capacity : Nat := 8 * 1024 * 1024

def flushBuf (writer : Writer) : Writer where
  file := writer.file.writeAt writer.position writer.buffer
  position := writer.position + writer.buffer.length
  buffer := []

/-- A seek flushes the buffer first. -/
def seek (writer : Writer) (offset : Nat) : Writer :=
  { writer.flushBuf with position := offset }

/-- Content of the size of the buffer goes past it until the rest is shorter. -/
def directLength (content : List UInt8) (direct : Nat) : Nat :=
  if content.length < capacity then 0
  else min content.length (max direct (content.length + 1 - capacity))

def writeAll (writer : Writer) (content : List UInt8) (direct : Nat) : Writer :=
  let writer :=
    if writer.buffer.length + content.length > capacity then writer.flushBuf else writer
  let taken := directLength content direct
  { file := writer.file.writeAt writer.position (content.take taken)
    position := writer.position + taken
    buffer := writer.buffer ++ content.drop taken }

end Writer

/-- `present` says whether something is at the output path. -/
structure Download where
  writer : Option Writer
  initialized : Bool
  remainingPieces : List UInt32
  present : Bool

namespace Download

/-- The state before the loop; a transfer has opened and truncated the output. -/
def begin (transferFromDfdaemon present : Bool) : Download where
  writer := if transferFromDfdaemon then some ⟨.empty, 0, []⟩ else none
  initialized := false
  remainingPieces := []
  present := transferFromDfdaemon || present

/-- The removal of an existing file succeeds. -/
def removeFile (present : Bool) : ClientResult Unit :=
  if present then .ok () else .error (.io "No such file or directory (os error 2)")

/-- An error exit: the output is removed, and a failure to do so is returned instead. -/
def abort (download : Download) (error : DFError) : ClientResult Unit × Download :=
  (match removeFile download.present with
    | .ok _ => .error error
    | .error inner => .error inner,
    { download with present := false })

/-- A finished piece; the result of an error exit is on the left. -/
def receivePiece (download : Download) (piece : FinishedPiece) (around : Circumstances) :
    Except (ClientResult Unit × Download) Download :=
  let remove (download : Download) :=
    { download with
      remainingPieces := download.remainingPieces.filter (· ≠ piece.number) }
  match download.writer with
  | none => .ok (remove download)
  | some writer =>
    match around.seek with
    | some error => .error (download.abort error)
    | none =>
      match piece.content with
      | none => .error (download.abort .invalidParameter)
      | some content =>
        match around.write with
        | some error => .error (download.abort error)
        | none =>
          let writer := (writer.seek piece.offset.toNat).writeAll content around.direct
          .ok (remove { download with writer := some writer })

def receive (download : Download) (message : TaskResponse) (around : Circumstances) :
    Except (ClientResult Unit × Download) Download :=
  let download := { download with present := download.present || around.created }
  match message with
  | .started contentLength pieces =>
    let start (download : Download) :=
      { download with initialized := true, remainingPieces := pieces }
    match download.writer with
    | none => .ok (start download)
    | some writer =>
      match around.fallocate with
      | some error => .error (download.abort error)
      | none =>
        .ok (start { download with
          writer := some { writer with file := writer.file.fallocate contentLength } })
  | .pieceFinished none => .error (download.abort .invalidParameter)
  | .pieceFinished (some piece) => download.receivePiece piece around
  | .missing => .error (download.abort .unexpectedResponse)

def finish (download : Download) (status : Option DFError) (around : Circumstances) :
    ClientResult Unit × Download :=
  let download := { download with present := download.present || around.created }
  match status with
  | some status => download.abort status
  | none =>
    if !download.initialized || !download.remainingPieces.isEmpty then
      download.abort (.unknown "download incomplete")
    else
      match download.writer with
      | none => (.ok (), download)
      | some writer =>
        match around.flush with
        | some error => download.abort error
        | none => (.ok (), { download with writer := some writer.flushBuf })

def loop (status : Option DFError) (last : Circumstances) :
    List (TaskResponse × Circumstances) → Download → ClientResult Unit × Download
  | [], download => download.finish status last
  | (message, around) :: messages, download =>
    match download.receive message around with
    | .error result => result
    | .ok download => loop status last messages download

theorem abort_spec (download : Download) (error : DFError) :
    (∃ returned, (download.abort error).1 = .error returned) ∧
      (download.abort error).2.present = false := by
  refine ⟨?_, rfl⟩
  unfold abort
  split <;> exact ⟨_, rfl⟩

inductive Received (download : Download) : TaskResponse → Download → Prop where
  | started {contentLength pieces present writer}
      (allocated : writer = download.writer.map fun writer =>
        { writer with file := writer.file.fallocate contentLength }) :
      Received download (.started contentLength pieces)
        { writer, initialized := true, remainingPieces := pieces, present }
  | skipped {piece present} (direct : download.writer = none) :
      Received download (.pieceFinished (some piece))
        { download with
          remainingPieces := download.remainingPieces.filter (· ≠ piece.number)
          present }
  | written {piece present writer content} (count : Nat) (transfer : download.writer = some writer)
      (given : piece.content = some content) :
      Received download (.pieceFinished (some piece))
        { download with
          writer := some ((writer.seek piece.offset.toNat).writeAll content count)
          remainingPieces := download.remainingPieces.filter (· ≠ piece.number)
          present }

/-- Every error exit removes the output. -/
theorem receive_spec (download : Download) (message : TaskResponse) (around : Circumstances) :
    (∃ next, download.receive message around = .ok next ∧ Received download message next) ∨
      ∃ (aborted : Download) (error : DFError),
        download.receive message around = .error (aborted.abort error) := by
  unfold receive
  cases message with
  | started contentLength pieces =>
    cases transfer : download.writer with
    | none => exact .inl ⟨_, rfl, .started (by simp [transfer])⟩
    | some writer =>
      cases around.fallocate with
      | some error => exact .inr ⟨_, _, rfl⟩
      | none => exact .inl ⟨_, rfl, .started (by simp [transfer])⟩
  | missing => exact .inr ⟨_, _, rfl⟩
  | pieceFinished piece =>
    cases piece with
    | none => exact .inr ⟨_, _, rfl⟩
    | some piece =>
      dsimp only
      unfold receivePiece
      cases transfer : download.writer with
      | none => exact .inl ⟨_, rfl, by simpa [transfer] using Received.skipped transfer⟩
      | some writer =>
        cases around.seek with
        | some error => exact .inr ⟨_, _, rfl⟩
        | none =>
          cases given : piece.content with
          | none => exact .inr ⟨_, _, rfl⟩
          | some content =>
            cases around.write with
            | some error => exact .inr ⟨_, _, rfl⟩
            | none => exact .inl ⟨_, rfl, .written around.direct transfer given⟩

theorem finish_spec (download : Download) (status : Option DFError) (around : Circumstances) :
    (∃ ended : Download, download.initialized = true ∧ download.remainingPieces = [] ∧
      download.finish status around = (.ok (), ended) ∧
      ended.writer = download.writer.map Writer.flushBuf) ∨
    ∃ (aborted : Download) (error : DFError),
      download.finish status around = aborted.abort error := by
  unfold finish
  cases status with
  | some status => exact .inr ⟨_, _, rfl⟩
  | none =>
    dsimp only
    split
    · exact .inr ⟨_, _, rfl⟩
    next complete =>
      have finished : download.initialized = true ∧ download.remainingPieces = [] := by
        simpa using complete
      cases transfer : download.writer with
      | none => exact .inl ⟨_, finished.1, finished.2, rfl, rfl⟩
      | some writer =>
        cases around.flush with
        | some error => exact .inr ⟨_, _, rfl⟩
        | none => exact .inl ⟨_, finished.1, finished.2, rfl, rfl⟩

/-- A run either aborts, or takes every message and finishes.  What each message of it keeps
then holds at the end. -/
theorem loop_spec (status : Option DFError) (last : Circumstances)
    (messages : List (TaskResponse × Circumstances)) (download : Download)
    (property : List TaskResponse → Download → Prop) (seen : List TaskResponse)
    (holds : property seen download)
    (kept : ∀ seen before message after, message ∈ messages.map Prod.fst →
      property seen before → Received before message after → property (seen ++ [message]) after) :
    (∃ final ended : Download, property (seen ++ messages.map Prod.fst) final ∧
      final.initialized = true ∧ final.remainingPieces = [] ∧
      loop status last messages download = (.ok (), ended) ∧
      ended.writer = final.writer.map Writer.flushBuf) ∨
    ∃ (aborted : Download) (error : DFError),
      loop status last messages download = aborted.abort error := by
  induction messages generalizing seen download with
  | nil =>
    rw [loop, map_nil, append_nil]
    rcases finish_spec download status last with ⟨ended, finished⟩ | aborted
    · exact .inl ⟨download, ended, holds, finished⟩
    · exact .inr aborted
  | cons first messages ih =>
    obtain ⟨message, around⟩ := first
    rw [loop]
    rcases receive_spec download message around with
      ⟨next, received, spec⟩ | ⟨aborted, error, failed⟩
    · rw [received]
      have step := kept seen download message next (by simp) holds spec
      have run := ih next (seen ++ [message]) step
        fun seen before other after listed => kept seen before other after (by
          exact mem_cons_of_mem _ listed)
      rwa [append_assoc, singleton_append] at run
    · rw [failed]
      exact .inr ⟨aborted, error, rfl⟩

/-- A piece of the last started response is awaited or was received behind it. -/
def Counted (seen : List TaskResponse) (download : Download) : Prop :=
  download.initialized = true → ∃ before contentLength pieces after,
    seen = before ++ .started contentLength pieces :: after ∧
    (∀ message ∈ after, ∀ length numbers, message ≠ .started length numbers) ∧
    ∀ number ∈ pieces, number ∈ download.remainingPieces ∨
      ∃ piece : FinishedPiece, .pieceFinished (some piece) ∈ after ∧ piece.number = number

theorem Counted.received {seen download next message} (counted : Counted seen download)
    (received : Received download message next) : Counted (seen ++ [message]) next := by
  have remaining : ∀ piece : FinishedPiece, message = .pieceFinished (some piece) →
      next.remainingPieces = download.remainingPieces.filter (· ≠ piece.number) →
      next.initialized = download.initialized → Counted (seen ++ [message]) next := by
    rintro piece rfl filtered same initialized
    obtain ⟨before, contentLength, pieces, after, rfl, later, covered⟩ :=
      counted (same.symm.trans initialized)
    refine ⟨before, contentLength, pieces, after ++ [.pieceFinished (some piece)], by simp, ?_, ?_⟩
    · intro message listed
      rcases mem_append.mp listed with listed | listed
      · exact later message listed
      · rw [mem_singleton.mp listed]
        intro length numbers different
        cases different
    · intro number listed
      rw [filtered]
      rcases covered number listed with waiting | ⟨other, given, same⟩
      · by_cases here : number = piece.number
        · exact .inr ⟨piece, by simp, here.symm⟩
        · exact .inl (mem_filter.mpr ⟨waiting, by simpa using here⟩)
      · exact .inr ⟨other, mem_append_left _ given, same⟩
  cases received with
  | @started contentLength pieces =>
    intro _
    exact ⟨seen, contentLength, pieces, [], rfl, by simp, fun number listed => .inl listed⟩
  | @skipped piece => exact remaining piece rfl rfl rfl
  | @written piece => exact remaining piece rfl rfl rfl

end Download

namespace OutputFile

theorem writeAt_nil (file : OutputFile) (offset : Nat) : file.writeAt offset [] = file := by
  rw [writeAt, if_pos rfl, FileContent.writeAt_nil]

theorem writeAt_writeAt (file : OutputFile) (offset : Nat) (first second : List UInt8) :
    (file.writeAt offset first).writeAt (offset + first.length) second =
      file.writeAt offset (first ++ second) := by
  by_cases nothing : first = []
  · simp [nothing, writeAt_nil]
  by_cases more : second = []
  · simp [more, writeAt_nil]
  simp only [writeAt, nothing, more, append_eq_nil_iff, and_false, if_false,
    FileContent.writeAt_writeAt, length_append, mk.injEq, and_true]
  omega

theorem setLen_writeAt (file : OutputFile) {offset length content}
    (inside : content = [] ∨ offset + content.length ≤ length) :
    (file.setLen length).writeAt offset content = (file.writeAt offset content).setLen length := by
  by_cases nothing : content = []
  · simp [nothing, writeAt_nil]
  have fits := inside.resolve_left nothing
  simp only [writeAt, setLen, nothing, if_false, mk.injEq]
  refine ⟨by omega, ?_⟩
  funext position
  unfold FileContent.writeAt
  by_cases short : position < length
  · simp [short]
  · have past : content.length ≤ position - offset := by omega
    simp [short, getElem?_eq_none past]

end OutputFile

namespace Writer

/-- The file as it will be once the buffer is written. -/
def settled (writer : Writer) : OutputFile := writer.flushBuf.file

theorem settled_fallocate (writer : Writer) {contentLength}
    (inside : contentLength ≠ 0 → writer.buffer = [] ∨
      writer.position + writer.buffer.length ≤ contentLength.toNat) :
    settled { writer with file := writer.file.fallocate contentLength } =
      writer.settled.fallocate contentLength := by
  unfold settled flushBuf fallocate
  split
  · rfl
  next announced => exact setLen_writeAt _ (inside announced)

/-- After a seek the content goes to the offset, whatever part of it stays in the buffer. -/
theorem writeAll_seek (writer : Writer) (offset : Nat) (content : List UInt8) (direct : Nat) :
    ((writer.seek offset).writeAll content direct).settled = writer.settled.writeAt offset content ∧
      ((writer.seek offset).writeAll content direct).position +
        ((writer.seek offset).writeAll content direct).buffer.length = offset + content.length := by
  have empty : (writer.seek offset).flushBuf = writer.seek offset := by
    simp [flushBuf, seek, writeAt_nil]
  have within : directLength content direct ≤ content.length := by
    unfold directLength
    split
    · exact Nat.zero_le _
    · exact Nat.min_le_left _ _
  have taken : (content.take (directLength content direct)).length =
      directLength content direct := by
    rw [length_take, Nat.min_eq_left within]
  unfold writeAll
  rw [empty, ite_self]
  constructor
  · have whole := writeAt_writeAt writer.settled offset
      (content.take (directLength content direct)) (content.drop (directLength content direct))
    rw [taken, take_append_drop] at whole
    exact whole
  · simp only [seek, flushBuf, nil_append, length_drop]
    omega

end Writer

/-- The piece has this byte at this position of the file. -/
def FinishedPiece.Covers (piece : FinishedPiece) (position : Nat) (byte : UInt8) : Prop :=
  ∃ content, piece.content = some content ∧ piece.offset.toNat ≤ position ∧
    content[position - piece.offset.toNat]? = some byte

def announcedLength (seen : List TaskResponse) : Nat :=
  seen.foldl (fun length message =>
    match message with
    | .started contentLength _ => if contentLength = 0 then length else contentLength.toNat
    | _ => length) 0

/-- Pieces of one number are the same, and others do not overlap. -/
def Consistent (messages : List TaskResponse) : Prop :=
  ∀ first second : FinishedPiece, .pieceFinished (some first) ∈ messages →
    .pieceFinished (some second) ∈ messages →
    (first.number = second.number →
      first.offset = second.offset ∧ first.content = second.content) ∧
    (first.number ≠ second.number → ∀ position one other,
      first.Covers position one → ¬ second.Covers position other)

/-- The pieces end before `bound`, and no content length is set below it. -/
def Within (bound : Nat) (messages : List TaskResponse) : Prop :=
  (∀ (piece : FinishedPiece) content, .pieceFinished (some piece) ∈ messages →
    piece.content = some content → piece.offset.toNat + content.length ≤ bound) ∧
  ∀ contentLength pieces, .started contentLength pieces ∈ messages → contentLength ≠ 0 →
    bound ≤ contentLength.toNat

/-- A file made of the pieces, with zeros between them. -/
structure Renders (seen : List TaskResponse) (file : OutputFile) : Prop where
  covered : ∀ (piece : FinishedPiece) position byte, .pieceFinished (some piece) ∈ seen →
    piece.Covers position byte → file.bytes position = byte
  blank : ∀ position, (∀ (piece : FinishedPiece) byte, .pieceFinished (some piece) ∈ seen →
    ¬ piece.Covers position byte) → file.bytes position = 0
  length : ∀ most, file.length ≤ most ↔ announcedLength seen ≤ most ∧
    ∀ (piece : FinishedPiece) content, .pieceFinished (some piece) ∈ seen →
      piece.content = some content → content ≠ [] →
      piece.offset.toNat + content.length ≤ most

theorem FinishedPiece.Covers.lt {piece : FinishedPiece} {position byte}
    (covers : piece.Covers position byte) :
    ∃ content, piece.content = some content ∧ content ≠ [] ∧
      position < piece.offset.toNat + content.length := by
  obtain ⟨content, given, after, found⟩ := covers
  obtain ⟨inside, -⟩ := List.getElem?_eq_some_iff.mp found
  exact ⟨content, given, ne_nil_of_length_pos (by omega), by omega⟩

namespace Renders

variable {seen : List TaskResponse} {file : OutputFile} {bound : Nat}

theorem empty : Renders [] .empty where
  covered _ _ _ listed := by simp at listed
  blank _ _ := rfl
  length most := by simp [OutputFile.empty, announcedLength]

theorem unique (renders : Renders seen file) {others other} (same : Renders others other)
    (pieces : ∀ piece : FinishedPiece, .pieceFinished (some piece) ∈ seen ↔
      .pieceFinished (some piece) ∈ others)
    (announced : announcedLength seen = announcedLength others) : file = other := by
  have lengths : file.length = other.length := by
    apply Nat.le_antisymm
    · rw [renders.length, announced]
      simp only [pieces]
      exact (same.length _).mp (Nat.le_refl _)
    · rw [same.length, ← announced]
      simp only [← pieces]
      exact (renders.length _).mp (Nat.le_refl _)
  have bytes : file.bytes = other.bytes := by
    funext position
    by_cases covered : ∃ (piece : FinishedPiece) (byte : UInt8),
        .pieceFinished (some piece) ∈ seen ∧ piece.Covers position byte
    · obtain ⟨piece, byte, listed, covers⟩ := covered
      rw [renders.covered piece position byte listed covers,
        same.covered piece position byte ((pieces piece).mp listed) covers]
    · have uncovered : ∀ (piece : FinishedPiece) byte, .pieceFinished (some piece) ∈ seen →
          ¬ piece.Covers position byte :=
        fun piece byte listed covers => covered ⟨piece, byte, listed, covers⟩
      rw [renders.blank position uncovered, same.blank position]
      simpa only [← pieces] using uncovered
  cases file
  cases other
  simp_all

theorem started (renders : Renders seen file) (contentLength : UInt64) (pieces : List UInt32)
    (within : Within bound (seen ++ [.started contentLength pieces])) :
    Renders (seen ++ [.started contentLength pieces]) (file.fallocate contentLength) := by
  have listed : ∀ piece : FinishedPiece,
      .pieceFinished (some piece) ∈ seen ++ [.started contentLength pieces] ↔
        .pieceFinished (some piece) ∈ seen := by simp
  have announced : announcedLength (seen ++ [.started contentLength pieces]) =
      if contentLength = 0 then announcedLength seen else contentLength.toNat := by
    simp [announcedLength, foldl_append]
  obtain ⟨ends, lengths⟩ := within
  simp only [listed] at ends
  unfold fallocate
  by_cases unknown : contentLength = 0
  · rw [if_pos unknown]
    rw [if_pos unknown] at announced
    constructor
    · simpa only [listed] using renders.covered
    · simpa only [listed] using renders.blank
    · simpa only [listed, announced] using renders.length
  have most := lengths contentLength pieces (by simp) unknown
  rw [if_neg unknown]
  rw [if_neg unknown] at announced
  constructor
  case covered =>
    intro piece position byte here covers
    rw [listed] at here
    obtain ⟨content, given, -, inside⟩ := covers.lt
    have before := ends piece content here given
    simp only [setLen]
    rw [if_pos (by omega), renders.covered piece position byte here covers]
  case blank =>
    simp only [listed, setLen]
    intro position uncovered
    rw [renders.blank position uncovered, ite_self]
  case length =>
    simp only [listed, announced, setLen]
    refine fun bound => ⟨fun below => ⟨below, fun piece content here given _ => ?_⟩, And.left⟩
    have before := ends piece content here given
    omega

theorem writeAt_covers {piece : FinishedPiece} {content position byte}
    (given : piece.content = some content) (bytes : FileContent)
    (covers : piece.Covers position byte) :
    bytes.writeAt piece.offset.toNat content position = byte := by
  obtain ⟨other, same, after, found⟩ := covers
  obtain rfl := some.inj (given.symm.trans same)
  rw [FileContent.writeAt, if_pos after, getD_eq_getElem?_getD, found, getD_some]

theorem writeAt_uncovered {piece : FinishedPiece} {content position}
    (given : piece.content = some content) (bytes : FileContent)
    (uncovered : ∀ byte, ¬ piece.Covers position byte) :
    bytes.writeAt piece.offset.toNat content position = bytes position := by
  unfold FileContent.writeAt
  split
  next after =>
    rw [getD_eq_getElem?_getD]
    cases found : content[position - piece.offset.toNat]? with
    | none => rfl
    | some byte => exact absurd ⟨content, given, after, found⟩ (uncovered byte)
  next => rfl

theorem piece (renders : Renders seen file) {piece : FinishedPiece} {content}
    (given : piece.content = some content)
    (consistent : Consistent (seen ++ [.pieceFinished (some piece)])) :
    Renders (seen ++ [.pieceFinished (some piece)]) (file.writeAt piece.offset.toNat content) := by
  have listed : ∀ other : FinishedPiece,
      .pieceFinished (some other) ∈ seen ++ [.pieceFinished (some piece)] ↔
        .pieceFinished (some other) ∈ seen ∨ other = piece := by simp
  have announced : announcedLength (seen ++ [.pieceFinished (some piece)]) =
      announcedLength seen := by simp [announcedLength, foldl_append]
  constructor
  case covered =>
    intro other position byte here covers
    by_cases again : ∃ byte, piece.Covers position byte
    · obtain ⟨own, itself⟩ := again
      obtain ⟨same, disjoint⟩ := consistent other piece here (by simp)
      have number : other.number = piece.number := by
        by_contra different
        exact disjoint different position byte own covers itself
      obtain ⟨offset, contents⟩ := same number
      apply writeAt_covers given
      obtain ⟨held, has, after, found⟩ := covers
      exact ⟨held, contents ▸ has, offset ▸ after, offset ▸ found⟩
    · have apart : ∀ byte, ¬ piece.Covers position byte := fun byte own => again ⟨byte, own⟩
      rcases (listed other).mp here with before | rfl
      · exact (writeAt_uncovered given _ apart).trans
          (renders.covered other position byte before covers)
      · exact absurd covers (apart byte)
  case blank =>
    intro position uncovered
    have apart : ∀ byte, ¬ piece.Covers position byte := fun byte => uncovered piece byte (by simp)
    refine (writeAt_uncovered given _ apart).trans (renders.blank position ?_)
    exact fun other byte before => uncovered other byte ((listed other).mpr (.inl before))
  case length =>
    intro most
    have before := renders.length most
    simp only [listed, announced, writeAt]
    by_cases nothing : content = []
    · rw [if_pos nothing, before]
      refine and_congr_right fun _ => ⟨fun below other held => ?_, fun below other held here =>
        below other held (.inl here)⟩
      rintro (here | rfl) has some
      · exact below other held here has some
      · exact absurd (Option.some.inj (has.symm.trans given) ▸ nothing) some
    · rw [if_neg nothing, Nat.max_le, before, and_assoc]
      refine and_congr_right fun _ => ⟨fun ⟨below, own⟩ other held => ?_, fun below =>
        ⟨fun other held here => below other held (.inl here),
          below piece content (.inr rfl) given nothing⟩⟩
      rintro (here | rfl) has some
      · exact below other held here has some
      · rwa [← Option.some.inj (has.symm.trans given)] at own

end Renders

theorem Consistent.mono {messages others} (consistent : Consistent messages)
    (part : others ⊆ messages) : Consistent others :=
  fun first second one other => consistent first second (part one) (part other)

theorem Within.mono {bound messages others} (within : Within bound messages)
    (part : others ⊆ messages) : Within bound others :=
  ⟨fun piece content listed => within.1 piece content (part listed),
    fun contentLength pieces listed => within.2 contentLength pieces (part listed)⟩

namespace Download

/-- The transfer so far: its file, with the buffer, is made of the pieces. -/
def Rendered (messages : List TaskResponse) (bound : Nat) (seen : List TaskResponse)
    (download : Download) : Prop :=
  seen ⊆ messages ∧ ∃ writer, download.writer = some writer ∧ Renders seen writer.settled ∧
    (writer.buffer = [] ∨ writer.position + writer.buffer.length ≤ bound)

theorem Rendered.received {messages seen bound download next message}
    (rendered : Rendered messages bound seen download) (consistent : Consistent messages)
    (within : Within bound messages) (listed : message ∈ messages)
    (received : Received download message next) :
    Rendered messages bound (seen ++ [message]) next := by
  obtain ⟨part, writer, held, renders, inside⟩ := rendered
  have further : seen ++ [message] ⊆ messages := append_subset.mpr ⟨part, by simpa using listed⟩
  refine ⟨further, ?_⟩
  cases received with
  | @started contentLength pieces present allocated same =>
    rw [held, map_some] at same
    refine ⟨_, same, ?_, inside⟩
    rw [writer.settled_fallocate]
    · exact renders.started contentLength pieces (within.mono further)
    · intro announced
      have most := within.2 contentLength pieces listed announced
      exact inside.imp_right fun below => Nat.le_trans below most
  | skipped direct => cases held.symm.trans direct
  | @written piece present own content count transfer given =>
    obtain rfl := some.inj (held.symm.trans transfer)
    obtain ⟨settled, reach⟩ := writer.writeAll_seek piece.offset.toNat content count
    refine ⟨_, rfl, ?_, .inr ?_⟩
    · rw [settled]
      exact renders.piece given (consistent.mono further)
    · rw [reach]
      exact within.1 piece content listed given

theorem transfer_renders {messages status last present bound}
    (consistent : Consistent (messages.map Prod.fst))
    (within : Within bound (messages.map Prod.fst))
    (succeeded : (loop status last messages (begin true present)).1 = .ok ()) :
    ∃ writer, (loop status last messages (begin true present)).2.writer = some writer ∧
      Renders (messages.map Prod.fst) writer.file := by
  rcases loop_spec status last messages (begin true present)
      (Rendered (messages.map Prod.fst) bound) []
      ⟨nil_subset _, _, rfl, by simpa [Writer.settled, Writer.flushBuf,
        writeAt_nil] using Renders.empty, .inl rfl⟩
      (fun _ _ _ _ listed rendered received =>
        rendered.received consistent within listed received)
    with ⟨final, ended, rendered, -, -, ran, same⟩ | ⟨aborted, error, ran⟩
  · obtain ⟨-, writer, held, renders, -⟩ := rendered
    rw [held, map_some] at same
    rw [ran]
    exact ⟨_, same, renders⟩
  · obtain ⟨⟨returned, failed⟩, -⟩ := abort_spec aborted error
    rw [ran, failed] at succeeded
    cases succeeded

/-- `download` succeeds only with every piece of the last started response received behind it;
an error leaves nothing at the output path; and the output of a transfer does not depend on the
order and repetition of the pieces, as long as they lie inside every content length. -/
theorem download_complete_or_removed (messages : List (TaskResponse × Circumstances))
    (status : Option DFError) (last : Circumstances) (transferFromDfdaemon present : Bool) :
    ((loop status last messages (begin transferFromDfdaemon present)).1 = .ok () →
      ∃ before contentLength pieces after,
        messages.map Prod.fst = before ++ .started contentLength pieces :: after ∧
        (∀ message ∈ after, ∀ length numbers, message ≠ .started length numbers) ∧
        ∀ number ∈ pieces, ∃ piece : FinishedPiece,
          .pieceFinished (some piece) ∈ after ∧ piece.number = number) ∧
    (∀ error, (loop status last messages (begin transferFromDfdaemon present)).1 = .error error →
      (loop status last messages (begin transferFromDfdaemon present)).2.present = false) ∧
    ∀ (others : List (TaskResponse × Circumstances)) (ending : Option DFError)
      (around : Circumstances) (bound otherBound : Nat),
      Consistent (messages.map Prod.fst) → Within bound (messages.map Prod.fst) →
      Within otherBound (others.map Prod.fst) →
      (∀ piece : FinishedPiece, .pieceFinished (some piece) ∈ messages.map Prod.fst ↔
        .pieceFinished (some piece) ∈ others.map Prod.fst) →
      announcedLength (messages.map Prod.fst) = announcedLength (others.map Prod.fst) →
      (loop status last messages (begin true present)).1 = .ok () →
      (loop ending around others (begin true present)).1 = .ok () →
      (loop status last messages (begin true present)).2.writer.map Writer.file =
        (loop ending around others (begin true present)).2.writer.map Writer.file := by
  have run := loop_spec status last messages (begin transferFromDfdaemon present) Counted []
    (fun initialized => by cases initialized)
    (fun _ _ _ _ _ counted received => counted.received received)
  refine ⟨fun succeeded => ?_, fun error failed => ?_, ?_⟩
  · rcases run with ⟨final, ended, counted, initialized, none, ran, -⟩ | ⟨aborted, error, ran⟩
    · obtain ⟨before, contentLength, pieces, after, split, later, covered⟩ := counted initialized
      refine ⟨before, contentLength, pieces, after, split, later, fun number listed => ?_⟩
      exact (covered number listed).resolve_left (by simp [none])
    · obtain ⟨⟨returned, failed⟩, -⟩ := abort_spec aborted error
      rw [ran, failed] at succeeded
      cases succeeded
  · rcases run with ⟨final, ended, -, -, -, ran, -⟩ | ⟨aborted, error, ran⟩
    · rw [ran] at failed
      cases failed
    · rw [ran]
      exact (abort_spec aborted error).2
  · intro others ending around bound otherBound consistent within otherWithin pieces announced
      succeeded alsoSucceeded
    have same : Consistent (others.map Prod.fst) := by
      intro first second one other
      exact consistent first second ((pieces first).mpr one) ((pieces second).mpr other)
    obtain ⟨writer, held, renders⟩ := transfer_renders consistent within succeeded
    obtain ⟨other, alsoHeld, alsoRenders⟩ := transfer_renders same otherWithin alsoSucceeded
    rw [held, alsoHeld, map_some, map_some, renders.unique alsoRenders pieces announced]

namespace Small

def head : FinishedPiece := ⟨0, 0, some [1]⟩

def tail : FinishedPiece := ⟨5, 20, some [9]⟩

/-- Messages around which nothing happens. -/
def quietly (messages : List TaskResponse) : List (TaskResponse × Circumstances) :=
  messages.map (·, {})

def run (messages : List TaskResponse) : ClientResult Unit × Download :=
  loop none {} (quietly messages) (begin true false)

theorem consistent {messages : List TaskResponse}
    (two : ∀ piece : FinishedPiece, .pieceFinished (some piece) ∈ messages →
      piece = head ∨ piece = tail) : Consistent messages := by
  intro first second one other
  have apart : ∀ position one other, head.Covers position one → ¬ tail.Covers position other := by
    intro position one other covers also
    obtain ⟨content, given, -, inside⟩ := covers.lt
    obtain ⟨-, -, after, -⟩ := also
    obtain rfl : [1] = content := some.inj given
    simp [head, tail] at inside after
    omega
  rcases two first one with rfl | rfl <;> rcases two second other with rfl | rfl
  · exact ⟨fun _ => ⟨rfl, rfl⟩, fun different => absurd rfl different⟩
  · exact ⟨(fun same => by cases same), fun _ => apart⟩
  · exact ⟨(fun same => by cases same), fun _ position one other also covers =>
      apart position other one covers also⟩
  · exact ⟨fun _ => ⟨rfl, rfl⟩, fun different => absurd rfl different⟩

theorem ends {piece content} (one : piece = head ∨ piece = tail)
    (given : piece.content = some content) : piece.offset.toNat + content.length ≤ 21 := by
  rcases one with rfl | rfl
  · obtain rfl : [1] = content := some.inj given
    decide
  · obtain rfl : [9] = content := some.inj given
    decide

end Small

theorem download_complete_or_removed_reordered :
    (Small.run [.started 30 [0, 5], .pieceFinished (some Small.tail),
        .pieceFinished (some Small.head)]).2.writer.map Writer.file =
      (Small.run [.started 30 [0, 5], .pieceFinished (some Small.head),
        .pieceFinished (some Small.tail), .pieceFinished (some Small.head)]).2.writer.map
          Writer.file := by
  refine (download_complete_or_removed _ none {} true false).2.2 _ none {} 21 21
    (Small.consistent ?_) ⟨fun piece content listed given => Small.ends ?_ given, ?_⟩
    ⟨fun piece content listed given => Small.ends ?_ given, ?_⟩ ?_ rfl (by decide +kernel)
    (by decide +kernel)
  all_goals simp_all [Small.quietly, or_comm]

/-- A piece behind the content length is kept or cut off, by what is repeated before the length
is set. -/
theorem output_depends_on_repetition :
    Consistent [.pieceFinished (some Small.tail), .pieceFinished (some Small.head),
      .started 10 [0], .pieceFinished (some Small.head)] ∧
    (Small.run [.pieceFinished (some Small.tail), .pieceFinished (some Small.head),
      .started 10 [0], .pieceFinished (some Small.head)]).1 = .ok () ∧
    (Small.run [.pieceFinished (some Small.tail), .started 10 [0],
      .pieceFinished (some Small.head)]).1 = .ok () ∧
    (Small.run [.pieceFinished (some Small.tail), .pieceFinished (some Small.head),
      .started 10 [0], .pieceFinished (some Small.head)]).2.writer.map (·.file.length) = some 10 ∧
    (Small.run [.pieceFinished (some Small.tail), .started 10 [0],
      .pieceFinished (some Small.head)]).2.writer.map (·.file.length) = some 21 :=
  ⟨Small.consistent (by simp), by decide +kernel, by decide +kernel, by decide +kernel,
    by decide +kernel⟩

end Download

end DragonflyClient.Dfget
