import DragonflyClient.Storage.Download

/-!
What the callers of one piece do to its stored record.

The guards of `download_piece_failed`, `wait_for_piece_finished_failed` and
`download_piece_started` are a look at the record and a later delete or put of
it.  A caller between the two is `poised`, a waiter that no longer looks at
the notifier map is `stale`, and what they find in the store then is what the
others left there meanwhile.
-/

namespace DragonflyClient.Storage

open Library Position

namespace Position

/-- Past its look at the record, with a delete or a put of it as the next operation. -/
def poised : Position → Bool
  | deleting _ | starting | discarding => true
  | _ => false

/-- A waiter past its last look at the notifier map. -/
def stale : Position → Bool
  | expiring _ | deleting _ => true
  | _ => false

/-- The unfinished piece of a caller that is not yet in its terminal put or delete. -/
def holding : Position → Option Piece
  | downloading piece | finishing piece _ | storing piece _ => some piece
  | _ => none

/-- What a caller is about to store as finished is finished. -/
def Completes : Position → Prop
  | storing _ done => done.isFinished = true
  | _ => True

end Position

inductive RecordEffect (store : PieceStore) (position : Position) (after : PieceStore)
    (next : Position) : Prop where
  | read (same : after.record = store.record) (looked : next.poised = true → ¬ store.Finished)
  | write (poised : position.poised = true) (left : next.poised = false)
      (kept : after.Finished → store.Finished)
  | finish {piece done} (here : position = .storing piece done) (stored : after.record = some done)
      (left : next.poised = false)

section Operations

variable {store after : PieceStore} {request : DownloadRequest} {position next : Position}

theorem Position.poised_giveUp (timedOut : Bool) : (giveUp timedOut).poised = false := by
  cases timedOut <;> rfl

theorem Position.poised_of_pending {pending} (reads : position.pending = some pending) :
    pending.poised = false := by
  cases position with
  | waiting | listening | doubting =>
    cases reads
    rfl
  | _ => cases reads

section

variable (operation : Operation store request position after next)
include operation

/-- The record is written by a caller that is poised, or by one that has finished it. -/
theorem Operation.recordEffect : RecordEffect store position after next := by
  have harmless {after : PieceStore} {next : Position} (same : after.record = store.record)
      (left : next.poised = false) : RecordEffect store position after next := by
    refine .read same fun poised => ?_
    rw [left] at poised
    cases poised
  have absent : PieceStore.Finished { store with record := none } → store.Finished := by
    rintro ⟨piece, stored, -⟩
    cases stored
  cases operation with
  | pending reads => exact harmless rfl (poised_of_pending reads)
  | spare => exact harmless rfl (poised_giveUp _)
  | condemn unfinished | prepare unfinished | discard unfinished =>
    exact .read rfl fun _ => unfinished
  | delete => exact .write rfl (poised_giveUp _) absent
  | undeleted => exact .write rfl (poised_giveUp _) id
  | start =>
    refine .write rfl rfl ?_
    rintro ⟨piece, stored, finished⟩
    cases stored
    cases finished
  | drop => exact .write rfl rfl absent
  | unstarted | undropped => exact .write rfl rfl id
  | store => exact .finish rfl rfl rfl
  | _ => exact harmless rfl rfl

/-- A finished record is stored only from a piece that the completion has finished. -/
theorem Operation.completes : next.Completes := by
  cases operation with
  | pending reads =>
    cases position with
    | waiting | listening | doubting =>
      cases reads
      trivial
    | _ => cases reads
  | @spare timedOut | @delete timedOut | @undeleted timedOut => cases timedOut <;> trivial
  | complete => rfl
  | _ => trivial

/-- A waiter goes past its last look at the notifier map only when the map has no entry. -/
theorem Operation.stale
    (stale : next.stale = true) : position.stale = true ∨ store.inFlight = false := by
  cases operation with
  | pending reads =>
    cases position with
    | waiting | listening | doubting =>
      cases reads
      cases stale
    | _ => cases reads
  | expire free => exact .inr free
  | condemn | spare | delete | undeleted => exact .inl rfl
  | _ => cases stale

/-- Among the callers that do not own the entry, only a stale waiter writes the record. -/
theorem Operation.record_of_not_owns
    (outside : position.owns = false) (attentive : position.stale = false) :
    after.record = store.record := by
  cases operation with
  | start | store | drop => cases outside
  | delete => cases attentive
  | _ => rfl

theorem Operation.holding {piece} (holds : next.holding = some piece) :
    position.holding = some piece ∧ after.record = store.record ∨
      position = .starting ∧ after.record = some piece := by
  cases operation with
  | pending reads =>
    cases position with
    | waiting | listening | doubting =>
      cases reads
      cases holds
    | _ => cases reads
  | @spare timedOut | @delete timedOut | @undeleted timedOut =>
    cases timedOut <;> cases holds
  | start => exact .inr ⟨rfl, holds⟩
  | complete | incomplete | unstored => exact .inl ⟨holds, rfl⟩
  | _ => cases holds

end

theorem Position.owns_of_holding {piece} (holds : position.holding = some piece) :
    position.owns = true := by
  cases position <;> first | rfl | cases holds

theorem Turn.harmless {event} (turn : Turn event position next) :
    next.poised = false ∧ next.Completes := by
  cases turn <;> exact ⟨rfl, trivial⟩

theorem Turn.attentive {download : Download} {event} (turn : Turn event position next)
    (prompt : download.Prompt event) :
    next.stale = false ∧
      ∀ {piece : Piece}, next.holding = some piece → position.holding = some piece := by
  cases turn with
  | timeout => cases prompt
  | finish => exact ⟨rfl, id⟩
  | _ => exact ⟨rfl, fun holds => by cases holds⟩

end Operations

/-- The downloads of a piece, and the deletion of the pieces of its task. -/
inductive StoreEvent where
  | download (event : DownloadEvent)
  | deletePieces

namespace Download

variable {download target later : Download} {event : DownloadEvent}

/-- `Metadata::delete_pieces` deletes the record in a batch with the others of the task. -/
def storeStep (download : Download) : StoreEvent → Option Download
  | .download event => download.step event
  | .deletePieces => some { download with store := { download.store with record := none } }

def StoreStep (download : Download) (event : StoreEvent) (target : Download) : Prop :=
  download.storeStep event = some target

/-- A finished record is put when no other caller is between its look at the record and
its delete or put. -/
def Settled (download : Download) : StoreEvent → Prop
  | .download (.advance caller _) =>
    ∀ piece done, (download.callers caller).position = .storing piece done →
      ∀ other, other ≠ caller → (download.callers other).position.poised = false
  | _ => True

structure Lasting (download : Download) : Prop where
  clear : download.store.Finished → ∀ caller,
    (download.callers caller).position.poised = false
  completes : ∀ caller, (download.callers caller).position.Completes

theorem Initial.lasting (initial : download.Initial) : download.Lasting := by
  obtain ⟨-, idle⟩ := initial
  constructor
  · intro _ caller
    rw [idle]
    rfl
  · intro caller
    rw [idle]
    trivial

/-- The caller of the step is harmless afterwards or has seen an unfinished record, and
the others are as before. -/
theorem Lasting.moved (lasting : download.Lasting) {caller}
    (others : ∀ other, other ≠ caller → target.callers other = download.callers other)
    (clear : target.store.Finished → (∀ other, other ≠ caller →
      (download.callers other).position.poised = false) ∧
        (target.callers caller).position.poised = false)
    (completes : (target.callers caller).position.Completes) : target.Lasting := by
  constructor
  · intro finished other
    by_cases same : other = caller
    · rw [same]
      exact (clear finished).2
    · rw [others other same]
      exact (clear finished).1 other same
  · intro other
    by_cases same : other = caller
    · rw [same]
      exact completes
    · rw [others other same]
      exact lasting.completes other

theorem Lasting.step (lasting : download.Lasting)
    (moved : Guarded StoreStep Settled download (.download event) target) :
    target.Lasting ∧ (download.store.Finished → target.store.Finished) := by
  obtain ⟨moved, settled⟩ := moved
  obtain ⟨others, ⟨same, turn⟩ | ⟨fault, shape, advanced⟩⟩ := step_cases moved
  · obtain ⟨harmless, completes⟩ := turn.harmless
    rw [same]
    refine ⟨lasting.moved others (fun finished => ⟨fun other _ => ?_, harmless⟩) completes, id⟩
    rw [same] at finished
    exact lasting.clear finished other
  · have operation := operation_of_advance advanced
    have completes := operation.completes
    cases operation.recordEffect with
    | read unchanged looked =>
      have iff : target.store.Finished ↔ download.store.Finished := by
        simp only [PieceStore.Finished, unchanged]
      refine ⟨lasting.moved others (fun finished => ⟨fun other _ => ?_, ?_⟩) completes, iff.mpr⟩
      · exact lasting.clear (iff.mp finished) other
      · by_contra poised
        exact looked ((Bool.not_eq_false _).mp poised) (iff.mp finished)
    | write poised left kept =>
      -- The caller is poised, so the record is not finished, before or after.
      have unfinished (finished : download.store.Finished) : False := by
        have clear := lasting.clear finished event.caller
        rw [poised] at clear
        cases clear
      exact ⟨lasting.moved others (fun finished => (unfinished (kept finished)).elim)
        completes, fun finished => (unfinished finished).elim⟩
    | @finish piece done here stored left =>
      rw [shape] at settled
      refine ⟨lasting.moved others (fun _ => ⟨settled piece done here, left⟩) completes,
        fun _ => ⟨done, stored, ?_⟩⟩
      have finished := lasting.completes event.caller
      rw [here] at finished
      exact finished

theorem lasting_of_reachable (reached : Reachable Initial (Guarded StoreStep Settled) download) :
    download.Lasting := by
  apply reached.invariant Lasting (fun _ initial => initial.lasting)
  intro before event after lasting moved
  cases event with
  | download event => exact (lasting.step moved).1
  | deletePieces =>
    obtain rfl := Option.some.inj moved.1
    refine ⟨?_, lasting.completes⟩
    rintro ⟨piece, stored, -⟩
    cases stored

/-- When no finished record is put while another caller is poised, a record that is
finished stays so until the pieces of the task are deleted. -/
theorem finished_until_deleted (reached : Reachable Initial (Guarded StoreStep Settled) download)
    (finished : download.store.Finished) (run : Relation.ReflTransGen (fun before after => ∃ event,
      Guarded StoreStep Settled before (.download event) after) download later) :
    later.store.Finished := by
  suffices later.Lasting ∧ later.store.Finished from this.2
  induction run with
  | refl => exact ⟨lasting_of_reachable reached, finished⟩
  | tail _ moved ih =>
    obtain ⟨event, moved⟩ := moved
    obtain ⟨lasting, stays⟩ := ih.1.step moved
    exact ⟨lasting, stays ih.2⟩

def Alone (download : Download) : Prop :=
  ∀ other, other ≠ 0 → (download.callers other).position = .idle

theorem Alone.step (alone : download.Alone) (moved : Step download event target)
    (first : event.caller = 0) : target.Alone := by
  intro other different
  rw [(step_cases moved).1 other (first ▸ different)]
  exact alone other different

theorem Alone.settled (alone : download.Alone) (first : event.caller = 0) :
    download.Settled (.download event) := by
  cases event with
  | advance caller fault =>
    intro piece done _ other different
    rw [alone other (first ▸ different)]
    rfl
  | _ => trivial

def blank : Download :=
  { store := { record := none, inFlight := false }
    callers := fun _ => ⟨⟨0, 0, 4⟩, .idle⟩ }

def claimed : List DownloadEvent :=
  .call 0 ⟨0, 0, 4⟩ :: List.replicate 4 (.advance 0 none)

def completed : List DownloadEvent :=
  [.finish 0 ⟨0, 4, "crc32:1", none, 7⟩, .advance 0 none, .advance 0 none]

theorem Alone.reachable {events : List DownloadEvent} (first : ∀ event ∈ events, event.caller = 0)
    (performed : perform storeStep blank (events.map .download) = some download) :
    Reachable Initial (Guarded StoreStep Settled) download := by
  have start : Reachable Initial (Guarded StoreStep Settled) blank := .start ⟨rfl, fun _ => rfl⟩
  refine (start.perform_kept Alone (fun _ _ => rfl) ?_ performed).1
  intro label listed before after alone moved
  obtain ⟨event, among, rfl⟩ := List.mem_map.mp listed
  exact ⟨⟨moved, alone.settled (first event among)⟩, alone.step moved (first event among)⟩

theorem finished_until_deleted_of_completed :
    ∃ download later, perform storeStep blank ((claimed ++ completed).map .download) =
        some download ∧
      download.store.record = some ⟨0, 0, 4, "crc32:1", none, some 7⟩ ∧
      download.storeStep (.download (.call 1 ⟨0, 0, 4⟩)) = some later ∧
      later.store.Finished := by
  have performed : perform storeStep blank ((claimed ++ completed).map .download) = some _ := rfl
  refine ⟨_, _, performed, rfl, rfl, ?_⟩
  apply finished_until_deleted (Alone.reachable (by decide) performed) ⟨_, rfl, rfl⟩
  exact .single ⟨.call 1 ⟨0, 0, 4⟩, rfl, trivial⟩

/-- A waiter runs into its timeout and sees the record unfinished; then the first caller
finishes the piece. -/
def overtaken : List DownloadEvent :=
  claimed ++ .call 1 ⟨0, 0, 4⟩ :: List.replicate 3 (.advance 1 none) ++
    [.timeout 1, .advance 1 none] ++ completed

/-- The delete of the waiter then takes the finished record. -/
theorem finished_erased_by_waiter :
    ∃ download later, Reachable Initial StoreStep download ∧
      download.store.record = some ⟨0, 0, 4, "crc32:1", none, some 7⟩ ∧
      download.storeStep (.download (.advance 1 none)) = some later ∧
      later.store.record = none := by
  have performed : perform storeStep blank (overtaken.map .download) = some _ := rfl
  have start : Reachable Initial StoreStep blank := .start ⟨rfl, fun _ => rfl⟩
  exact ⟨_, _, start.perform (fun _ _ _ _ moved => moved) performed, rfl, rfl, rfl⟩

/-- An owner puts its record when no other caller is a stale waiter. -/
def Undisturbed (download : Download) : DownloadEvent → Prop
  | .advance caller _ => (download.callers caller).position = .starting →
      ∀ other, other ≠ caller → (download.callers other).position.stale = false
  | _ => True

def Peaceful (download : Download) (event : DownloadEvent) : Prop :=
  download.Prompt event ∧ download.Undisturbed event

/-- The record of a caller that has not come to its terminal put or delete is its own, and
nobody is on the way to delete it. -/
structure Sheltered (download : Download) : Prop where
  exclusive : download.Exclusive
  record : ∀ caller piece, (download.callers caller).position.holding = some piece →
    download.store.record = some piece
  attentive : ∀ caller piece, (download.callers caller).position.holding = some piece →
    ∀ other, other ≠ caller → (download.callers other).position.stale = false

theorem Initial.sheltered (initial : download.Initial) : download.Sheltered := by
  refine ⟨initial.exclusive, ?_, ?_⟩
  · intro caller piece holds
    rw [initial.2] at holds
    cases holds
  · intro caller piece holds
    rw [initial.2] at holds
    cases holds

/-- What a step of a caller means for the record, and for the caller as a waiter. -/
theorem peaceful_effect (moved : Guarded Step Peaceful download event target) :
    ((target.callers event.caller).position.stale = true →
      (download.callers event.caller).position.stale = true ∨ download.store.inFlight = false) ∧
    ((download.callers event.caller).position.owns = false →
      (download.callers event.caller).position.stale = false →
        target.store.record = download.store.record) ∧
    ∀ piece, (target.callers event.caller).position.holding = some piece →
      (download.callers event.caller).position.holding = some piece ∧
        target.store.record = download.store.record ∨
      target.store.record = some piece ∧ ∀ other, other ≠ event.caller →
        (download.callers other).position.stale = false := by
  obtain ⟨moved, prompt, undisturbed⟩ := moved
  obtain ⟨-, ⟨same, turn⟩ | ⟨fault, shape, advanced⟩⟩ := step_cases moved
  · rw [same]
    obtain ⟨attentive, holding⟩ := turn.attentive prompt
    refine ⟨fun stale => ?_, fun _ _ => rfl, fun piece holds => .inl ⟨holding holds, rfl⟩⟩
    rw [attentive] at stale
    cases stale
  · have operation := operation_of_advance advanced
    refine ⟨operation.stale, operation.record_of_not_owns, fun piece holds => ?_⟩
    rcases operation.holding holds with kept | ⟨starting, put⟩
    · exact .inl kept
    · rw [shape] at undisturbed
      exact .inr ⟨put, undisturbed starting⟩

theorem Sheltered.record_of_other (sheltered : download.Sheltered)
    (moved : Guarded Step Peaceful download event target) {caller piece}
    (holds : (download.callers caller).position.holding = some piece)
    (different : event.caller ≠ caller) : target.store.record = some piece := by
  obtain ⟨-, outside, -⟩ := peaceful_effect moved
  rw [outside _ (sheltered.attentive caller piece holds event.caller different)]
  · exact sheltered.record caller piece holds
  · by_contra owner
    exact different (sheltered.exclusive.single event.caller caller
      ((Bool.not_eq_false _).mp owner) (owns_of_holding holds))

theorem Sheltered.step (sheltered : download.Sheltered)
    (moved : Guarded Step Peaceful download event target) : target.Sheltered := by
  have others := (step_cases moved.1).1
  obtain ⟨stale, -, holding⟩ := peaceful_effect moved
  refine ⟨sheltered.exclusive.step ⟨moved.1, moved.2.1⟩, ?_, ?_⟩
  · intro caller piece holds
    by_cases same : caller = event.caller
    · rw [same] at holds
      rcases holding piece holds with ⟨held, kept⟩ | ⟨put, -⟩
      · rw [kept]
        exact sheltered.record _ piece held
      · exact put
    · rw [others caller same] at holds
      exact sheltered.record_of_other moved holds (Ne.symm same)
  · intro caller piece holds other different
    by_cases same : caller = event.caller
    · rw [same] at holds different
      rw [others other different]
      rcases holding piece holds with ⟨held, -⟩ | ⟨-, attentive⟩
      · exact sheltered.attentive _ piece held other different
      · exact attentive other different
    · rw [others caller same] at holds
      have attentive := sheltered.attentive caller piece holds other different
      by_cases mover : other = event.caller
      · -- The owner's entry is in the map, so the caller of the step does not pass it by.
        by_contra later
        rw [mover] at attentive later
        rcases stale ((Bool.not_eq_false _).mp later) with before | free
        · rw [attentive] at before
          cases before
        · rw [sheltered.exclusive.entry caller (owns_of_holding holds)] at free
          cases free
      · rw [others other mover]
        exact attentive

theorem sheltered_of_reachable (reached : Reachable Initial (Guarded Step Peaceful) download) :
    download.Sheltered :=
  reached.invariant Sheltered (fun _ initial => initial.sheltered)
    fun _ _ _ sheltered moved => sheltered.step moved

/-- When no wait times out and no owner puts its record in front of a stale waiter, an
owner keeps its record until its terminal call, and finds it there. -/
theorem owner_keeps_record (reached : Reachable Initial (Guarded Step Peaceful) download)
    {caller : Nat} {piece : Piece}
    (holds : (download.callers caller).position.holding = some piece) :
    download.store.record = some piece ∧
    (∀ event target, Guarded Step Peaceful download event target → event.caller ≠ caller →
      target.store.record = some piece) ∧
    ∀ request completion, advance download.store request none
      (.finishing piece completion) =
        some (download.store, .storing piece (completion.apply piece)) := by
  have sheltered := sheltered_of_reachable reached
  have stored := sheltered.record caller piece holds
  refine ⟨stored, ?_, ?_⟩
  · intro event target moved different
    exact sheltered.record_of_other moved holds different
  · intro request completion
    simp only [advance, PieceStore.getPiece, stored]

/-- The first caller fails; the second has waited for it and takes the piece over. -/
def takenOver : List DownloadEvent :=
  claimed ++ .call 1 ⟨0, 0, 4⟩ :: List.replicate 3 (.advance 1 none) ++
    .fail 0 :: List.replicate 3 (.advance 0 none) ++ .wake 1 :: List.replicate 5 (.advance 1 none)

/-- A step of one of two callers, none of which is stale. -/
def stepOfTwo (download : Download) (event : DownloadEvent) : Option Download :=
  if (download.callers 0).position.stale || (download.callers 1).position.stale then none
  else download.step event

theorem owner_keeps_record_of_claimed :
    ∃ download, perform stepOfTwo blank takenOver = some download ∧
      (download.callers 0).position = .ended ∧
      (download.callers 1).position.holding = some ⟨0, 0, 4, "", none, none⟩ ∧
      download.store.record = some ⟨0, 0, 4, "", none, none⟩ := by
  obtain ⟨download, performed, ended, holds⟩ : ∃ download,
      perform stepOfTwo blank takenOver = some download ∧
        (download.callers 0).position = .ended ∧
        (download.callers 1).position.holding = some ⟨0, 0, 4, "", none, none⟩ :=
    ⟨_, rfl, rfl, rfl⟩
  refine ⟨download, performed, ended, holds, ?_⟩
  have start : Reachable Initial (Guarded Step Peaceful) blank := .start ⟨rfl, fun _ => rfl⟩
  let others (download : Download) := ∀ other, 2 ≤ other → (download.callers other).position = .idle
  refine (owner_keeps_record (start.perform_kept others (fun _ _ => rfl) ?_ performed).1 holds).1
  intro event listed before after idle moved
  have own : ∀ event ∈ takenOver, event.caller < 2 ∧ before.Prompt event := by
    simp [takenOver, claimed, DownloadEvent.caller, Prompt]
  obtain ⟨caller, prompt⟩ := own event listed
  obtain ⟨attentive, moved⟩ := Option.ite_none_left_eq_some.mp moved
  simp only [Bool.or_eq_true, not_or, Bool.not_eq_true] at attentive
  have calm (other : Nat) : (before.callers other).position.stale = false := by
    rcases other with _ | _ | other
    · exact attentive.1
    · exact attentive.2
    · rw [idle _ (Nat.le_add_left 2 other)]
      rfl
  refine ⟨⟨moved, prompt, ?_⟩, fun other beyond => ?_⟩
  · cases event with
    | advance => exact fun _ other _ => calm other
    | _ => trivial
  · rw [(step_cases moved).1 other (by omega)]
    exact idle other beyond

/-- Two callers find an abandoned record.  The first is about to delete it when the second
has deleted it, claimed the piece and put its own. -/
def ambushed : List DownloadEvent :=
  .call 0 ⟨0, 0, 4⟩ :: List.replicate 7 (.advance 0 none) ++
    .call 1 ⟨0, 0, 4⟩ :: List.replicate 11 (.advance 1 none)

/-- The delete of the first then takes the record of the second, whose
`download_piece_finished` gets `PieceNotFound` and leaves it with its download. -/
theorem owner_loses_record :
    ∃ download later, Reachable Initial (Guarded Step Prompt) download ∧
      (download.callers 1).position = .downloading ⟨0, 0, 4, "", none, none⟩ ∧
      download.store.record = some ⟨0, 0, 4, "", none, none⟩ ∧
      Guarded Step Prompt download (.advance 0 none) later ∧
      later.store.record = none ∧
      (perform step later [.finish 1 ⟨0, 4, "crc32:1", none, 7⟩, .advance 1 none]).map
        (fun last => (last.callers 1).position) =
          some (.downloading ⟨0, 0, 4, "", none, none⟩) := by
  have performed : perform step abandoned ambushed = some _ := rfl
  exact ⟨_, _, reachable_of_calls ⟨rfl, fun _ => rfl⟩ (by decide) performed, rfl, rfl,
    ⟨rfl, trivial⟩, rfl, rfl⟩

end Download

end DragonflyClient.Storage
