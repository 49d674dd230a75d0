import DragonflyClient.Resource.TaskDownload

/-!
A download that returns `Ok` has had every interested piece reported as finished.

What a stage is asked for, and what the scheduler is told, is right as long as the scheduler
does not call the task empty and no stage follows an error that drops pieces.  Both can be read
off the script.
-/

namespace DragonflyClient.Resource

open Storage Library List

section Numbers

def numbers (pieces : List Piece) : List UInt32 := pieces.map (·.number)

@[simp]
theorem numbers_cons (piece : Piece) (pieces : List Piece) :
    numbers (piece :: pieces) = piece.number :: numbers pieces := rfl

theorem mem_numbers {pieces number} :
    number ∈ numbers pieces ↔ ∃ piece ∈ pieces, piece.number = number := mem_map

theorem removeFinished_eq (finished interested : List Piece) :
    removeFinishedFromInterested finished interested =
      interested.filter fun piece => piece.number ∉ numbers finished := by
  apply filter_congr
  intro piece _
  rw [Bool.eq_iff_iff, decide_eq_true_eq, mem_numbers]
  simp only [Bool.not_eq_true', any_eq_false, beq_iff_eq, not_exists, not_and]

theorem mem_removeFinished {finished interested piece} :
    piece ∈ removeFinishedFromInterested finished interested ↔
      piece ∈ interested ∧ piece.number ∉ numbers finished := by
  rw [removeFinished_eq, mem_filter, decide_eq_true_eq]

def Keyed (table : Table UInt32 Piece) : Prop :=
  ∀ number piece, table.lookup number = some piece → piece.number = number

variable {table : Table UInt32 Piece}

theorem Keyed.insert (keyed : Keyed table) (piece : Piece) :
    Keyed (table.insert piece.number piece) := by
  intro number entry found
  rw [Table.lookup_insert_eq] at found
  split at found
  next same =>
    cases found
    exact same.symm
  next => exact keyed number entry found

theorem Keyed.numbers (keyed : Keyed table) : numbers (table.entries.map (·.2)) = table.keys := by
  rw [Resource.numbers, map_map, AList.keys, List.keys]
  apply map_congr_left
  intro entry listed
  exact keyed entry.1 entry.2 (AList.mem_lookup_iff.mpr listed)

theorem Keyed.foldl {put} (keeps : ∀ table piece, Keyed table → Keyed (put table piece))
    (adds : ∀ table piece number, number ∈ put table piece ↔ number = piece.number ∨ number ∈ table)
    (pieces : List Piece) (keyed : Keyed table) :
    Keyed (pieces.foldl put table) ∧
      ∀ number, number ∈ pieces.foldl put table ↔
        number ∈ table ∨ number ∈ Resource.numbers pieces := by
  induction pieces generalizing table with
  | nil => simp [keyed, Resource.numbers]
  | cons piece pieces ih =>
    obtain ⟨filled, members⟩ := ih (keeps table piece keyed)
    refine ⟨filled, fun number => ?_⟩
    rw [foldl_cons, members, adds, numbers_cons, mem_cons, or_assoc, or_left_comm]

theorem merge_spec (finished old : List Piece) :
    (numbers (mergeFinishedPieces finished old)).Nodup ∧
      ∀ number, number ∈ numbers (mergeFinishedPieces finished old) ↔
        number ∈ numbers finished ∨ number ∈ numbers old := by
  have empty : Keyed ∅ := by
    intro number piece found
    cases found
  obtain ⟨keyed, members⟩ := Keyed.foldl (fun _ piece keyed => keyed.insert piece)
    (fun _ _ _ => AList.mem_insert _) finished empty
  have kept (table : Table UInt32 Piece) (piece : Piece) (keyed : Keyed table) :
      Keyed (if (table.lookup piece.number).isSome then table
        else table.insert piece.number piece) := by
    split
    · exact keyed
    · exact keyed.insert piece
  have added (table : Table UInt32 Piece) (piece : Piece) (number : UInt32) :
      number ∈ (if (table.lookup piece.number).isSome then table
        else table.insert piece.number piece) ↔ number = piece.number ∨ number ∈ table := by
    split
    next present =>
      rw [AList.lookup_isSome] at present
      refine ⟨.inr, ?_⟩
      rintro (rfl | among)
      · exact present
      · exact among
    next => exact AList.mem_insert _
  obtain ⟨merged, all⟩ := Keyed.foldl kept added old keyed
  have same : numbers (mergeFinishedPieces finished old) = _ := merged.numbers
  rw [same]
  refine ⟨AList.keys_nodup _, fun number => ?_⟩
  rw [← AList.mem_keys, all, members]
  simp

/-- As many finished pieces as interesting ones, all of them interesting: they are all. -/
theorem all_finished {finished interested} (once : (numbers finished).Nodup)
    (within : ∀ number ∈ numbers finished, number ∈ numbers interested)
    (count : finished.length = interested.length) :
    ∀ piece ∈ interested, piece.number ∈ numbers finished := by
  intro piece listed
  have contained : (numbers finished).Subperm (numbers interested) := subperm_of_subset once within
  have same : (numbers finished).Perm (numbers interested) := by
    refine contained.perm_of_length_le ?_
    rw [numbers, numbers, length_map, length_map, count]
  exact same.mem_iff.mpr (mem_map_of_mem listed)

end Numbers

section Logs

variable {interested : List Piece} {log later : TaskLog}

def reported (log : TaskLog) : List UInt32 :=
  log.filterMap fun
    | .report piece => some piece.number
    | _ => none

@[simp]
theorem reported_append (log more : TaskLog) :
    reported (log ++ more) = reported log ++ reported more := filterMap_append

theorem reported_reports (pieces : List Piece) :
    reported (pieces.map .report) = numbers pieces := by
  rw [reported, filterMap_map]
  exact congrFun filterMap_eq_map' pieces

def remaining (interested : List Piece) (log : TaskLog) : List Piece :=
  interested.filter fun piece => piece.number ∉ reported log

/-- What an event has to be after a log: a stage is asked for what is left, and the scheduler
hears of the end when nothing is left. -/
def TaskEvent.Justified (interested : List Piece) (log : TaskLog) : TaskEvent → Prop
  | .ask _ pieces => pieces = remaining interested log
  | .send .downloadPeerFinished | .send .downloadPeerBackToSourceFinished =>
    ∀ piece ∈ interested, piece.number ∈ reported log
  | _ => True

def Justified (interested : List Piece) (log : TaskLog) : Prop :=
  ∀ before event after, log = before ++ event :: after → event.Justified interested before

theorem justified_nil : Justified interested [] := by
  intro before event after split
  cases before <;> cases split

theorem Justified.snoc (justified : Justified interested log) {event}
    (holds : event.Justified interested log) : Justified interested (log ++ [event]) := by
  intro before other after split
  rcases append_eq_append_iff.mp split with ⟨more, rfl, rest⟩ | ⟨more, rfl, rest⟩
  · cases more with
    | nil =>
      cases rest
      rw [append_nil]
      exact holds
    | cons first more => cases more <;> cases rest
  · cases more with
    | nil =>
      cases rest
      rw [append_nil] at holds
      exact holds
    | cons first more =>
      cases rest
      exact justified before _ more rfl

theorem Justified.reports (justified : Justified interested log) (pieces : List Piece) :
    Justified interested (log ++ pieces.map .report) := by
  induction pieces generalizing log with
  | nil => simpa using justified
  | cons piece pieces ih =>
    have first : Justified interested (log ++ [.report piece]) := justified.snoc trivial
    have rest := ih first
    rw [append_assoc] at rest
    exact rest

theorem reported_mono (extends' : log <+: later) {number} (listed : number ∈ reported log) :
    number ∈ reported later := by
  obtain ⟨more, rfl⟩ := extends'
  rw [reported_append]
  exact mem_append_left _ listed

end Logs

section Stages

variable {log later : TaskLog} {asked finished : List Piece}

theorem report_concat (log : TaskLog) (piece : Piece) (pieces : List Piece) :
    log ++ [.report piece] ++ pieces.map .report = log ++ (piece :: pieces).map .report := by
  rw [append_assoc]
  rfl

theorem localLoop_spec (outcome : Piece → LocalOutcome) (pieces finished : List Piece)
    (log : TaskLog) :
    ∃ new, (∀ piece ∈ new, piece ∈ pieces) ∧
      (localLoop outcome pieces finished log).1 = log ++ new.map .report ∧
      ∀ result, (localLoop outcome pieces finished log).2 = .ok result →
        result = finished ++ new := by
  induction pieces generalizing finished log with
  | nil => exact ⟨[], by simp, by simp [localLoop], by simp [localLoop, eq_comm]⟩
  | cons piece pieces ih =>
    rw [localLoop]
    split
    · obtain ⟨new, within, rest⟩ := ih finished log
      exact ⟨new, fun other listed => mem_cons_of_mem _ (within other listed), rest⟩
    · obtain ⟨new, within, rest⟩ := ih finished log
      exact ⟨new, fun other listed => mem_cons_of_mem _ (within other listed), rest⟩
    · obtain ⟨new, within, logged, result⟩ := ih (finished ++ [piece]) (log ++ [.report piece])
      refine ⟨piece :: new, ?_, ?_, ?_⟩
      · intro other listed
        rcases mem_cons.mp listed with rfl | later
        · exact mem_cons_self
        · exact mem_cons_of_mem _ (within other later)
      · rw [logged, report_concat]
      · intro pieces same
        rw [result pieces same, append_assoc]
        rfl
    · exact ⟨[], by simp, by simp, by simp⟩

/-- What a stage of the scheduler does: it reports pieces and returns them, or fails and drops
them. -/
inductive Ran (asked : List Piece) (log : TaskLog) :
    TaskLog → ClientResult (List Piece) → List Piece → Prop where
  | ok (new : List Piece) (within : ∀ piece ∈ new, piece ∈ asked) :
      Ran asked log (log ++ new.map .report) (.ok new) []
  | failed (dropped : List Piece) (error : DFError) :
      Ran asked log (log ++ dropped.map .report) (.error error) dropped

theorem Ran.refused (error : DFError) : Ran asked log log (.error error) [] := by
  simpa using Ran.failed [] error

/-- The pieces that a round with the parents returns. -/
def ParentRound.kept (round : ParentRound) : List Piece :=
  match round.registerFault, parentLoop round.messages with
  | none, .ok () => round.finished
  | _, _ => []

/-- The pieces that it has finished and drops. -/
def ParentRound.dropped (round : ParentRound) : List Piece :=
  match round.registerFault, parentLoop round.messages with
  | none, .error _ => round.finished
  | _, _ => []

variable {outcome : TaskLog × ClientResult (List Piece)}

theorem parents_spec {round}
    (ran : downloadPartialWithSchedulerFromParent round asked log = some outcome) :
    Ran asked log outcome.1 outcome.2 round.dropped ∧ orEmpty outcome.2 = round.kept := by
  unfold downloadPartialWithSchedulerFromParent at ran
  unfold ParentRound.dropped ParentRound.kept
  split at ran
  next error fault =>
    cases ran
    rw [fault]
    exact ⟨.refused error, rfl⟩
  next fault =>
    obtain ⟨fits, ran⟩ := Option.ite_none_right_eq_some.mp ran
    rw [fault]
    split at ran
    next joined =>
      cases ran
      rw [joined]
      refine ⟨.ok round.finished ?_, rfl⟩
      intro piece listed
      obtain ⟨message, among, rfl⟩ := mem_map.mp listed
      have inside := all_eq_true.mp fits message (mem_filter.mp among).1
      exact contains_iff_mem.mp inside
    next error joined =>
      cases ran
      rw [joined]
      exact ⟨.failed round.finished error, rfl⟩

/-- Whether the join loop of the scheduler's way to the source fails after a finished piece. -/
def dropsAfter : Bool → List (Piece × JoinMessage) → Bool
  | _, [] => false
  | held, (_, .failed _) :: _ => held
  | _, (_, .ended (.ok ())) :: messages => dropsAfter true messages
  | _, (_, .ended (.error .sendTimeout)) :: _ => false
  | held, (_, .ended (.error _)) :: _ => held

def SourceRound.drops (round : SourceRound) : Bool :=
  round.headerFault.isNone && dropsAfter false round.messages

theorem schedulerSourceLoop_spec (messages : List (Piece × JoinMessage)) (finished : List Piece)
    (log : TaskLog) {held} (empty : held = false → finished = []) :
    ∃ new, (∀ piece ∈ new, piece ∈ messages.map (·.1)) ∧
      ((schedulerSourceLoop messages finished log =
            (log ++ new.map .report, .ok (finished ++ new)) ∧
          (new.length = messages.length → new = messages.map (·.1))) ∨
        ∃ error,
          schedulerSourceLoop messages finished log = (log ++ new.map .report, .error error) ∧
          (dropsAfter held messages = false → finished ++ new = [])) := by
  induction messages generalizing finished log held with
  | nil => exact ⟨[], by simp, .inl ⟨by simp [schedulerSourceLoop], by simp⟩⟩
  | cons message messages ih =>
    obtain ⟨piece, message⟩ := message
    cases message with
    | failed cause =>
      exact ⟨[], by simp, .inr ⟨asyncRuntimeError cause, by simp [schedulerSourceLoop],
        by simpa [dropsAfter] using empty⟩⟩
    | ended result =>
      cases result with
      | ok done =>
        have later : true = false → finished ++ [piece] = [] := by simp
        obtain ⟨new, within, outcome⟩ := ih (finished ++ [piece]) (log ++ [.report piece]) later
        rw [report_concat, append_assoc finished, singleton_append] at outcome
        refine ⟨piece :: new, ?_, ?_⟩
        · intro other listed
          rcases mem_cons.mp listed with rfl | later
          · exact mem_cons_self
          · exact mem_cons_of_mem _ (within other later)
        · refine outcome.imp_left fun ⟨same, all⟩ => ⟨same, fun count => ?_⟩
          rw [all (Nat.succ.inj count)]
          rfl
      | error error =>
        by_cases timeout : error = .sendTimeout
        · exact ⟨[], by simp, .inl ⟨by simp [timeout, schedulerSourceLoop], by simp⟩⟩
        · exact ⟨[], by simp, .inr ⟨error, by simp [schedulerSourceLoop],
            by simpa [dropsAfter] using empty⟩⟩

theorem sourceLoop_spec (messages : List (Piece × JoinMessage)) (finished : List Piece)
    (log : TaskLog) :
    ∃ new, (sourceLoop messages finished log).1 = log ++ new.map .report ∧
      ∀ result, (sourceLoop messages finished log).2 = .ok result →
        new = messages.map (·.1) ∧ result = finished ++ new := by
  induction messages generalizing finished log with
  | nil => exact ⟨[], by simp [sourceLoop], by simp [sourceLoop, eq_comm]⟩
  | cons message messages ih =>
    obtain ⟨piece, message⟩ := message
    cases message with
    | failed cause => exact ⟨[], by simp [sourceLoop], by simp [sourceLoop]⟩
    | ended result =>
      cases result with
      | ok done =>
        obtain ⟨new, logged, all⟩ := ih (finished ++ [piece]) (log ++ [.report piece])
        refine ⟨piece :: new, ?_, ?_⟩
        · rw [sourceLoop, logged, report_concat]
        · intro result same
          obtain ⟨rfl, rfl⟩ := all result same
          exact ⟨rfl, by rw [append_assoc]; rfl⟩
      | error error => exact ⟨[], by simp [sourceLoop], by simp [sourceLoop]⟩

theorem schedulerSource_spec {round}
    (ran : downloadPartialWithSchedulerFromSource round asked log = some outcome) :
    (∃ dropped, Ran asked log outcome.1 outcome.2 dropped ∧
      (round.drops = false → dropped = [])) ∧
      ∀ result, outcome.2 = .ok result → result.length = asked.length →
        ∀ piece ∈ asked, piece ∈ result := by
  unfold downloadPartialWithSchedulerFromSource at ran
  unfold SourceRound.drops
  split at ran
  next error _ =>
    cases ran
    exact ⟨⟨[], .refused error, fun _ => rfl⟩, fun _ same => nomatch same⟩
  next fault =>
    obtain ⟨fits, ran⟩ := Option.ite_none_right_eq_some.mp ran
    cases ran
    rw [fault]
    have tasks := isPerm_iff.mp fits
    obtain ⟨new, within, ⟨same, all⟩ | ⟨error, same, drops⟩⟩ :=
      schedulerSourceLoop_spec round.messages [] log fun _ => rfl
    · rw [same, nil_append]
      refine ⟨⟨[], .ok new fun piece listed => tasks.mem_iff.mp (within piece listed),
        fun _ => rfl⟩, ?_⟩
      intro result ended count piece listed
      cases ended
      rw [all (by rw [count, ← tasks.length_eq, length_map])]
      exact tasks.mem_iff.mpr listed
    · rw [same]
      exact ⟨⟨new, .failed new error, drops⟩, fun _ same => nomatch same⟩

theorem source_spec {round} (ran : downloadPartialFromSource round asked log = some outcome) :
    ∃ new : List Piece, outcome.1 = log ++ [.ask .source asked] ++ new.map .report ∧
      ∀ result, outcome.2 = .ok result → ∀ piece ∈ asked, piece ∈ new := by
  unfold downloadPartialFromSource at ran
  split at ran
  · cases ran
    exact ⟨[], by simp, fun _ same => nomatch same⟩
  · obtain ⟨fits, ran⟩ := Option.ite_none_right_eq_some.mp ran
    have tasks := isPerm_iff.mp fits
    obtain ⟨new, logged, all⟩ := sourceLoop_spec round.messages [] (log ++ [.ask .source asked])
    split at ran
    next ended =>
      cases ran
      rw [ended] at logged
      exact ⟨new, logged, fun _ same => nomatch same⟩
    next finished ended =>
      rw [ended] at logged all
      obtain ⟨rfl, -⟩ := all finished rfl
      refine ⟨_, ?_, fun _ _ piece listed => tasks.mem_iff.mpr listed⟩
      split at ran
      · cases ran
        exact logged
      · cases ran
        exact logged

end Stages

section Script

/-- A stage asks or tells nothing wrong; `lost` says that finished pieces were dropped. -/
def SchedulerResponse.spares (lost : Bool) : SchedulerResponse → Bool
  | .emptyTask startedSent finishedSent => !(startedSent && finishedSent)
  | .normalTask startedSent _ _ | .needBackToSource startedSent _ _ => !(startedSent && lost)
  | .failed _ | .metadataOnly => true

/-- Whether finished pieces are dropped after the response; `held` says that there were some. -/
def SchedulerResponse.lost (held lost : Bool) : SchedulerResponse → Bool
  | .failed _ | .metadataOnly | .emptyTask .. => lost || held
  | .normalTask startedSent round _ => lost || (startedSent && !round.dropped.isEmpty)
  | .needBackToSource startedSent round _ => lost || (startedSent && round.drops)

def SchedulerResponse.holds (held : Bool) : SchedulerResponse → Bool
  | .normalTask _ round _ => held || !round.kept.isEmpty
  | _ => held

def SchedulerResponse.goesOn : SchedulerResponse → Bool
  | .normalTask startedSent _ lastSent => startedSent && lastSent
  | _ => false

/-- No message has the code tell of an end that is none, and no stage is asked once finished
pieces were dropped; `back` says that the source comes after the scheduler. -/
def sparesLoop (back : Bool) (maxScheduleCount : Nat) (ending : Option DFError) :
    List SchedulerMessage → Nat → Bool → Bool → Bool
  | [], _, held, lost => !(back && (lost || ending.isSome && held))
  | message :: messages, count, held, lost =>
    if count + 1 > maxScheduleCount then !(back && lost)
    else
      message.response.spares lost &&
        if message.response.goesOn then
          sparesLoop back maxScheduleCount ending messages (count + 1)
            (message.response.holds held) (message.response.lost held lost)
        else !(back && message.response.lost held lost)

def SchedulerScript.spares (back : Bool) (maxScheduleCount : Nat) (script : SchedulerScript) :
    Bool :=
  script.connectFault.isSome ||
    sparesLoop back maxScheduleCount script.ending script.messages 0 false false

/-- What the script says of a run: nothing that a stage has finished is asked for again, and the
scheduler is not told of an end before it. -/
def Script.Careful (script : Script) (request : Download) : Prop :=
  script.scheduler.spares (!request.disableBackToSource) script.maxScheduleCount = true

instance (script : Script) (request : Download) : Decidable (script.Careful request) :=
  inferInstanceAs (Decidable (_ = _))

end Script

section Scheduler

variable {careful : Prop} {interested wanted finished : List Piece} {base log later : TaskLog}
  {held lost : Bool}

/-- How far the scheduler has come since `base`, with the pieces that it holds as finished. -/
structure Progress (careful : Prop) (interested : List Piece) (base : TaskLog)
    (wanted finished : List Piece) (lost : Bool) (log : TaskLog) : Prop where
  grows : base <+: log
  known : ∀ number ∈ numbers finished, number ∈ reported log
  once : (numbers finished).Nodup
  within : ∀ number ∈ numbers finished, number ∈ numbers wanted
  justified : careful → Justified interested log
  covers : careful → lost = false →
    ∀ number ∈ reported log, number ∈ reported base ∨ number ∈ numbers finished

theorem kept_of_spared {back} (spared : (!(back && lost)) = true) (comes : back = true) :
    lost = false := by
  simpa [comes] using spared

theorem Progress.snoc (progress : Progress careful interested base wanted finished lost log) {event}
    (silent : reported [event] = []) (holds : careful → event.Justified interested log) :
    Progress careful interested base wanted finished lost (log ++ [event]) := by
  have same : reported (log ++ [event]) = reported log := by
    rw [reported_append, silent, append_nil]
  refine { progress with
    grows := progress.grows.trans (prefix_append _ _), known := ?_
    justified := fun met => (progress.justified met).snoc (holds met), covers := ?_ }
  · rw [same]
    exact progress.known
  · rw [same]
    exact progress.covers

/-- An error returns without the finished pieces. -/
theorem Progress.forget (progress : Progress careful interested base wanted finished lost log)
    (empty : held = false → finished = []) :
    Progress careful interested base wanted [] (lost || held) log := by
  refine ⟨progress.grows, (fun _ listed => nomatch listed), nodup_nil,
    (fun _ listed => nomatch listed), progress.justified, fun met kept => ?_⟩
  rw [Bool.or_eq_false_iff] at kept
  rw [← empty kept.2]
  exact progress.covers met kept.1

theorem mem_numbers_of_subset {new} (within : ∀ piece ∈ new, piece ∈ wanted) {number}
    (listed : number ∈ numbers new) : number ∈ numbers wanted := by
  obtain ⟨piece, among, rfl⟩ := mem_numbers.mp listed
  exact mem_numbers.mpr ⟨piece, within piece among, rfl⟩

section

variable (progress : Progress careful interested base wanted finished lost log)
include progress

theorem Progress.merge {new} (within : ∀ piece ∈ new, piece ∈ wanted) :
    Progress careful interested base wanted (mergeFinishedPieces finished new) lost
      (log ++ new.map .report) := by
  obtain ⟨once, members⟩ := merge_spec finished new
  have reports : reported (log ++ new.map .report) = reported log ++ numbers new := by
    rw [reported_append, reported_reports]
  refine ⟨progress.grows.trans (prefix_append _ _), ?_, once, ?_,
    fun met => (progress.justified met).reports new, ?_⟩
  · intro number listed
    rw [reports, mem_append]
    exact ((members number).mp listed).imp_left (progress.known number)
  · intro number listed
    rcases (members number).mp listed with earlier | now
    · exact progress.within number earlier
    · exact mem_numbers_of_subset within now
  · intro met kept number listed
    rw [reports, mem_append] at listed
    rcases listed with earlier | now
    · exact (progress.covers met kept number earlier).imp_right fun known =>
        (members number).mpr (.inl known)
    · exact .inr ((members number).mpr (.inr now))

/-- What is left of the pieces the scheduler was asked for is what is left at all. -/
theorem Progress.left (asked : wanted = remaining interested base) (met : careful)
    (kept : lost = false) :
    removeFinishedFromInterested finished wanted = remaining interested log := by
  have covers := progress.covers met kept
  rw [asked, removeFinished_eq, remaining, remaining, filter_filter]
  apply filter_congr
  intro piece _
  rw [Bool.eq_iff_iff, Bool.and_eq_true, decide_eq_true_eq, decide_eq_true_eq, decide_eq_true_eq,
    ← not_or]
  refine not_congr ⟨?_, fun listed => (covers piece.number listed).symm⟩
  rintro (known | earlier)
  · exact progress.known piece.number known
  · exact reported_mono progress.grows earlier

theorem Progress.complete (asked : wanted = remaining interested base)
    (all : ∀ piece ∈ wanted, piece.number ∈ reported log) :
    ∀ piece ∈ interested, piece.number ∈ reported log := by
  intro piece listed
  by_cases earlier : piece.number ∈ reported base
  · exact reported_mono progress.grows earlier
  · apply all
    rw [asked, remaining, mem_filter, decide_eq_true_eq]
    exact ⟨listed, earlier⟩

theorem Progress.sendIf (sent : Bool)
    (request : PeerRequest) (holds : (TaskEvent.send request).Justified interested log) :
    Progress careful interested base wanted finished lost (sendIf sent request log) := by
  unfold Resource.sendIf
  split
  · exact progress.snoc rfl fun _ => holds
  · exact progress

end

def Scheduled.pieces : Scheduled → List Piece
  | .goOn pieces => pieces
  | .returned (.ok pieces) => pieces
  | .returned (.error _) => []

section

variable (progress : Progress careful interested base wanted finished lost log)
include progress

/-- The pieces of a stage that failed are reported, but not held as finished. -/
theorem Progress.dropped (new : List Piece) :
    Progress careful interested base wanted finished (lost || !new.isEmpty)
      (log ++ new.map .report) := by
  refine { progress with
    grows := progress.grows.trans (prefix_append _ _)
    known := fun number listed =>
      reported_mono (prefix_append _ _) (progress.known number listed)
    justified := fun met => (progress.justified met).reports new, covers := ?_ }
  intro met kept
  rw [Bool.or_eq_false_iff, Bool.not_eq_false', List.isEmpty_iff] at kept
  rw [kept.2, map_nil, append_nil]
  exact progress.covers met kept.1

theorem Progress.ran {asked dropped} (within : ∀ piece ∈ asked, piece ∈ wanted) {result}
    (ran : Ran asked log later result dropped) :
    Progress careful interested base wanted (mergeFinishedPieces finished (orEmpty result))
      (lost || !dropped.isEmpty) later := by
  cases ran with
  | ok new inside =>
    rw [isEmpty_nil, Bool.not_true, Bool.or_false]
    exact progress.merge fun piece listed => within piece (inside piece listed)
  | failed _ error =>
    have none : Progress careful interested base wanted (mergeFinishedPieces finished []) lost
        (log ++ ([] : List Piece).map .report) := progress.merge (by simp)
    rw [map_nil, append_nil] at none
    exact none.dropped dropped

theorem Progress.asking (asked : wanted = remaining interested base) (request : PeerRequest)
    (stage : Stage) (holds : (TaskEvent.send request).Justified interested log)
    (kept : careful → lost = false) :
    Progress careful interested base wanted finished lost
      (log ++ [.send request, .ask stage (removeFinishedFromInterested finished wanted)]) := by
  have started : Progress careful interested base wanted finished lost
      (log ++ [.send request]) := progress.snoc rfl fun _ => holds
  have next : Progress careful interested base wanted finished lost
      (log ++ [.send request] ++ [.ask stage (removeFinishedFromInterested finished wanted)]) :=
    started.snoc rfl fun met => started.left asked met (kept met)
  rw [append_assoc] at next
  exact next

end

theorem mem_of_removeFinished (piece : Piece)
    (listed : piece ∈ removeFinishedFromInterested finished wanted) : piece ∈ wanted :=
  (mem_removeFinished.mp listed).1

section

variable (progress : Progress careful interested base wanted finished lost log)
include progress

theorem Progress.emptyTask {startedSent finishedSent} (empty : held = false → finished = [])
    (spared : careful → SchedulerResponse.spares lost (.emptyTask startedSent finishedSent)) :
    Progress careful interested base wanted
      (emptyTaskResponse startedSent finishedSent log).2.pieces (lost || held)
      (emptyTaskResponse startedSent finishedSent log).1 := by
  have forgot := progress.forget empty
  cases startedSent with
  | false => exact forgot
  | true =>
    have started := forgot.sendIf true .downloadPeerStarted trivial
    cases finishedSent with
    | false => exact started
    | true =>
      -- Such a run is not careful.
      exact started.snoc rfl fun met => nomatch spared met

section

variable (asked : wanted = remaining interested base)
include asked

variable {outcome : TaskLog × Scheduled}

theorem Progress.normalTask {startedSent lastSent round}
    (spared : careful → SchedulerResponse.spares lost (.normalTask startedSent round lastSent))
    (empty : held = false → finished = [])
    (ran : normalTaskResponse startedSent round lastSent wanted finished log = some outcome) :
    Progress careful interested base wanted outcome.2.pieces
        (SchedulerResponse.lost held lost (.normalTask startedSent round lastSent)) outcome.1 ∧
      ∀ more, outcome.2 = .goOn more → (startedSent && lastSent) = true ∧
        (SchedulerResponse.holds held (.normalTask startedSent round lastSent) = false →
          more = []) := by
  cases startedSent with
  | false =>
    cases ran
    exact ⟨by simpa [SchedulerResponse.lost, Scheduled.pieces] using progress,
      fun more same => nomatch same⟩
  | true =>
    rw [normalTaskResponse, if_pos rfl] at ran
    obtain ⟨⟨later, result⟩, stage, rfl⟩ := Option.map_eq_some_iff.mp ran
    obtain ⟨spec, given⟩ := parents_spec stage
    have kept : careful → lost = false := fun met => by
      simpa [SchedulerResponse.spares] using spared met
    have merged : Progress careful interested base wanted
        (mergeFinishedPieces finished (orEmpty result)) (lost || !round.dropped.isEmpty) later :=
      (progress.asking asked .downloadPeerStarted .parents trivial kept).ran
        mem_of_removeFinished spec
    dsimp only
    split
    next count =>
      refine ⟨merged.sendIf lastSent .downloadPeerFinished (merged.complete asked ?_),
        fun more same => nomatch same⟩
      intro piece listed
      exact merged.known _ (all_finished merged.once merged.within count piece listed)
    next =>
      have told := merged.sendIf lastSent
        (.reschedulePeer "not all pieces are downloaded from parent") trivial
      cases lastSent with
      | false => exact ⟨told, fun more same => nomatch same⟩
      | true =>
        refine ⟨told, ?_⟩
        rintro _ ⟨⟩
        refine ⟨rfl, fun none => ?_⟩
        rw [SchedulerResponse.holds, Bool.or_eq_false_iff, Bool.not_eq_false', List.isEmpty_iff,
          ← given] at none
        dsimp only at none
        rw [empty none.1, none.2]
        rfl

theorem Progress.needBackToSource {startedSent lastSent round}
    (spared : careful →
      SchedulerResponse.spares lost (.needBackToSource startedSent round lastSent))
    (ran : needBackToSourceResponse startedSent round lastSent wanted finished log = some outcome) :
    Progress careful interested base wanted outcome.2.pieces
        (SchedulerResponse.lost held lost (.needBackToSource startedSent round lastSent))
        outcome.1 ∧
      ∀ more, outcome.2 ≠ .goOn more := by
  cases startedSent with
  | false =>
    cases ran
    exact ⟨by simpa [SchedulerResponse.lost, Scheduled.pieces] using progress,
      fun more same => nomatch same⟩
  | true =>
    rw [needBackToSourceResponse, if_pos rfl] at ran
    obtain ⟨⟨later, result⟩, stage, rfl⟩ := Option.map_eq_some_iff.mp ran
    obtain ⟨⟨dropped, spec, drops⟩, all⟩ := schedulerSource_spec stage
    have kept : careful → lost = false := fun met => by
      simpa [SchedulerResponse.spares] using spared met
    have asking := progress.asking asked .downloadPeerBackToSourceStarted .schedulerSource trivial
      kept
    have fewer {held : List Piece} {log : TaskLog} (next : Progress careful interested base wanted
        held (lost || !dropped.isEmpty) log) :
        Progress careful interested base wanted held (lost || round.drops) log := by
      refine { next with covers := fun met unlost => next.covers met ?_ }
      rw [Bool.or_eq_false_iff] at unlost ⊢
      exact ⟨unlost.1, by rw [drops unlost.2]; rfl⟩
    cases result with
    | error error =>
      have failed : Progress careful interested base wanted finished (lost || round.drops)
          later := by
        cases spec with
        | failed _ error => exact fewer (asking.dropped dropped)
      exact ⟨failed.sendIf lastSent (.downloadPeerBackToSourceFailed error.display) trivial,
        fun more same => nomatch same⟩
    | ok new =>
      have merged : Progress careful interested base wanted (mergeFinishedPieces finished new)
          (lost || round.drops) later := fewer (asking.ran mem_of_removeFinished spec)
      refine ⟨?_, fun more same => nomatch same⟩
      dsimp only
      split
      next count =>
        refine merged.sendIf lastSent .downloadPeerBackToSourceFinished
          (merged.complete asked ?_)
        intro piece listed
        apply merged.known
        rw [(merge_spec finished new).2]
        by_cases earlier : piece.number ∈ numbers finished
        · exact .inl earlier
        · have left := mem_removeFinished.mpr ⟨listed, earlier⟩
          exact .inr (mem_map_of_mem (all new rfl count piece left))
      next =>
        exact merged.sendIf lastSent
          (.downloadPeerBackToSourceFailed "not all pieces are downloaded from source") trivial

theorem Progress.response {response} (spared : careful → response.spares lost = true)
    (empty : held = false → finished = [])
    (ran : schedulerResponse response wanted finished log = some outcome) :
    Progress careful interested base wanted outcome.2.pieces (response.lost held lost)
        outcome.1 ∧
      ∀ more, outcome.2 = .goOn more → response.goesOn = true ∧
        (response.holds held = false → more = []) := by
  cases response with
  | failed error =>
    cases ran
    exact ⟨progress.forget empty, fun more same => nomatch same⟩
  | emptyTask startedSent finishedSent =>
    cases ran
    refine ⟨progress.emptyTask empty spared, fun more same => ?_⟩
    cases startedSent <;> cases same
  | normalTask startedSent round lastSent => exact progress.normalTask asked spared empty ran
  | needBackToSource startedSent round lastSent =>
    obtain ⟨next, stops⟩ := progress.needBackToSource asked spared ran
    exact ⟨next, fun more same => absurd same (stops more)⟩
  | metadataOnly =>
    cases ran
    exact ⟨progress.forget empty, fun more same => nomatch same⟩

/-- By induction on the messages: the rest of a careful script is careful. -/
theorem Progress.loop {back maxScheduleCount ending messages count outcome}
    (empty : held = false → finished = [])
    (spared : careful → sparesLoop back maxScheduleCount ending messages count held lost = true)
    (ran : schedulerLoop maxScheduleCount wanted ending messages count finished log =
      some outcome) :
    ∃ dropped, Progress careful interested base wanted (orEmpty outcome.2) dropped outcome.1 ∧
      (careful → back = true → dropped = false) := by
  induction messages generalizing count finished log held lost with
  | nil =>
    cases ending with
    | none =>
      cases ran
      refine ⟨lost, progress, fun met => kept_of_spared ?_⟩
      simpa [sparesLoop] using spared met
    | some error =>
      cases ran
      exact ⟨lost || held, progress.forget empty, fun met => kept_of_spared (spared met)⟩
  | cons message messages ih =>
    rw [schedulerLoop] at ran
    rw [sparesLoop] at spared
    dsimp only at ran
    split at ran
    next exceeded =>
      obtain ⟨-, ran⟩ := Option.ite_none_right_eq_some.mp ran
      cases ran
      refine ⟨lost, progress.sendIf message.exceededSent
        (.downloadPeerFailed "max schedule count exceeded") trivial, fun met => ?_⟩
      have rest := spared met
      rw [if_pos exceeded] at rest
      exact kept_of_spared rest
    next within =>
      rw [if_neg within] at spared
      have fits : careful → message.response.spares lost = true := fun met =>
        (Bool.and_eq_true_iff.mp (spared met)).1
      split at ran
      · cases ran
      next later result responded =>
        obtain ⟨unread, ran⟩ := Option.ite_none_right_eq_some.mp ran
        cases ran
        obtain ⟨next, -⟩ := progress.response asked fits empty responded
        refine ⟨_, by cases result <;> exact next, fun met => kept_of_spared ?_⟩
        have rest := (Bool.and_eq_true_iff.mp (spared met)).2
        obtain ⟨rfl, rfl⟩ : messages = [] ∧ ending = none := by simpa using unread
        split at rest <;> simpa [sparesLoop] using rest
      next later kept responded =>
        obtain ⟨next, goes⟩ := progress.response asked fits empty responded
        obtain ⟨goesOn, still⟩ := goes kept rfl
        refine ih next still (fun met => ?_) ran
        have rest := (Bool.and_eq_true_iff.mp (spared met)).2
        rwa [if_pos goesOn] at rest

end

end

theorem Progress.start (justified : Justified interested log) :
    Progress careful interested log wanted [] false log :=
  ⟨prefix_rfl, (fun _ listed => nomatch listed), nodup_nil, (fun _ listed => nomatch listed),
    fun _ => justified, fun _ _ _ listed => .inl listed⟩

theorem scheduler_spec (back : Bool) {maxScheduleCount script outcome}
    (justified : Justified interested log) (asked : wanted = remaining interested log)
    (ran : downloadPartialWithScheduler maxScheduleCount script wanted log = some outcome) :
    ∃ dropped, Progress (script.spares back maxScheduleCount = true) interested log wanted
        (orEmpty outcome.2) dropped outcome.1 ∧
      (script.spares back maxScheduleCount = true → back = true → dropped = false) := by
  have begun : Progress (script.spares back maxScheduleCount = true) interested log wanted []
      false log := .start justified
  unfold downloadPartialWithScheduler at ran
  split at ran
  · cases ran
    exact ⟨false, begun, fun _ _ => rfl⟩
  next connected =>
    have registered : Progress (script.spares back maxScheduleCount = true) interested log wanted
        [] false (log ++ [.send .registerPeer]) := begun.snoc rfl fun _ => trivial
    refine registered.loop asked (show false = false → _ from fun _ => rfl) (fun met => ?_) ran
    simpa [SchedulerScript.spares, connected] using met

end Scheduler

section Download

variable {careful : Prop} {interested wanted : List Piece} {log : TaskLog} {script : Script}
  {request : Download} {contentLength : UInt64} {outcome : TaskLog × ClientResult Unit}

/-- A run up to here: every piece but the wanted ones is reported, and if the script is careful
the wanted ones are those that are left. -/
structure Reached (careful : Prop) (interested : List Piece) (wanted : List Piece)
    (log : TaskLog) : Prop where
  others : ∀ piece ∈ interested, piece ∈ wanted ∨ piece.number ∈ reported log
  exact : careful → Justified interested log ∧ wanted = remaining interested log

structure Ended (careful : Prop) (interested : List Piece) (log : TaskLog)
    (result : ClientResult Unit) : Prop where
  complete : result = .ok () → ∀ piece ∈ interested, piece.number ∈ reported log
  exact : careful → Justified interested log

theorem Reached.fromSource (reached : Reached careful interested wanted log)
    (ran : finishFromSource script wanted log = some outcome) :
    Ended careful interested outcome.1 outcome.2 := by
  obtain ⟨⟨later, result⟩, stage, rfl⟩ := Option.map_eq_some_iff.mp ran
  obtain ⟨new, rfl, all⟩ := source_spec stage
  refine ⟨?_, ?_⟩
  · intro ended piece listed
    cases result with
    | error error => cases ended
    | ok finished =>
      rw [reported_append, reported_append, reported_reports]
      rcases reached.others piece listed with left | earlier
      · exact mem_append_right _ (mem_map_of_mem (all finished rfl piece left))
      · exact mem_append_left _ (mem_append_left _ earlier)
  · intro met
    obtain ⟨justified, asked⟩ := reached.exact met
    have asking : Justified interested (log ++ [.ask .source wanted]) := justified.snoc asked
    exact asking.reports new

theorem removeFinished_nil (pieces : List Piece) :
    removeFinishedFromInterested [] pieces = pieces := by
  simp [removeFinishedFromInterested]

variable {finished : List Piece} {lost : Bool} {later : TaskLog}

section

variable (progress : Progress careful interested log wanted finished lost later)
include progress

theorem Progress.others (asked : wanted = remaining interested log) :
    ∀ piece ∈ interested, piece ∈ removeFinishedFromInterested finished wanted ∨
      piece.number ∈ reported later := by
  intro piece listed
  by_cases earlier : piece.number ∈ reported log
  · exact .inr (reported_mono progress.grows earlier)
  by_cases done : piece.number ∈ numbers finished
  · exact .inr (progress.known piece.number done)
  · refine .inl (mem_removeFinished.mpr ⟨?_, done⟩)
    rw [asked, remaining, mem_filter, decide_eq_true_eq]
    exact ⟨listed, earlier⟩

theorem Progress.reached (asked : wanted = remaining interested log)
    (kept : careful → lost = false) :
    Reached careful interested (removeFinishedFromInterested finished wanted) later :=
  ⟨progress.others asked, fun met =>
    ⟨progress.justified met, progress.left asked met (kept met)⟩⟩

theorem Progress.empty (asked : wanted = remaining interested log)
    (nothing : (removeFinishedFromInterested finished wanted).isEmpty = true) :
    Ended careful interested later (.ok ()) := by
  refine ⟨fun _ piece listed => ?_, progress.justified⟩
  rcases progress.others asked piece listed with left | earlier
  · rw [List.isEmpty_iff.mp nothing] at left
    cases left
  · exact earlier

theorem Progress.failed (error : DFError) : Ended careful interested later (.error error) :=
  ⟨(fun same => nomatch same), progress.justified⟩

end

theorem ended_withScheduler (justified : Justified interested log)
    (asked : wanted = remaining interested log)
    (ran : downloadWithScheduler script request wanted log = some outcome) :
    Ended (script.Careful request) interested outcome.1 outcome.2 := by
  unfold downloadWithScheduler at ran
  split at ran
  · cases ran
  next later error scheduled =>
    obtain ⟨lost, progress, kept⟩ := scheduler_spec (!request.disableBackToSource) justified
      asked scheduled
    rw [orEmpty] at progress
    split at ran
    · cases ran
      exact progress.failed _
    next back =>
      have reached := progress.reached asked fun met => kept met (by simp [back])
      rw [removeFinished_nil] at reached
      exact reached.fromSource ran
  next later finished scheduled =>
    obtain ⟨lost, progress, kept⟩ := scheduler_spec (!request.disableBackToSource) justified
      asked scheduled
    dsimp only at ran
    split at ran
    next nothing =>
      cases ran
      exact progress.empty asked nothing
    next =>
      split at ran
      · cases ran
        exact progress.failed _
      next back =>
        exact (progress.reached asked fun met => kept met (by simp [back])).fromSource ran

theorem ended_remote (justified : Justified interested log)
    (asked : wanted = remaining interested log) (others : ∀ piece ∈ interested,
      piece ∈ wanted ∨ piece.number ∈ reported log)
    (ran : downloadRemote script request contentLength wanted log = some outcome) :
    Ended (script.Careful request) interested outcome.1 outcome.2 := by
  unfold downloadRemote at ran
  split at ran
  · exact Reached.fromSource ⟨others, fun _ => ⟨justified, asked⟩⟩ ran
  · exact ended_withScheduler justified asked ran

theorem Progress.look {base} (progress : Progress careful interested base wanted finished false log)
    (asked : wanted = remaining interested base) (stage : Stage) (found : Piece → LocalOutcome)
    {outcome} (looked : downloadPartialFromLocal stage found
      (removeFinishedFromInterested finished wanted) log = outcome) :
    ∃ new, Progress careful interested base wanted (mergeFinishedPieces finished new) false
        outcome.1 ∧
      ∀ result, outcome.2 = .ok result → result = new := by
  let pieces := removeFinishedFromInterested finished wanted
  obtain ⟨new, within, logged, returned⟩ :=
    localLoop_spec found pieces [] (log ++ [.ask stage pieces])
  subst looked
  rw [downloadPartialFromLocal, logged]
  have asking : Progress careful interested base wanted finished false
      (log ++ [.ask stage pieces]) :=
    progress.snoc rfl fun met => progress.left asked met rfl
  refine ⟨new, asking.merge ?_, returned⟩
  intro piece listed
  exact (mem_removeFinished.mp (within piece listed)).1

theorem removeFinished_merge (finished new wanted : List Piece) :
    removeFinishedFromInterested (mergeFinishedPieces finished new) wanted =
      removeFinishedFromInterested new (removeFinishedFromInterested finished wanted) := by
  rw [removeFinished_eq, removeFinished_eq, removeFinished_eq, filter_filter]
  apply filter_congr
  intro piece _
  rw [Bool.eq_iff_iff, Bool.and_eq_true, decide_eq_true_eq, decide_eq_true_eq, decide_eq_true_eq,
    (merge_spec finished new).2, not_or, and_comm]

/-- The wait for the pieces in flight, by induction on its rounds. -/
theorem Progress.wait (rounds : List (Piece → LocalOutcome)) {base}
    (progress : Progress careful interested base wanted finished false log)
    (asked : wanted = remaining interested base) {outcome}
    (waited : waitLoop rounds (removeFinishedFromInterested finished wanted) finished log =
      outcome) :
    ∃ known, Progress careful interested base wanted known false outcome.1 ∧
      ∀ result, outcome.2 = .ok result → result = known := by
  induction rounds generalizing finished log with
  | nil =>
    obtain rfl := waited
    refine ⟨finished, progress, fun result same => ?_⟩
    exact (Except.ok.inj same).symm
  | cons round rounds ih =>
    rw [waitLoop] at waited
    split at waited
    next later error looked =>
      obtain ⟨new, next, -⟩ := progress.look asked .inFlight round looked
      obtain rfl := waited
      exact ⟨_, next, fun result same => nomatch same⟩
    next later found looked =>
      obtain ⟨new, next, returned⟩ := progress.look asked .inFlight round looked
      obtain rfl := returned found rfl
      dsimp only at waited
      rw [← removeFinished_merge] at waited
      split at waited
      · obtain rfl := waited
        exact ⟨_, next, fun result same => (Except.ok.inj same).symm⟩
      · exact ih next waited

/-- What is left after a stage that drops nothing is what is left at all. -/
theorem Progress.remote (progress : Progress True interested log wanted finished false later)
    (asked : wanted = remaining interested log)
    (ran : downloadRemote script request contentLength
      (removeFinishedFromInterested finished wanted) later = some outcome) :
    Ended (script.Careful request) interested outcome.1 outcome.2 :=
  ended_remote (progress.justified trivial) (progress.left asked trivial rfl)
    (progress.others asked) ran

theorem Ended.of_true {result} (ended : Ended True interested log result) :
    Ended careful interested log result :=
  ⟨ended.complete, fun _ => ended.exact trivial⟩

theorem remaining_nil (interested : List Piece) : remaining interested [] = interested :=
  filter_eq_self.mpr fun _ _ => rfl

theorem ended_waiting (justified : Justified interested log)
    (asked : wanted = remaining interested log) {rounds outcome}
    (ran : (match waitLoop rounds wanted [] log with
      | (log, .error error) => some (log, .error error)
      | (log, .ok finished) =>
        let interested := removeFinishedFromInterested finished wanted
        if interested.isEmpty then some (log, .ok ())
        else downloadRemote script request contentLength interested log) = some outcome) :
    Ended (script.Careful request) interested outcome.1 outcome.2 := by
  have start : Progress True interested log wanted [] false log := .start justified
  split at ran
  next later error waited =>
    rw [← removeFinished_nil wanted] at waited
    obtain ⟨known, progress, -⟩ := start.wait rounds asked waited
    cases ran
    exact (progress.failed error).of_true
  next later finished waited =>
    rw [← removeFinished_nil wanted] at waited
    obtain ⟨known, progress, returned⟩ := start.wait rounds asked waited
    obtain rfl := returned finished rfl
    dsimp only at ran
    split at ran
    next nothing =>
      cases ran
      exact (progress.empty asked nothing).of_true
    next => exact progress.remote asked ran

theorem downloadInterested_spec
    (ran : downloadInterested script request contentLength interested = some outcome) :
    Ended (script.Careful request) interested outcome.1 outcome.2 := by
  have asked := (remaining_nil interested).symm
  have start : Progress True interested [] interested [] false [] := .start justified_nil
  unfold downloadInterested at ran
  split at ran
  next =>
    split at ran
    next log error looked =>
      rw [← removeFinished_nil interested] at looked
      obtain ⟨new, progress, -⟩ := start.look asked .localStorage _ looked
      cases ran
      exact (progress.failed error).of_true
    next log finished looked =>
      rw [← removeFinished_nil interested] at looked
      obtain ⟨new, progress, returned⟩ := start.look asked .localStorage _ looked
      obtain rfl := returned finished rfl
      have left := removeFinished_merge [] finished interested
      rw [removeFinished_nil] at left
      dsimp only at ran
      rw [← left] at ran
      split at ran
      next nothing =>
        cases ran
        exact (progress.empty asked nothing).of_true
      next =>
        split at ran
        · exact ended_waiting (progress.justified trivial) (progress.left asked trivial rfl) ran
        · exact progress.remote asked ran
  next =>
    cases ran
    exact (start.failed _).of_true

/-- A download fails before the first stage, or is one of the interesting pieces. -/
theorem Task.download_ended {task log result}
    (ran : Task.download task request script = some (log, result)) :
    (log = [] ∧ ∃ error, result = .error error) ∨
    ∃ pieceLength contentLength pieces, task.pieceLength = some pieceLength ∧
      task.contentLength = some contentLength ∧
      calculateInterested pieceLength contentLength request.range = some (.ok pieces) ∧
      Ended (script.Careful request) pieces log result := by
  unfold Task.download at ran
  split at ran
  · cases ran
    exact .inl ⟨rfl, _, rfl⟩
  · cases ran
    exact .inl ⟨rfl, _, rfl⟩
  next contentLength pieceLength content sized =>
    split at ran
    · cases ran
    · cases ran
      exact .inl ⟨rfl, _, rfl⟩
    next pieces interesting =>
      exact .inr ⟨pieceLength, contentLength, pieces, sized, content, interesting,
        downloadInterested_spec ran⟩

/-- A download that returns `Ok` has every interesting piece from some stage.  Unless the
scheduler is told of the end of an empty task, or a stage follows an error that drops finished
pieces, each stage is asked for exactly the pieces that no earlier one has finished, and the
scheduler is told of the end only when nothing is left. -/
theorem Task.download_complete {task : TaskRecord} {log : TaskLog} {result : ClientResult Unit}
    (ran : Task.download task request script = some (log, result)) :
    (log = [] ∧ ∃ error, result = .error error) ∨
    ∃ pieceLength contentLength pieces, task.pieceLength = some pieceLength ∧
      task.contentLength = some contentLength ∧
      calculateInterested pieceLength contentLength request.range = some (.ok pieces) ∧
      (result = .ok () → ∀ piece ∈ pieces, piece.number ∈ reported log) ∧
      (script.Careful request → Justified pieces log) := by
  rcases Task.download_ended ran with refused | ⟨pieceLength, contentLength, pieces, sized,
    content, interesting, ended⟩
  · exact .inl refused
  · exact .inr ⟨pieceLength, contentLength, pieces, sized, content, interesting,
      ended.complete, ended.exact⟩

def twoPieces : TaskRecord :=
  { TaskRecord.new with pieceLength := some 4, contentLength := some 8 }

/-- Nothing is in the local storage, the scheduler answers as given, and the source serves what
it is asked for. -/
def scripted (messages : List SchedulerMessage) (source : List Piece) : Script where
  maxScheduleCount := 5
  startedSent := true
  localStorage := fun _ => .missing
  prefetched := false
  firstWait := fun _ => .missing
  waits := []
  scheduler := ⟨none, messages, none⟩
  source := ⟨none, source.map fun piece => (piece, .ended (.ok ()))⟩

def wholeTask : Download := ⟨none, .always, false, false⟩

/-- The round with the parents fails and has nothing; in the next one a parent has the first
piece, and the scheduler sends for the second to the source. -/
def threeAnswers : List SchedulerMessage :=
  [⟨.normalTask true ⟨none, [(pieceOf 4 8 0, .failed "panic")]⟩ true, true⟩,
    ⟨.normalTask true ⟨none, [(pieceOf 4 8 0, .ended (.ok ()))]⟩ true, true⟩,
    ⟨.needBackToSource true ⟨none, [(pieceOf 4 8 1, .ended (.ok ()))]⟩ true, true⟩]

theorem Task.download_complete_of_two :
    ∃ log, Task.download twoPieces wholeTask (scripted threeAnswers []) = some (log, .ok ()) ∧
      (scripted threeAnswers []).Careful wholeTask ∧
      .send .downloadPeerBackToSourceFinished ∈ log ∧
      (∀ piece ∈ [pieceOf 4 8 0, pieceOf 4 8 1], piece.number ∈ reported log) ∧
      Justified [pieceOf 4 8 0, pieceOf 4 8 1] log := by
  obtain ⟨log, ran, finished⟩ : ∃ log, Task.download twoPieces wholeTask
      (scripted threeAnswers []) = some (log, .ok ()) ∧
        .send .downloadPeerBackToSourceFinished ∈ log := ⟨_, rfl, by decide⟩
  have careful : (scripted threeAnswers []).Careful wholeTask := by decide
  rcases Task.download_complete ran with ⟨-, error, failed⟩ | ⟨_, _, pieces, sized, content,
    interesting, complete, justified⟩
  · cases failed
  · cases sized
    cases content
    cases interesting
    exact ⟨log, ran, careful, finished, complete rfl, justified careful⟩

/-- The scheduler answers that the task is empty: it is told that the download has finished
before any piece has. -/
theorem Task.download_finished_early :
    ∃ log, calculateInterested 4 8 none = some (.ok [pieceOf 4 8 0, pieceOf 4 8 1]) ∧
      Task.download twoPieces wholeTask
        (scripted [⟨.emptyTask true true, true⟩] [pieceOf 4 8 0, pieceOf 4 8 1]) =
        some (log, .ok ()) ∧
      ∃ before after, log = before ++ .send .downloadPeerFinished :: after ∧ reported before = [] :=
  ⟨_, rfl, rfl, [.ask .localStorage [pieceOf 4 8 0, pieceOf 4 8 1], .send .registerPeer,
    .send .downloadPeerStarted], _, rfl, rfl⟩

end Download

end DragonflyClient.Resource
