import DragonflyClient.Resource.TaskDownload

/-!
`Task::wait_for_in_flight_pieces` (`resource/task.rs`) over the notifiers of the pieces
(`piece_notifier.rs`) and their metadata.

A step is one operation on the notifier map or one look at the metadata, so that other
downloads of the pieces come in between.  `remove_and_notify` is one step: it wakes the
subscriptions that are enabled then, and no others.
-/

namespace DragonflyClient.Resource

open Storage Library List

/-- A `Notified` that is enabled.  `prompt` is history: the notifier was still in the map when
the subscription was enabled. -/
structure Subscription where
  number : UInt32
  notify : Nat
  woken : Bool
  prompt : Bool
  deriving DecidableEq

inductive WaitPhase where
  -- The `filter_map` over the interested pieces.
  | lookingUp (left : List Piece) (found : List (UInt32 × Nat))
  | enabling (left : List (UInt32 × Nat)) (enabled : List Subscription)
  -- `get_by_ids` in `download_partial_from_local`; `seen` are the finished pieces.
  | reading (left seen : List Piece) (enabled : List Subscription)
  -- At the `select!`.
  | blocked (subscriptions : List Subscription)
  | returned (result : ClientResult (List Piece))
  deriving DecidableEq

open WaitPhase

namespace WaitPhase

def held : WaitPhase → List (UInt32 × Nat)
  | lookingUp _ found => found
  | enabling left _ => left
  | _ => []

def subscriptions : WaitPhase → List Subscription
  | enabling _ enabled | reading _ _ enabled | blocked enabled => enabled
  | _ => []

def wake (notify : Nat) (subscription : Subscription) : Subscription :=
  if subscription.notify = notify then { subscription with woken := true } else subscription

def notifyWaiters (notify : Nat) : WaitPhase → WaitPhase
  | enabling left enabled => enabling left (enabled.map (wake notify))
  | reading left seen enabled => reading left seen (enabled.map (wake notify))
  | blocked enabled => blocked (enabled.map (wake notify))
  | phase => phase

end WaitPhase

/-- The pieces of one task; the notifiers are numbered in the order of their creation. -/
structure InFlightWait where
  records : Table UInt32 Piece
  notifiers : Table UInt32 Nat
  nextNotify : Nat
  interested : List Piece
  finished : List Piece
  phase : WaitPhase

inductive LocalFault where
  | none
  -- `get_by_ids` fails, and no piece counts as found.
  | database
  -- A finished piece cannot be read or sent.
  | delivery (error : DFError)
  deriving DecidableEq

inductive WaitAction where
  -- The other downloads.
  | claim (number : UInt32)
  | downloadPieceStarted (piece : Piece)
  | downloadPieceFinished (number : UInt32) (completion : Completion)
  | downloadPieceFailed (number : UInt32)
  | removeAndNotify (number : UInt32)
  -- The waiter.
  | lookUp
  | enable
  | read
  | collect (fault : LocalFault)
  | wake
  | timeout

namespace InFlightWait

def finishedRecord (wait : InFlightWait) (number : UInt32) : Bool :=
  (wait.records.lookup number).any Piece.isFinished

def Live (wait : InFlightWait) (number : UInt32) (notify : Nat) : Prop :=
  wait.notifiers.lookup number = some notify

instance (wait : InFlightWait) (number : UInt32) (notify : Nat) :
    Decidable (wait.Live number notify) :=
  inferInstanceAs (Decidable (wait.notifiers.lookup number = some notify))

def finishRound (wait : InFlightWait) (partialPieces : List Piece)
    (enabled : List Subscription) : InFlightWait :=
  let interested := removeFinishedFromInterested partialPieces wait.interested
  let finished := mergeFinishedPieces wait.finished partialPieces
  let kept := enabled.filter fun subscription =>
    interested.any (·.number == subscription.number)
  { wait with
    interested
    finished
    phase := if interested.isEmpty ∨ kept.isEmpty then .returned (.ok finished)
      else .blocked kept }

def act (wait : InFlightWait) : WaitAction → Option InFlightWait
  | .claim number =>
    match wait.notifiers.lookup number with
    | some _ => some wait
    | none =>
      some
        { wait with
          notifiers := wait.notifiers.insert number wait.nextNotify
          nextNotify := wait.nextNotify + 1 }
  | .downloadPieceStarted piece =>
    some
      { wait with
        records := wait.records.insert piece.number { piece with finishedAt := none } }
  | .downloadPieceFinished number completion =>
    match wait.records.lookup number with
    | none => some wait
    | some record =>
      some { wait with records := wait.records.insert number (completion.apply record) }
  | .downloadPieceFailed number =>
    if wait.finishedRecord number then some wait
    else some { wait with records := wait.records.erase number }
  | .removeAndNotify number =>
    match wait.notifiers.lookup number with
    | none => some wait
    | some notify =>
      some
        { wait with
          notifiers := wait.notifiers.erase number
          phase := wait.phase.notifyWaiters notify }
  | .lookUp =>
    match wait.phase with
    | .lookingUp [] found => some { wait with phase := .enabling found [] }
    | .lookingUp (piece :: left) found =>
      let notifier := (wait.notifiers.lookup piece.number).map (piece.number, ·)
      some { wait with phase := .lookingUp left (found ++ notifier.toList) }
    | _ => none
  | .enable =>
    match wait.phase with
    | .enabling [] enabled => some { wait with phase := .reading wait.interested [] enabled }
    | .enabling ((number, notify) :: left) enabled =>
      let subscription : Subscription :=
        { number, notify, woken := false, prompt := wait.Live number notify }
      some { wait with phase := .enabling left (enabled ++ [subscription]) }
    | _ => none
  | .read =>
    match wait.phase with
    | .reading (piece :: left) seen enabled =>
      let seen := if wait.finishedRecord piece.number then seen ++ [piece] else seen
      some { wait with phase := .reading left seen enabled }
    | _ => none
  | .collect fault =>
    match wait.phase, fault with
    | .reading [] seen enabled, .none => some (wait.finishRound seen enabled)
    | .reading [] _ enabled, .database => some (wait.finishRound [] enabled)
    | .reading [] _ _, .delivery error =>
      some { wait with phase := .returned (.error error) }
    | _, _ => none
  | .wake =>
    match wait.phase with
    | .blocked subscriptions =>
      if subscriptions.any (·.woken) then
        some { wait with phase := .lookingUp wait.interested [] }
      else none
    | _ => none
  | .timeout =>
    match wait.phase with
    | .blocked _ => some { wait with phase := .returned (.ok wait.finished) }
    | _ => none

def Step (wait : InFlightWait) (action : WaitAction) (target : InFlightWait) : Prop :=
  wait.act action = some target

/-- At the call some of the pieces may be in flight. -/
def Initial (wait : InFlightWait) : Prop :=
  wait.phase = .lookingUp wait.interested [] ∧ wait.finished = [] ∧
    ∀ number notify, wait.Live number notify → notify < wait.nextNotify

/-- The waiter sits in its `select!`. -/
def Blocks (wait : InFlightWait) (subscriptions : List Subscription) : Prop :=
  wait.phase = .blocked subscriptions ∧
    ∀ subscription ∈ subscriptions, subscription.woken = false

@[simp]
theorem held_notifyWaiters (phase : WaitPhase) (notify : Nat) :
    (phase.notifyWaiters notify).held = phase.held := by
  cases phase <;> rfl

@[simp]
theorem subscriptions_notifyWaiters (phase : WaitPhase) (notify : Nat) :
    (phase.notifyWaiters notify).subscriptions =
      phase.subscriptions.map (wake notify) := by
  cases phase <;> rfl

/-- Notifiers are told apart, and a subscription that is not woken is on a notifier in the map
exactly when it was enabled in time. -/
structure Faithful (wait : InFlightWait) : Prop where
  fresh : ∀ number notify, wait.Live number notify → notify < wait.nextNotify
  held : ∀ pair ∈ wait.phase.held, pair.2 < wait.nextNotify
  subscribed : ∀ subscription ∈ wait.phase.subscriptions,
    subscription.notify < wait.nextNotify ∧
      (subscription.woken = false →
        (wait.Live subscription.number subscription.notify ↔ subscription.prompt = true))

section Faithfulness

variable {wait target : InFlightWait} {action : WaitAction}

theorem Initial.faithful (initial : wait.Initial) : wait.Faithful where
  fresh := initial.2.2
  held := by simp [initial.1, held]
  subscribed := by simp [initial.1, subscriptions]

theorem Faithful.claim (faithful : wait.Faithful) {number}
    (vacant : wait.notifiers.lookup number = none) :
    Faithful
      { wait with
        notifiers := wait.notifiers.insert number wait.nextNotify
        nextNotify := wait.nextNotify + 1 } where
  fresh := by
    intro other notify live
    rw [Live, Table.lookup_insert_eq] at live
    split at live
    · cases live
      exact Nat.lt_succ_self _
    · exact Nat.lt_succ_of_lt (faithful.fresh other notify live)
  held := fun pair member => Nat.lt_succ_of_lt (faithful.held pair member)
  subscribed := by
    intro subscription member
    obtain ⟨old, exactly⟩ := faithful.subscribed subscription member
    refine ⟨Nat.lt_succ_of_lt old, fun asleep => ?_⟩
    rw [← exactly asleep, Live, Live, Table.lookup_insert_eq]
    split
    next same =>
      rw [same, vacant, Option.some.injEq]
      constructor
      · intro equal
        exact absurd equal.symm (Nat.ne_of_lt old)
      · exact fun impossible => nomatch impossible
    next => rfl

theorem Faithful.removeAndNotify (faithful : wait.Faithful) {number notify}
    (live : wait.Live number notify) :
    Faithful
      { wait with
        notifiers := wait.notifiers.erase number
        phase := wait.phase.notifyWaiters notify } where
  fresh := by
    intro other found present
    rw [Live, Table.lookup_erase_eq] at present
    split at present
    · cases present
    · exact faithful.fresh other found present
  held := by
    rw [held_notifyWaiters]
    exact faithful.held
  subscribed := by
    rw [subscriptions_notifyWaiters]
    intro subscription member
    obtain ⟨original, inOriginal, rfl⟩ := mem_map.mp member
    obtain ⟨old, exactly⟩ := faithful.subscribed original inOriginal
    rw [wake]
    split
    next => exact ⟨old, fun asleep => nomatch asleep⟩
    next other =>
      refine ⟨old, fun asleep => ?_⟩
      rw [← exactly asleep, Live, Live, Table.lookup_erase_eq]
      split
      next same =>
        -- The piece's notifier in the map was another one.
        rw [same, show wait.notifiers.lookup number = some notify from live, Option.some.injEq]
        constructor
        · exact fun impossible => nomatch impossible
        · exact fun equal => absurd equal.symm other
      next => rfl

theorem Faithful.subscribe (faithful : wait.Faithful)
    (notifiers : target.notifiers = wait.notifiers)
    (nextNotify : target.nextNotify = wait.nextNotify)
    (held : ∀ pair ∈ target.phase.held, pair ∈ wait.phase.held ∨ wait.Live pair.1 pair.2)
    (subscribed : ∀ subscription ∈ target.phase.subscriptions,
      subscription ∈ wait.phase.subscriptions ∨
        (subscription.number, subscription.notify) ∈ wait.phase.held ∧
          (wait.Live subscription.number subscription.notify ↔ subscription.prompt = true)) :
    target.Faithful := by
  have live : ∀ number notify, target.Live number notify ↔ wait.Live number notify := by
    intro number notify
    rw [Live, Live, notifiers]
  constructor
  · intro number notify present
    rw [nextNotify]
    exact faithful.fresh number notify ((live number notify).mp present)
  · intro pair member
    rw [nextNotify]
    rcases held pair member with kept | found
    · exact faithful.held pair kept
    · exact faithful.fresh pair.1 pair.2 found
  · intro subscription member
    rw [nextNotify, live]
    rcases subscribed subscription member with kept | ⟨inHeld, exactly⟩
    · exact faithful.subscribed subscription kept
    · exact ⟨faithful.held _ inHeld, fun _ => exactly⟩

/-- A round goes on with some of the subscriptions, each of a piece that is left, or is the
last. -/
theorem finishRound_phase (wait : InFlightWait) (partialPieces : List Piece)
    (enabled : List Subscription) :
    (wait.finishRound partialPieces enabled).phase =
        .returned (.ok (mergeFinishedPieces wait.finished partialPieces)) ∨
      ∃ kept, kept ≠ [] ∧ (wait.finishRound partialPieces enabled).phase = .blocked kept ∧
        ∀ subscription ∈ kept, subscription ∈ enabled ∧
          ∃ piece ∈ removeFinishedFromInterested partialPieces wait.interested,
            piece.number = subscription.number := by
  rw [finishRound]
  split
  case isTrue => exact .inl rfl
  case isFalse goesOn =>
    rw [not_or, List.isEmpty_iff, List.isEmpty_iff] at goesOn
    refine .inr ⟨_, goesOn.2, rfl, ?_⟩
    intro subscription member
    obtain ⟨inEnabled, wanted⟩ := mem_filter.mp member
    obtain ⟨piece, left, same⟩ := any_eq_true.mp wanted
    exact ⟨inEnabled, piece, left, eq_of_beq same⟩

theorem Faithful.finishRound (faithful : wait.Faithful) (partialPieces : List Piece) {enabled}
    (among : ∀ subscription ∈ enabled, subscription ∈ wait.phase.subscriptions) :
    (wait.finishRound partialPieces enabled).Faithful := by
  refine faithful.subscribe rfl rfl ?_ ?_
  · rcases finishRound_phase wait partialPieces enabled with ended | ⟨kept, -, blocked, -⟩
    · simp [ended, WaitPhase.held]
    · simp [blocked, WaitPhase.held]
  · rcases finishRound_phase wait partialPieces enabled with ended | ⟨kept, -, blocked, origin⟩
    · simp [ended, WaitPhase.subscriptions]
    · rw [blocked]
      intro subscription member
      exact .inl (among subscription (origin subscription member).1)

/-- The phases in which the waiter holds nothing and has no subscription. -/
theorem Faithful.idle (faithful : wait.Faithful) {phase : WaitPhase} (held : phase.held = [])
    (subscriptions : phase.subscriptions = []) : Faithful { wait with phase } :=
  faithful.subscribe rfl rfl (by simp [held]) (by simp [subscriptions])

theorem Faithful.lookUp (faithful : wait.Faithful) (moved : wait.Step .lookUp target) :
    target.Faithful := by
  simp only [Step, act] at moved
  split at moved <;> cases moved
  next here =>
    refine faithful.subscribe rfl rfl ?_ (by simp [subscriptions])
    exact fun pair member => .inl (by rwa [here])
  next here =>
    refine faithful.subscribe rfl rfl (fun pair member => ?_) (by simp [subscriptions])
    rcases mem_append.mp member with before | now
    · exact .inl (by rwa [here])
    · rw [Option.mem_toList, Option.map_eq_some_iff] at now
      obtain ⟨notify, live, rfl⟩ := now
      exact .inr live

theorem Faithful.enable (faithful : wait.Faithful) (moved : wait.Step .enable target) :
    target.Faithful := by
  simp only [Step, act] at moved
  split at moved <;> cases moved
  next here =>
    refine faithful.subscribe rfl rfl (by simp [WaitPhase.held]) ?_
    exact fun _ member => .inl (by rwa [here])
  next here =>
    refine faithful.subscribe rfl rfl ?_ fun subscription member => ?_
    · exact fun pair member => .inl (by rw [here]; exact mem_cons_of_mem _ member)
    · rcases mem_append.mp member with before | now
      · exact .inl (by rwa [here])
      · rw [mem_singleton] at now
        subst now
        exact .inr ⟨by rw [here]; exact mem_cons_self, by rw [decide_eq_true_eq]⟩

theorem Faithful.step (faithful : wait.Faithful) (moved : wait.Step action target) :
    target.Faithful := by
  have same {records} : Faithful { wait with records } :=
    ⟨faithful.fresh, faithful.held, faithful.subscribed⟩
  cases action with
  | claim number =>
    simp only [Step, act] at moved
    split at moved <;> cases moved
    next => exact faithful
    next vacant => exact faithful.claim vacant
  | downloadPieceStarted piece =>
    cases moved
    exact same
  | downloadPieceFinished | downloadPieceFailed =>
    simp only [Step, act] at moved
    split at moved <;> cases moved <;> exact same
  | removeAndNotify number =>
    simp only [Step, act] at moved
    split at moved <;> cases moved
    next => exact faithful
    next live => exact faithful.removeAndNotify live
  | lookUp => exact faithful.lookUp moved
  | enable => exact faithful.enable moved
  | read =>
    simp only [Step, act] at moved
    split at moved <;> cases moved
    next here =>
      refine faithful.subscribe rfl rfl (by simp [WaitPhase.held]) ?_
      exact fun _ member => .inl (by rwa [here])
  | collect fault =>
    simp only [Step, act] at moved
    split at moved <;> cases moved
    next here => exact faithful.finishRound _ fun _ member => by rwa [here]
    next here => exact faithful.finishRound _ fun _ member => by rwa [here]
    next => exact faithful.idle rfl rfl
  | wake | timeout =>
    simp only [Step, act] at moved
    repeat' split at moved
    all_goals cases moved
    exact faithful.idle rfl rfl

theorem faithful_of_reachable (reached : Reachable Initial Step wait) : wait.Faithful := by
  apply reached.invariant
  · exact fun state initial => initial.faithful
  · exact fun state label later faithful moved => faithful.step moved

end Faithfulness

/-- While the waiter has looked a notifier up and not subscribed to it yet, only the owner of a
finished piece removes it; no finished piece is started again, and the metadata can be read. -/
def Orderly (wait : InFlightWait) : WaitAction → Prop
  | .removeAndNotify number =>
    ∀ pair ∈ wait.phase.held, pair.1 = number → wait.Live pair.1 pair.2 →
      wait.finishedRecord number = true
  | .downloadPieceStarted piece => wait.finishedRecord piece.number = false
  | .collect fault => fault ≠ .database
  | _ => True

/-- The numbers that the coming look at the metadata can take out. -/
def undecided (interested : List Piece) : WaitPhase → List UInt32
  | .enabling _ _ => interested.map Piece.number
  | .reading left seen _ => (left ++ seen).map Piece.number
  | _ => []

@[simp]
theorem undecided_notifyWaiters (interested : List Piece) (phase : WaitPhase) (notify : Nat) :
    undecided interested (phase.notifyWaiters notify) = undecided interested phase := by
  cases phase <;> rfl

def toLookUp : WaitPhase → List Piece
  | .lookingUp left _ => left
  | _ => []

@[simp]
theorem toLookUp_notifyWaiters (phase : WaitPhase) (notify : Nat) :
    toLookUp (phase.notifyWaiters notify) = toLookUp phase := by
  cases phase <;> rfl

theorem blocked_of_notifyWaiters {phase : WaitPhase} {notify subscriptions}
    (blocked : phase.notifyWaiters notify = .blocked subscriptions) :
    ∃ original, phase = .blocked original ∧
      subscriptions = original.map (WaitPhase.wake notify) := by
  cases phase with
  | blocked original => exact ⟨original, rfl, (WaitPhase.blocked.inj blocked).symm⟩
  | _ => cases blocked

@[simp]
theorem wake_number (notify : Nat) (subscription : Subscription) :
    (wake notify subscription).number = subscription.number := by
  unfold wake
  split <;> rfl

@[simp]
theorem wake_prompt (notify : Nat) (subscription : Subscription) :
    (wake notify subscription).prompt = subscription.prompt := by
  unfold wake
  split <;> rfl

/-- Every notifier that the waiter holds or waits on was there in time, or belongs to a piece
that is finished and about to be taken out. -/
structure Timely (wait : InFlightWait) : Prop where
  toLookUp : toLookUp wait.phase ⊆ wait.interested
  held : ∀ pair ∈ wait.phase.held, pair.1 ∈ wait.interested.map Piece.number ∧
    (wait.Live pair.1 pair.2 ∨ wait.finishedRecord pair.1 = true)
  subscribed : ∀ subscription ∈ wait.phase.subscriptions,
    subscription.number ∈ wait.interested.map Piece.number ∧
      (subscription.prompt = true ∨
        wait.finishedRecord subscription.number = true ∧
          subscription.number ∈ undecided wait.interested wait.phase)
  nonempty : ∀ subscriptions, wait.phase = .blocked subscriptions → subscriptions ≠ []

section Timeliness

variable {wait target : InFlightWait} {action : WaitAction}

theorem Initial.timely (initial : wait.Initial) : wait.Timely where
  toLookUp := by
    rw [initial.1]
    exact List.Subset.refl _
  held := by simp [initial.1, held]
  subscribed := by simp [initial.1, subscriptions]
  nonempty := by simp [initial.1]

theorem Timely.records (timely : wait.Timely) {records}
    (kept : ∀ number, wait.finishedRecord number = true →
      (records.lookup number).any Piece.isFinished = true) :
    Timely { wait with records } where
  toLookUp := timely.toLookUp
  held := by
    intro pair member
    obtain ⟨known, live | done⟩ := timely.held pair member
    · exact ⟨known, .inl live⟩
    · exact ⟨known, .inr (kept pair.1 done)⟩
  subscribed := by
    intro subscription member
    obtain ⟨known, inTime | ⟨done, undecided⟩⟩ := timely.subscribed subscription member
    · exact ⟨known, .inl inTime⟩
    · exact ⟨known, .inr ⟨kept subscription.number done, undecided⟩⟩
  nonempty := timely.nonempty

theorem Timely.claim (timely : wait.Timely) {number}
    (vacant : wait.notifiers.lookup number = none) :
    Timely
      { wait with
        notifiers := wait.notifiers.insert number wait.nextNotify
        nextNotify := wait.nextNotify + 1 } where
  toLookUp := timely.toLookUp
  held := by
    intro pair member
    obtain ⟨known, live | done⟩ := timely.held pair member
    · refine ⟨known, .inl ?_⟩
      have other : pair.1 ≠ number := by
        rintro rfl
        rw [Live, vacant] at live
        cases live
      rwa [Live, Table.lookup_insert_eq, if_neg other]
    · exact ⟨known, .inr done⟩
  subscribed := timely.subscribed
  nonempty := timely.nonempty

theorem Timely.removeAndNotify (timely : wait.Timely) {number : UInt32} {notify}
    (orderly : wait.Orderly (.removeAndNotify number)) :
    Timely
      { wait with
        notifiers := wait.notifiers.erase number
        phase := wait.phase.notifyWaiters notify } where
  toLookUp := by
    rw [toLookUp_notifyWaiters]
    exact timely.toLookUp
  held := by
    intro pair member
    rw [held_notifyWaiters] at member
    obtain ⟨known, live | done⟩ := timely.held pair member
    · by_cases same : pair.1 = number
      · exact ⟨known, .inr (same ▸ orderly pair member same live)⟩
      · refine ⟨known, .inl ?_⟩
        rwa [Live, Table.lookup_erase_eq, if_neg same]
    · exact ⟨known, .inr done⟩
  subscribed := by
    intro subscription member
    rw [subscriptions_notifyWaiters] at member
    obtain ⟨original, inOriginal, rfl⟩ := mem_map.mp member
    rw [wake_number, wake_prompt, undecided_notifyWaiters]
    exact timely.subscribed original inOriginal
  nonempty := by
    intro subscriptions here
    obtain ⟨original, blocked, rfl⟩ := blocked_of_notifyWaiters here
    simpa using timely.nonempty original blocked

theorem timely_returned (wait : InFlightWait) (result : ClientResult (List Piece)) :
    Timely { wait with phase := .returned result } where
  toLookUp := nil_subset _
  held := by simp [held]
  subscribed := by simp [subscriptions]
  nonempty := by simp

/-- A subscription that outlives a look at the metadata was enabled in time. -/
theorem Timely.collected (timely : wait.Timely) {seen enabled}
    (here : wait.phase = .reading [] seen enabled) :
    (wait.finishRound seen enabled).Timely := by
  rcases finishRound_phase wait seen enabled with ended | ⟨kept, remaining, blocked, origin⟩
  · constructor
    · simp [ended, InFlightWait.toLookUp]
    · simp [ended, WaitPhase.held]
    · simp [ended, WaitPhase.subscriptions]
    · simp [ended]
  · constructor
    · simp [blocked, InFlightWait.toLookUp]
    · simp [blocked, WaitPhase.held]
    · rw [blocked]
      intro subscription member
      obtain ⟨inEnabled, piece, remains, same⟩ := origin subscription member
      refine ⟨mem_map.mpr ⟨piece, remains, same⟩, .inl ?_⟩
      obtain ⟨-, inTime | ⟨-, undecided⟩⟩ := timely.subscribed subscription (by rwa [here])
      · exact inTime
      · -- It would be one of the pieces just taken out.
        rw [here, InFlightWait.undecided, nil_append] at undecided
        obtain ⟨taken, inSeen, number⟩ := mem_map.mp undecided
        rw [removeFinishedFromInterested, mem_filter] at remains
        simp only [Bool.not_eq_true', any_eq_false, beq_iff_eq] at remains
        exact absurd (number.trans same.symm) (remains.2 taken inSeen)
    · intro subscriptions same
      rw [blocked, WaitPhase.blocked.injEq] at same
      exact same ▸ remaining

theorem Timely.read (timely : wait.Timely) {piece left seen enabled}
    (here : wait.phase = .reading (piece :: left) seen enabled) :
    Timely
      { wait with
        phase := .reading left
          (if wait.finishedRecord piece.number then seen ++ [piece] else seen) enabled } where
  toLookUp := nil_subset _
  held := by simp [WaitPhase.held]
  subscribed := by
    intro subscription member
    obtain ⟨known, inTime | ⟨done, undecided⟩⟩ := timely.subscribed subscription (by rwa [here])
    · exact ⟨known, .inl inTime⟩
    · refine ⟨known, .inr ⟨done, ?_⟩⟩
      rw [here, InFlightWait.undecided, cons_append, map_cons, mem_cons] at undecided
      rw [InFlightWait.undecided]
      rcases undecided with first | later
      · rw [← first, if_pos done]
        simp [first]
      · split
        · simp only [map_append, mem_append] at later ⊢
          tauto
        · exact later
  nonempty := by simp

theorem Timely.enabled (timely : wait.Timely) {number notify left enabled}
    (here : wait.phase = .enabling ((number, notify) :: left) enabled) :
    Timely
      { wait with
        phase := .enabling left
          (enabled ++ [⟨number, notify, false, wait.Live number notify⟩]) } where
  toLookUp := nil_subset _
  held := by
    intro pair member
    apply timely.held pair
    rw [here]
    exact mem_cons_of_mem _ member
  subscribed := by
    intro subscription member
    rcases mem_append.mp member with before | now
    · have known := timely.subscribed subscription (by rwa [here])
      rwa [here] at known
    · rw [mem_singleton] at now
      subst now
      obtain ⟨known, live | done⟩ := timely.held (number, notify) (by
        rw [here]
        exact mem_cons_self)
      · exact ⟨known, .inl (decide_eq_true live)⟩
      · exact ⟨known, .inr ⟨done, known⟩⟩
  nonempty := by simp

theorem Timely.lookedUp (timely : wait.Timely) {piece left found}
    (here : wait.phase = .lookingUp (piece :: left) found) :
    Timely
      { wait with
        phase := .lookingUp left
          (found ++ ((wait.notifiers.lookup piece.number).map (piece.number, ·)).toList) } where
  toLookUp := by
    have wanted := timely.toLookUp
    rw [here] at wanted
    exact fun other member => wanted (mem_cons_of_mem piece member)
  held := by
    intro pair member
    rcases mem_append.mp member with before | now
    · exact timely.held pair (by rwa [here])
    · rw [Option.mem_toList, Option.map_eq_some_iff] at now
      obtain ⟨notify, live, rfl⟩ := now
      refine ⟨mem_map.mpr ⟨piece, timely.toLookUp ?_, rfl⟩, .inl live⟩
      rw [here]
      exact mem_cons_self
  subscribed := by simp [subscriptions]
  nonempty := by simp

theorem Timely.step (timely : wait.Timely) (moved : wait.Step action target)
    (orderly : wait.Orderly action) : target.Timely := by
  cases action with
  | claim number =>
    simp only [Step, act] at moved
    split at moved <;> cases moved
    next => exact timely
    next vacant => exact timely.claim vacant
  | downloadPieceStarted piece =>
    cases moved
    refine timely.records fun number done => ?_
    have other : number ≠ piece.number := by
      rintro rfl
      rw [show wait.finishedRecord piece.number = false from orderly] at done
      cases done
    rwa [Table.lookup_insert_eq, if_neg other]
  | downloadPieceFinished number completion =>
    simp only [Step, act] at moved
    split at moved <;> cases moved
    next => exact timely
    next =>
      refine timely.records fun number done => ?_
      rw [Table.lookup_insert_eq]
      split
      · rfl
      · exact done
  | downloadPieceFailed number =>
    simp only [Step, act] at moved
    split at moved <;> cases moved
    next => exact timely
    next unfinished =>
      refine timely.records fun other done => ?_
      have apart : other ≠ number := by
        rintro rfl
        exact unfinished done
      rwa [Table.lookup_erase_eq, if_neg apart]
  | removeAndNotify number =>
    simp only [Step, act] at moved
    split at moved <;> cases moved
    next => exact timely
    next => exact timely.removeAndNotify orderly
  | lookUp =>
    simp only [Step, act] at moved
    split at moved <;> cases moved
    next here =>
      refine ⟨nil_subset _, fun pair member => ?_, by simp [subscriptions], by simp⟩
      exact timely.held pair (by rwa [here])
    next here => exact timely.lookedUp here
  | enable =>
    simp only [Step, act] at moved
    split at moved <;> cases moved
    next here =>
      refine ⟨nil_subset _, by simp [WaitPhase.held], fun subscription member => ?_, by simp⟩
      obtain ⟨known, inTime | ⟨done, -⟩⟩ := timely.subscribed subscription (by rwa [here])
      · exact ⟨known, .inl inTime⟩
      · exact ⟨known, .inr ⟨done, by simpa [undecided] using known⟩⟩
    next here => exact timely.enabled here
  | read =>
    simp only [Step, act] at moved
    split at moved <;> cases moved
    next here => exact timely.read here
  | collect fault =>
    simp only [Step, act] at moved
    split at moved <;> cases moved
    next here => exact timely.collected here
    next => exact absurd rfl orderly
    next => exact timely_returned wait _
  | wake =>
    simp only [Step, act] at moved
    repeat' split at moved
    all_goals cases moved
    refine ⟨List.Subset.refl _, ?_, by simp [subscriptions], by simp⟩
    simp [WaitPhase.held]
  | timeout =>
    simp only [Step, act] at moved
    split at moved <;> cases moved
    exact timely_returned wait _

theorem timely_of_reachable (reached : Reachable Initial (Guarded Step Orderly) wait) :
    wait.Timely := by
  apply reached.invariant
  · exact fun state initial => initial.timely
  · exact fun state label later timely moved => timely.step moved.1 moved.2

end Timeliness

/-- A blocked waiter has a subscription on a notifier that is still in the map exactly when one
of the subscriptions it kept was enabled in time; and it has one, of a piece it still waits for,
in every run in which no unfinished piece loses its notifier between the look-up and the
subscription. -/
theorem in_flight_wait_has_live_notifier (wait : InFlightWait)
    (subscriptions : List Subscription) (blocks : wait.Blocks subscriptions) :
    (Reachable Initial Step wait →
      ((∃ subscription ∈ subscriptions, wait.Live subscription.number subscription.notify) ↔
        ∃ subscription ∈ subscriptions, subscription.prompt = true)) ∧
    (Reachable Initial (Guarded Step Orderly) wait →
      ∃ subscription ∈ subscriptions, wait.Live subscription.number subscription.notify ∧
        ∃ piece ∈ wait.interested, piece.number = subscription.number) := by
  obtain ⟨here, asleep⟩ := blocks
  have exactly : wait.Faithful → ∀ subscription ∈ subscriptions,
      (wait.Live subscription.number subscription.notify ↔ subscription.prompt = true) := by
    intro faithful subscription member
    have listed : subscription ∈ wait.phase.subscriptions := by rwa [here]
    exact (faithful.subscribed subscription listed).2 (asleep subscription member)
  constructor
  · intro reached
    have faithful := faithful_of_reachable reached
    exact exists_congr fun subscription =>
      and_congr_right fun member => exactly faithful subscription member
  · intro reached
    have timely := timely_of_reachable reached
    have faithful : wait.Faithful := by
      apply reached.invariant
      · exact fun state initial => initial.faithful
      · exact fun state label later faithful moved => faithful.step moved.1
    obtain ⟨subscription, member⟩ := exists_mem_of_ne_nil _ (timely.nonempty _ here)
    obtain ⟨known, inTime | ⟨-, undecided⟩⟩ := timely.subscribed subscription (by rwa [here])
    · refine ⟨subscription, member, (exactly faithful subscription member).mpr inTime, ?_⟩
      exact mem_map.mp known
    · rw [here] at undecided
      cases undecided

def prefetching : InFlightWait where
  records := AList.insert 0 ⟨0, 0, 4, "", none, none⟩ ∅
  notifiers := AList.insert 0 0 ∅
  nextNotify := 1
  interested := [⟨0, 0, 4, "", none, none⟩]
  finished := []
  phase := .lookingUp [⟨0, 0, 4, "", none, none⟩] []

theorem prefetching_initial : prefetching.Initial := by
  refine ⟨rfl, rfl, ?_⟩
  intro number notify live
  rw [Live, prefetching, Table.lookup_insert_eq] at live
  split at live
  · cases live
    exact Nat.zero_lt_one
  · cases live

def round : List WaitAction := [.lookUp, .lookUp, .enable, .enable, .read, .collect .none]

/-- The waiter blocks while the piece is in flight. -/
theorem in_flight_wait_has_live_notifier_prefetching :
    ∃ wait subscriptions, Reachable Initial (Guarded Step Orderly) wait ∧
      wait.Blocks subscriptions ∧
      ∃ subscription ∈ subscriptions, wait.Live subscription.number subscription.notify := by
  obtain ⟨wait, performed, blocks⟩ : ∃ wait, perform act prefetching round = some wait ∧
      wait.Blocks [⟨0, 0, false, true⟩] := ⟨_, rfl, rfl, by decide⟩
  have reached : Reachable Initial (Guarded Step Orderly) wait := by
    refine (Reachable.start prefetching_initial).perform ?_ performed
    intro action listed before after moved
    refine ⟨moved, ?_⟩
    simp only [round, mem_cons, not_mem_nil, or_false] at listed
    rcases listed with rfl | rfl | rfl | rfl | rfl | rfl <;> simp [Orderly]
  obtain ⟨subscription, member, live, -⟩ :=
    (in_flight_wait_has_live_notifier wait _ blocks).2 reached
  exact ⟨wait, _, reached, blocks, subscription, member, live⟩

/-- The owner of the piece fails after the look-up and before the subscription: the waiter
blocks although nothing is in flight. -/
theorem in_flight_wait_misses_failure :
    ∃ wait subscriptions, Reachable Initial Step wait ∧ wait.Blocks subscriptions ∧
      (¬ ∃ subscription ∈ subscriptions, wait.Live subscription.number subscription.notify) ∧
      ∀ piece ∈ wait.interested, wait.notifiers.lookup piece.number = none := by
  obtain ⟨wait, performed, blocks, dead, idle⟩ : ∃ wait, perform act prefetching
      [.lookUp, .lookUp, .downloadPieceFailed 0, .removeAndNotify 0, .enable, .enable, .read,
        .collect .none] = some wait ∧
      wait.Blocks [⟨0, 0, false, false⟩] ∧
      (¬ ∃ subscription ∈ [(⟨0, 0, false, false⟩ : Subscription)],
        wait.Live subscription.number subscription.notify) ∧
      ∀ piece ∈ wait.interested, wait.notifiers.lookup piece.number = none :=
    ⟨_, rfl, ⟨rfl, by decide⟩, by decide, by decide⟩
  refine ⟨wait, _, ?_, blocks, dead, idle⟩
  exact (Reachable.start prefetching_initial).perform (fun _ _ _ _ moved => moved) performed

end InFlightWait

end DragonflyClient.Resource
