import DragonflyClient.Urma.Control

/-!
Cancelled transfers: a `TransferControl` that is dropped without `finish` first takes
its route away and then puts its id into `retired`, under two locks.
-/

namespace DragonflyClient.Urma

open Library List

/-- Dropped without `finish`. -/
def TransferControl.cancelled (control : TransferControl) : Bool :=
  !control.completed && decide (control.phase ≠ .live ∧ control.phase ≠ .finished)

def TransferControl.retired (control : TransferControl) : Bool :=
  control.cancelled && decide (control.phase ≠ .removed)

namespace LaneControl

/-- What a step does to the controls and to the ids that are retired. -/
inductive Effect (lane target : LaneControl) : Prop where
  | kept (controls : target.controls = lane.controls) (retired : target.retired = lane.retired)
  | enrolled {transferId} (controls : target.controls = lane.controls ++ [.new transferId])
      (retired : target.retired = lane.retired)
  | changed {index control change} (present : lane.controls[index]? = some control)
      (transferId : (change control).transferId = control.transferId)
      (same : (change control).retired = control.retired)
      (removed : (change control).phase = .removed ∧ (change control).completed = true →
        control.phase = .removed ∧ control.completed = true)
      (controls : target.controls = lane.controls.modify index change)
      (retired : target.retired = lane.retired)
  | retired {index control} (present : lane.controls[index]? = some control)
      (removed : control.phase = .removed)
      (controls : target.controls =
        lane.controls.modify index fun control => { control with phase := .detached })
      (retired : target.retired = control.transferId :: lane.retired)

section Effects

variable {lane target : LaneControl} {event : ControlEvent}

theorem effect_of_readerStep (moved : lane.readerStep event = some target) :
    lane.Effect target := by
  unfold readerStep at moved
  repeat' split at moved
  all_goals cases moved
  all_goals first
    | exact .kept rfl rfl
    | exact .changed ‹_› rfl rfl id rfl rfl
    | unfold receiveFrame
  split <;> split <;> exact .kept rfl rfl

theorem effect_of_registerStep (moved : lane.registerStep event = some target) :
    lane.Effect target := by
  unfold registerStep at moved
  repeat' split at moved
  all_goals cases moved
  all_goals first
    | exact .kept rfl rfl
    | exact .enrolled rfl rfl

theorem effect_of_controlStep (moved : lane.controlStep event = some target) :
    lane.Effect target := by
  unfold controlStep at moved
  repeat' split at moved
  any_goals cases moved
  next => exact .kept rfl rfl
  next present live =>
    obtain ⟨⟨result, inbox⟩, -, rfl⟩ := Option.map_eq_some_iff.mp moved
    exact .changed present rfl rfl id rfl rfl
  next present live =>
    refine .changed present rfl ?_ (fun ended => by cases ended.1) rfl rfl
    simp [TransferControl.retired, TransferControl.cancelled, live]
  next control present ready =>
    refine .changed present rfl ?_ ?_ rfl rfl
    · cases completed : control.completed <;> rcases ready with ⟨live, -⟩ | done <;>
        simp [TransferControl.retired, TransferControl.cancelled, *]
    · rintro ⟨isRemoved, completed⟩
      change control.completed = true at completed
      simp [completed] at isRemoved
  next present removed => exact .retired present removed rfl rfl
  next present detached =>
    refine .changed present rfl ?_ (fun ended => by cases ended.1) rfl rfl
    simp [TransferControl.retired, TransferControl.cancelled, detached]
  next present released =>
    refine .changed present rfl ?_ (fun ended => by cases ended.1) rfl rfl
    simp [TransferControl.retired, TransferControl.cancelled, released]

theorem effect_of_closeStep (moved : lane.closeStep event = some target) :
    lane.Effect target := by
  unfold closeStep at moved
  repeat' split at moved
  all_goals cases moved
  all_goals try exact .kept rfl rfl
  next sender _ closer _ _ =>
    cases present : lane.controls[sender]? with
    | none => exact .kept (modify_eq_self (getElem?_eq_none_iff.mp present)) rfl
    | some control =>
      refine .changed present ?_ ?_ ?_ rfl rfl <;> split
      all_goals first | rfl | exact id

theorem effect_of_step (moved : lane.Step event target) : lane.Effect target := by
  unfold Step step at moved
  split at moved
  all_goals first
    | exact effect_of_readerStep moved
    | exact effect_of_registerStep moved
    | exact effect_of_controlStep moved
    | exact effect_of_closeStep moved

end Effects

variable {lane : LaneControl} {index : Nat} {control : TransferControl}

theorem reachable_perform {later initial} (reached : Reachable initial Step lane) {events}
    (performed : lane.perform events = some later) : Reachable initial Step later := by
  induction events generalizing lane with
  | nil =>
    cases performed
    exact reached
  | cons event events ih =>
    rw [perform, Option.bind_eq_some_iff] at performed
    obtain ⟨next, moved, rest⟩ := performed
    exact ih (.next reached moved) rest

def fresh : LaneControl :=
  { maxConcurrentTransfers := 2, routes := ∅, retired := [], controls := [], registrations := []
    incoming := [], orphans := [], permits := 2, replies := [], reader := .idle, writing := true
    owned := true, incomingOpen := true, closers := [], shutdown := false, stream := [], log := []
    drained := false }

theorem fresh_reachable : Reachable Initial Step fresh := .start ⟨2, rfl⟩

def registration (transferId : TransferId) : List ControlEvent :=
  [.registerStart transferId, .registerCheck 0, .registerInsert 0]

theorem exists_performed {events property} [DecidablePred property]
    (evaluated : (lane.perform events).any (fun later => decide (property later)) = true) :
    ∃ later, lane.perform events = some later ∧ property later := by
  generalize lane.perform events = performed at evaluated
  cases performed with
  | none => cases evaluated
  | some later => exact ⟨later, rfl, of_decide_eq_true evaluated⟩

/-- `retired` lists exactly the transfers that were cancelled and are past both locks. -/
structure Retiring (lane : LaneControl) : Prop where
  listed : ∀ transferId, transferId ∈ lane.retired ↔
    ∃ control ∈ lane.controls, control.transferId = transferId ∧ control.retired = true
  removed : ¬ ∃ control ∈ lane.controls, control.phase = .removed ∧ control.completed = true

theorem exists_mem_modify {Item : Type} {items : List Item} {item}
    (present : items[index]? = some item) (change : Item → Item) (property : Item → Prop)
    (kept : property item → property (change item)) :
    (∃ other ∈ items.modify index change, property other) ↔
      property (change item) ∨ ∃ other ∈ items, property other := by
  induction items generalizing index with
  | nil => cases present
  | cons first items ih =>
    cases index with
    | zero =>
      cases present
      rw [modify_zero_cons]
      simp only [mem_cons, exists_eq_or_imp]
      tauto
    | succ index =>
      rw [modify_succ_cons]
      simp only [mem_cons, exists_eq_or_imp, ih present]
      tauto

theorem Retiring.not_removed (retiring : lane.Retiring)
    (present : lane.controls[index]? = some control) {change}
    (removed : (change control).phase = .removed ∧ (change control).completed = true →
      control.phase = .removed ∧ control.completed = true) :
    ¬ ∃ other ∈ lane.controls.modify index change,
      other.phase = .removed ∧ other.completed = true := by
  rintro ⟨other, changed, isRemoved⟩
  obtain ⟨position, found⟩ := mem_iff_getElem?.mp changed
  rw [getElem?_modify] at found
  obtain ⟨before, present', same⟩ := Option.map_eq_some_iff.mp found
  by_cases here : index = position
  · rw [if_pos here] at same
    subst here same
    obtain rfl := Option.some.inj (present.symm.trans present')
    exact retiring.removed ⟨control, mem_of_getElem? present, removed isRemoved⟩
  · rw [if_neg here] at same
    obtain rfl : before = other := same
    exact retiring.removed ⟨before, mem_of_getElem? present', isRemoved⟩

theorem Retiring.step {target event} (retiring : lane.Retiring) (moved : lane.Step event target) :
    target.Retiring := by
  cases effect_of_step moved with
  | kept controls retired =>
    exact ⟨by rw [controls, retired]; exact retiring.listed,
      by rw [controls]; exact retiring.removed⟩
  | enrolled controls retired =>
    constructor
    · intro transferId
      rw [retired, controls, retiring.listed]
      simp [TransferControl.new, TransferControl.retired, TransferControl.cancelled, or_and_right,
        exists_or]
    · rw [controls]
      rintro ⟨control, member, isRemoved, completed⟩
      rcases mem_append.mp member with old | new
      · exact retiring.removed ⟨control, old, isRemoved, completed⟩
      · obtain rfl := mem_singleton.mp new
        cases completed
  | @changed _ control change present transferId same removed controls retired =>
    refine ⟨fun listed => ?_, controls ▸ retiring.not_removed present removed⟩
    rw [retired, controls, exists_mem_modify present change _ (by rw [transferId, same]; exact id),
      transferId, same, retiring.listed, or_iff_right_of_imp]
    exact fun here => ⟨control, mem_of_getElem? present, here⟩
  | @retired _ control present removed controls retired =>
    have uncompleted : control.completed = false := by
      by_contra completed
      exact retiring.removed ⟨control, mem_of_getElem? present, removed,
        Bool.eq_true_of_not_eq_false completed⟩
    refine ⟨fun listed => ?_, controls ▸ retiring.not_removed present fun ended => by cases ended.1⟩
    rw [retired, controls, mem_cons, retiring.listed, exists_mem_modify present]
    · simp [TransferControl.retired, TransferControl.cancelled, uncompleted, @eq_comm _ listed]
    · rintro ⟨-, early⟩
      simp [TransferControl.retired, removed] at early

theorem retiring_of_reachable (reached : Reachable Initial Step lane) : lane.Retiring := by
  apply reached.invariant
  · rintro lane ⟨most, started⟩
    unfold spawn at started
    split at started
    · cases started
    · cases started
      exact ⟨fun transferId => by simp, by simp⟩
  · intro lane event target retiring moved
    exact retiring.step moved

/-- In every run: a frame of a cancelled transfer that finds no route is ignored, and the
other transfers keep their routes, if and only if some drop of that transfer is past
both of its locks. -/
theorem cancelled_frame_ignored_iff {lane target : LaneControl}
    (reached : Reachable Initial Step lane) {transferId : TransferId}
    (missing : lane.reader = .missing transferId) (moved : lane.Step .checkRetired target) :
    (target.reader = .idle ∧ target.routes = lane.routes) ↔
      ∃ control ∈ lane.controls, control.transferId = transferId ∧ control.cancelled = true ∧
        control.phase ≠ .removed := by
  have listed := (retiring_of_reachable reached).listed transferId
  simp only [TransferControl.retired, Bool.and_eq_true, decide_eq_true_eq] at listed
  rw [← listed]
  simp only [Step, step, readerStep, missing] at moved
  split at moved
  next found =>
    cases moved
    exact ⟨fun _ => found, fun _ => ⟨rfl, rfl⟩⟩
  next unlisted =>
    cases moved
    constructor
    · rintro ⟨idle, -⟩
      cases idle
    · intro found
      exact absurd found unlisted

/-- Transfer 1 is dropped while the reader looks up its late `Done`. -/
def lateDone : List ControlEvent :=
  registration 1 ++ registration 2 ++ [.drop 0, .read (.ok (.done 1)), .lookup]

/-- Past both locks the late frame does no harm. -/
theorem late_frame_ignored :
    ∃ lane target, fresh.perform (lateDone ++ [.retire 0]) = some lane ∧
      lane.Step .checkRetired target ∧ target.reader = .idle ∧ target.routes = lane.routes := by
  obtain ⟨lane, performed, missing, cancelled, ready⟩ : ∃ lane,
      fresh.perform (lateDone ++ [.retire 0]) = some lane ∧ lane.reader = .missing 1 ∧
        (∃ control ∈ lane.controls, control.transferId = 1 ∧ control.cancelled = true ∧
          control.phase ≠ .removed) ∧ (lane.step .checkRetired).isSome :=
    exists_performed (by decide +kernel)
  obtain ⟨target, moved⟩ := Option.isSome_iff_exists.mp ready
  have ignored := cancelled_frame_ignored_iff (reachable_perform fresh_reachable performed) missing
    moved
  exact ⟨lane, target, performed, moved, ignored.mpr cancelled⟩

/-- Between the two locks it closes the lane, and transfer 2 loses its route. -/
theorem late_frame_poisons_sibling :
    ∃ lane, fresh.perform (lateDone ++ [.checkRetired, .close]) = some lane ∧
      lane.controls.map TransferControl.phase = [.removed, .live] ∧
      lane.routes.lookup 2 = none ∧
      lane.closers = [⟨.unknownTransfer 1, [1]⟩] :=
  exists_performed (by decide +kernel)

end LaneControl

end DragonflyClient.Urma
