import DragonflyClient.Library.Transition

/-!
Concurrent transitions of one record.

A transition reads the whole record in one step and writes the whole record in another, unless
it fails on what it has read.  If no write falls on a record that its transition has not read,
the calls have the results, and the record the value, of the same calls one after another.
-/

namespace DragonflyClient.Library

open List

variable {Record Error Transition : Type}

/-- How far a call is: what it has read with what it will write, or its result. -/
inductive Phase (Record Error : Type) where
  | waiting
  | read (seen : Option Record) (updated : Record)
  | done (result : Except Error Record)

structure SharedRecord (Record Error Transition : Type) where
  record : Option Record
  calls : List (Transition × Phase Record Error)

inductive Access where
  | get (call : Nat)
  | put (call : Nat)
  deriving DecidableEq, Repr

inductive Sequential (change : Transition → Option Record → Except Error Record)
    (initial : Option Record) :
    List (Transition × Except Error Record) → Option Record → Prop where
  | start : Sequential change initial [] initial
  | ok {order record transition updated} (before : Sequential change initial order record)
      (changed : change transition record = .ok updated) :
      Sequential change initial (order ++ [(transition, .ok updated)]) (some updated)
  | error {order record transition error} (before : Sequential change initial order record)
      (failed : change transition record = .error error) :
      Sequential change initial (order ++ [(transition, .error error)]) record

namespace SharedRecord

def begin (record : Option Record) (transitions : List Transition) :
    SharedRecord Record Error Transition :=
  ⟨record, transitions.map (·, .waiting)⟩

def step (change : Transition → Option Record → Except Error Record)
    (shared : SharedRecord Record Error Transition) :
    Access → Option (SharedRecord Record Error Transition)
  | .get call =>
    match shared.calls[call]? with
    | some (transition, .waiting) =>
      match change transition shared.record with
      | .ok updated =>
        some { shared with
          calls := shared.calls.set call (transition, .read shared.record updated) }
      | .error error =>
        some { shared with calls := shared.calls.set call (transition, .done (.error error)) }
    | _ => none
  | .put call =>
    match shared.calls[call]? with
    | some (transition, .read _ updated) =>
      some ⟨some updated, shared.calls.set call (transition, .done (.ok updated))⟩
    | _ => none

def outcome : Transition × Phase Record Error → Option (Transition × Except Error Record)
  | (transition, .done result) => some (transition, result)
  | _ => none

def completed (shared : SharedRecord Record Error Transition) :
    List (Transition × Except Error Record) :=
  shared.calls.filterMap outcome

def Finished (shared : SharedRecord Record Error Transition) : Prop :=
  ∀ call ∈ shared.calls, (outcome call).isSome = true

instance (shared : SharedRecord Record Error Transition) : Decidable shared.Finished :=
  inferInstanceAs (Decidable (∀ call ∈ shared.calls, (outcome call).isSome = true))

/-- A write is over the record that its call has read. -/
def Undisturbed (shared : SharedRecord Record Error Transition) : Access → Prop
  | .get _ => True
  | .put call => ∀ transition seen updated,
      shared.calls[call]? = some (transition, .read seen updated) → seen = shared.record

/-- The states of the calls over a record, with undisturbed writes only. -/
def Orderly (change : Transition → Option Record → Except Error Record)
    (record : Option Record) (transitions : List Transition) :
    SharedRecord Record Error Transition → Prop :=
  Reachable (· = begin record transitions)
    (Guarded (fun shared access target => step change shared access = some target) Undisturbed)

section Runs

variable {change : Transition → Option Record → Except Error Record} {initial : Option Record}
  {transitions : List Transition} {shared target : SharedRecord Record Error Transition}
  {access : Access}

theorem exists_split {Item : Type} {items index} {item : Item} (found : items[index]? = some item) :
    ∃ left right, items = left ++ item :: right ∧
      ∀ other, items.set index other = left ++ other :: right := by
  obtain ⟨inside, rfl⟩ := List.getElem?_eq_some_iff.mp found
  refine ⟨items.take index, items.drop (index + 1), ?_, fun other => ?_⟩
  · rw [← drop_eq_getElem_cons inside, take_append_drop]
  · rw [set_eq_take_append_cons_drop, if_pos inside]

structure Ordered (change : Transition → Option Record → Except Error Record)
    (initial : Option Record) (transitions : List Transition)
    (shared : SharedRecord Record Error Transition) : Prop where
  sequential : ∃ order, order.Perm shared.completed ∧ Sequential change initial order shared.record
  computed : ∀ transition seen updated, (transition, Phase.read seen updated) ∈ shared.calls →
    change transition seen = .ok updated
  transitions : shared.calls.map (·.1) = transitions

theorem ordered_begin (change : Transition → Option Record → Except Error Record)
    (initial : Option Record) (transitions : List Transition) :
    Ordered change initial transitions (begin initial transitions) where
  sequential := by
    have none : completed (begin initial transitions : SharedRecord Record Error Transition) = [] :=
      filterMap_eq_nil_iff.mpr fun call listed => by
        obtain ⟨transition, -, rfl⟩ := mem_map.mp listed
        rfl
    exact ⟨[], none ▸ .refl _, .start⟩
  computed transition seen updated listed := by
    obtain ⟨_, -, same⟩ := mem_map.mp listed
    cases same
  transitions := (map_map ..).trans (map_id _)

theorem filterMap_pending {call} {left right : List (Transition × Phase Record Error)}
    (pending : outcome call = none) :
    (left ++ call :: right).filterMap outcome =
      left.filterMap outcome ++ right.filterMap outcome := by
  rw [filterMap_append, filterMap_cons_none pending]

theorem perm_returned {order left right} {transition : Transition} {result : Except Error Record}
    (before : order.Perm (left.filterMap outcome ++ right.filterMap outcome)) :
    (order ++ [(transition, result)]).Perm
      ((left ++ (transition, .done result) :: right).filterMap outcome) := by
  have returned : outcome (transition, Phase.done result) = some (transition, result) := rfl
  rw [filterMap_append, filterMap_cons_some returned]
  exact (perm_append_singleton ..).trans
    ((before.cons _).trans perm_middle.symm)

theorem Ordered.step (ordered : Ordered change initial transitions shared)
    (moved : step change shared access = some target) (undisturbed : shared.Undisturbed access) :
    Ordered change initial transitions target := by
  obtain ⟨order, completes, sequential⟩ := ordered.sequential
  have names := ordered.transitions
  have computed := ordered.computed
  rw [completed] at completes
  unfold SharedRecord.step at moved
  split at moved
  next call =>
    split at moved
    case h_2 => cases moved
    next transition found =>
    obtain ⟨left, right, calls, set⟩ := exists_split found
    rw [calls] at names computed completes
    rw [filterMap_pending rfl] at completes
    split at moved <;> cases moved
    next updated changed =>
      rw [set]
      refine ⟨⟨order, ?_, sequential⟩, ?_, by simpa using names⟩
      · rw [completed, filterMap_pending rfl]
        exact completes
      · intro other seen updated listed
        simp only [mem_append, mem_cons] at listed computed
        rcases listed with before | here | later
        · exact computed _ _ _ (.inl before)
        · cases here
          exact changed
        · exact computed _ _ _ (.inr (.inr later))
    next error failed =>
      rw [set]
      refine ⟨⟨_, perm_returned completes, sequential.error failed⟩, ?_, by simpa using names⟩
      intro other seen updated listed
      simp only [mem_append, mem_cons, Prod.mk.injEq, reduceCtorEq, and_false,
        false_or] at listed computed
      exact computed _ _ _ listed
  next call =>
    split at moved <;> cases moved
    next transition seen updated found =>
    have same := undisturbed _ _ _ found
    obtain ⟨left, right, calls, set⟩ := exists_split found
    rw [calls] at names computed completes
    have changed := computed _ _ _ (mem_append_cons_self ..)
    rw [same] at changed
    rw [filterMap_pending rfl] at completes
    rw [set]
    refine ⟨⟨_, perm_returned completes, sequential.ok changed⟩, ?_, by simpa using names⟩
    intro other seen updated listed
    simp only [mem_append, mem_cons, Prod.mk.injEq, reduceCtorEq, and_false, false_or] at listed
    exact computed _ _ _ (mem_append.mpr (listed.imp_right (mem_cons_of_mem _)))

theorem Orderly.ordered (reached : Orderly change initial transitions shared) :
    Ordered change initial transitions shared := by
  refine Reachable.invariant _ (fun state begins => ?_) (fun state access target kept moved => ?_)
    reached
  · exact begins ▸ ordered_begin change initial transitions
  · exact kept.step moved.1 moved.2

theorem eq_fst_of_outcome {call} {returned : Transition × Except Error Record}
    (here : outcome call = some returned) :
    call.1 = returned.1 := by
  rw [outcome.eq_def] at here
  split at here
  next => exact (Option.some.inj here) ▸ rfl
  next => cases here

theorem mem_of_completed {returned} (member : returned ∈ shared.completed) :
    returned.1 ∈ shared.calls.map (·.1) := by
  obtain ⟨call, listed, here⟩ := mem_filterMap.mp member
  exact eq_fst_of_outcome here ▸ mem_map_of_mem listed

theorem Finished.map_completed (finished : shared.Finished) :
    shared.completed.map (·.1) = shared.calls.map (·.1) := by
  obtain ⟨record, calls⟩ := shared
  rw [completed]
  rw [Finished] at finished
  induction calls with
  | nil => rfl
  | cons call calls ih =>
    rw [forall_mem_cons] at finished
    obtain ⟨returned, here⟩ := Option.isSome_iff_exists.mp finished.1
    rw [filterMap_cons_some here, map_cons, map_cons, eq_fst_of_outcome here, ih finished.2]

/-- The calls have the results of the same calls in some order, and leave its record. -/
theorem Orderly.serializable (reached : Orderly change initial transitions shared) :
    ∃ order, order.Perm shared.completed ∧ Sequential change initial order shared.record ∧
      (shared.Finished → (order.map (·.1)).Perm transitions) := by
  obtain ⟨order, completes, sequential⟩ := reached.ordered.sequential
  refine ⟨order, completes, sequential, fun finished => ?_⟩
  rw [← reached.ordered.transitions, ← finished.map_completed]
  exact completes.map _

end Runs

end SharedRecord

end DragonflyClient.Library
