import Mathlib.Logic.Relation

/-!
Labelled transition systems: reachability and the invariant rule.

A label carries everything a step does not decide by itself, so a condition on
the labels of a run is a condition on its environment.
-/

namespace DragonflyClient.Library

variable {State Label : Type}

inductive Reachable (initial : State → Prop) (step : State → Label → State → Prop) :
    State → Prop where
  | start {state} (begins : initial state) : Reachable initial step state
  | next {state target label} (reached : Reachable initial step state)
      (moved : step state label target) :
      Reachable initial step target

namespace Reachable

variable {initial : State → Prop} {step : State → Label → State → Prop}

/-- What holds at the start and is kept by every step holds wherever a run goes. -/
theorem invariant (property : State → Prop) (begins : ∀ state, initial state → property state)
    (kept : ∀ state label target, property state → step state label target → property target)
    {state} (reached : Reachable initial step state) : property state := by
  induction reached with
  | start started => exact begins _ started
  | next _ moved ih => exact kept _ _ _ ih moved

end Reachable

/-- A step that also meets a condition on the state it leaves and its label. -/
def Guarded (step : State → Label → State → Prop) (condition : State → Label → Prop) :
    State → Label → State → Prop :=
  fun state label target => step state label target ∧ condition state label

/-- A step of a run that keeps its labels, the last one first, under a rule on what has
happened. -/
def Logged (step : State → Label → State → Prop) (rule : List Label → Label → Prop) :
    State × List Label → Label → State × List Label → Prop :=
  fun run label later =>
    step run.1 label later.1 ∧ later.2 = label :: run.2 ∧ rule run.2 label

variable {initial : State → Prop} {execute : State → Label → Option State} {state : State}
  {labels : List Label}

theorem Reachable.act {condition target} (label : Label) (reached : Reachable initial
      (Guarded (fun state label target => execute state label = some target) condition) state)
    (moved : execute state label = some target) (meets : condition state label) :
    Reachable initial
      (Guarded (fun state label target => execute state label = some target) condition) target :=
  reached.next ⟨moved, meets⟩

def perform (step : State → Label → Option State) (state : State) : List Label → Option State
  | [] => some state
  | label :: labels => (step state label).bind (perform step · labels)

/-- A run whose steps keep a property, and are steps of the system where it holds, leads
from reachable states to reachable ones. -/
theorem Reachable.perform_kept {step} (property : State → Prop) {later}
    (reached : Reachable initial step state) (holds : property state)
    (steps : ∀ label ∈ labels, ∀ before after, property before →
      execute before label = some after → step before label after ∧ property after)
    (performed : Library.perform execute state labels = some later) :
    Reachable initial step later ∧ property later := by
  induction labels generalizing state with
  | nil =>
    cases performed
    exact ⟨reached, holds⟩
  | cons label labels ih =>
    obtain ⟨next, moved, rest⟩ := Option.bind_eq_some_iff.mp performed
    rw [List.forall_mem_cons] at steps
    obtain ⟨taken, kept⟩ := steps.1 state next holds moved
    exact ih (.next reached taken) kept steps.2 rest

theorem Reachable.perform {step later} (reached : Reachable initial step state)
    (steps : ∀ label ∈ labels, ∀ before after, execute before label = some after →
      step before label after) (performed : Library.perform execute state labels = some later) :
    Reachable initial step later := by
  refine (reached.perform_kept (fun _ => True) trivial ?_ performed).1
  intro label listed before after _ moved
  exact ⟨steps label listed before after moved, trivial⟩

/-- The steps of a logged run, to be performed. -/
def keepLog (execute : State → Label → Option State) (rule : List Label → Label → Bool)
    (run : State × List Label) (label : Label) : Option (State × List Label) :=
  if rule run.2 label then (execute run.1 label).map (·, label :: run.2) else none

theorem Reachable.keepLog {initial run later rule} (begins : initial run)
    (performed : Library.perform (Library.keepLog execute rule) run labels = some later) :
    Reachable initial (Logged (fun state label target => execute state label = some target)
      fun log label => rule log label = true) later := by
  refine Reachable.perform (.start begins) ?_ performed
  intro label _ before after moved
  obtain ⟨meets, moved⟩ := Option.ite_none_right_eq_some.mp moved
  obtain ⟨target, stepped, rfl⟩ := Option.map_eq_some_iff.mp moved
  exact ⟨stepped, rfl, meets⟩

/-- A run can be evaluated up to what is looked at in its last state. -/
theorem exists_perform {step property} [DecidablePred property]
    (evaluated : (perform step state labels).any (fun later => decide (property later)) = true) :
    ∃ later, perform step state labels = some later ∧ property later := by
  obtain ⟨later, performed, holds⟩ := (Option.any_eq_true _ _).mp evaluated
  exact ⟨later, performed, of_decide_eq_true holds⟩

end DragonflyClient.Library
