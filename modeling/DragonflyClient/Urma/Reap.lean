import DragonflyClient.Urma.Owner

/-!
Reaping drained lanes: what it leaves alone, whether or not it succeeds.
-/

namespace DragonflyClient.Urma

open Library

def CompletionRouter.without (router : CompletionRouter) (laneId : UInt16) (jettyId : UInt32) :
    CompletionRouter :=
  { router with
    retirementByLane := router.retirementByLane.erase laneId
    laneByJettyId := router.laneByJettyId.erase jettyId }

theorem CompletionRouter.of_unregisterLane_ok {router after : CompletionRouter} {laneId}
    (unregistered : router.unregisterLane laneId = .ok after) :
    router.hasRegisteredRx laneId = false ∧
      ∃ retirement, router.retirementByLane.lookup laneId = some retirement ∧
        after = router.without laneId retirement.jettyId := by
  unfold unregisterLane at unregistered
  split at unregistered
  · cases unregistered
  next unclaimed =>
  split at unregistered
  · cases unregistered
  next retirement found =>
  exact ⟨by simpa using unclaimed, retirement, found, (Except.ok.inj unregistered).symm⟩

/-- What reaping a set of lanes leaves alone, whether or not it succeeds. -/
structure Spares (runtime after : UrmaRuntime) (reaped : UInt16 → Prop) : Prop where
  pool : after.tables.pool = runtime.tables.pool
  -- the work and the identities stay; only the lanes may differ
  work : ∃ retirementByLane laneByJettyId, after.tables.router =
    { runtime.tables.router with retirementByLane, laneByJettyId }
  lanes : ∀ other, ¬ reaped other → after.lanes.lookup other = runtime.lanes.lookup other
  retirement : ∀ other, ¬ reaped other → after.tables.router.retirementByLane.lookup other =
    runtime.tables.router.retirementByLane.lookup other

namespace Spares

variable {runtime middle after : UrmaRuntime} {reaped : UInt16 → Prop}

theorem refl (runtime : UrmaRuntime) (reaped : UInt16 → Prop) : Spares runtime runtime reaped :=
  ⟨rfl, ⟨_, _, rfl⟩, fun _ _ => rfl, fun _ _ => rfl⟩

theorem trans (left : Spares runtime middle reaped) (right : Spares middle after reaped) :
    Spares runtime after reaped where
  pool := right.pool.trans left.pool
  work := by
    obtain ⟨_, _, first⟩ := left.work
    obtain ⟨_, _, second⟩ := right.work
    exact ⟨_, _, by rw [second, first]⟩
  lanes other spared := (right.lanes other spared).trans (left.lanes other spared)
  retirement other spared := (right.retirement other spared).trans (left.retirement other spared)

theorem reapLane (runtime : UrmaRuntime) (teardown : UInt16 → JettyTeardown)
    (reaped : UInt16 → Prop) {laneId : UInt16} (listed : reaped laneId) :
    Spares runtime (runtime.reapLane teardown laneId).1 reaped := by
  have different : ∀ other, ¬ reaped other → other ≠ laneId := by
    rintro other spared rfl
    exact spared listed
  unfold UrmaRuntime.reapLane
  split
  · exact .refl _ _
  split
  · exact ⟨rfl, ⟨_, _, rfl⟩, fun other spared => by
      rw [Table.lookup_insert_eq, if_neg (different other spared)], fun _ _ => rfl⟩
  dsimp only
  split
  · exact ⟨rfl, ⟨_, _, rfl⟩, fun other spared => by
      rw [Table.lookup_insert_eq, if_neg (different other spared)], fun _ _ => rfl⟩
  next unregistered =>
    obtain ⟨-, retirement, -, rfl⟩ := CompletionRouter.of_unregisterLane_ok unregistered
    refine ⟨rfl, ⟨_, _, rfl⟩, fun other spared => ?_, fun other spared => ?_⟩
    · rw [Table.lookup_erase_eq, if_neg (different other spared), Table.lookup_insert_eq,
        if_neg (different other spared)]
    · exact (Table.lookup_erase_eq _ _ _).trans (if_neg (different other spared))

theorem reapDrainedLanes (runtime : UrmaRuntime) (input : ReapInput) :
    Spares runtime (runtime.reapDrainedLanes input).1 fun laneId =>
      runtime.drained laneId = true := by
  refine tryEach_invariant (fun after => Spares runtime after fun laneId =>
    runtime.drained laneId = true) (fun middle laneId listed spares => ?_) (.refl _ _)
  exact spares.trans (reapLane _ _ _ (List.mem_filter.mp listed).2)

end Spares

end DragonflyClient.Urma
