import DragonflyClient.Resource.ClientGates

/-!
What a failing request removes from the client cache.

`retire_failed_fabric` clears the cache in a section of its own, after the one that gives up the
fabric.  No client on another fabric can come in between: the failing request still has its
handle, so `get_or_start_with_budget` finds the failed fabric and does not start a new one.
-/

namespace DragonflyClient.Resource

open Library Option List

theorem update_cases {Value : Type} {table} {address other : String} {entry} {value : Value}
    (found : Function.update table address entry other = some value) :
    (other = address ∧ entry = some value) ∨ (other ≠ address ∧ table other = some value) := by
  by_cases same : other = address
  · rw [same, Function.update_self] at found
    exact .inl ⟨same, found⟩
  · rw [Function.update_of_ne same] at found
    exact .inr ⟨same, found⟩

namespace UrmaDownloader

open RequestPhase

variable {system target : UrmaDownloader} {request : Nat} {input : StepInput}
  {phase next : RequestPhase}

variable {client : CachedClient} {address : String}

theorem retireClient_clients {other generation}
    (found : (system.retireClient address generation).clients.lookup other = some client) :
    system.clients.lookup other = some client := by
  simp only [retireClient] at found
  split at found
  · rw [Table.lookup_erase_eq, ite_none_left_eq_some] at found
    exact found.2
  · exact found

/-- The cache keeps its clients, but for the time and perhaps the idle one of the address. -/
theorem lookUp_kept {other} (kept : (system.lookUp address).2.lookup other = some client) :
    ∃ old, system.clients.lookup other = some old ∧ old.fabric = client.fabric ∧
      old.generation = client.generation := by
  unfold lookUp at kept
  split at kept
  next old found =>
    split at kept
    · rw [Table.lookup_insert_eq] at kept
      split at kept
      next same =>
        cases kept
        exact ⟨old, same ▸ found, rfl, rfl⟩
      next => exact ⟨client, kept, rfl, rfl⟩
    · rw [Table.lookup_erase_eq, ite_none_left_eq_some] at kept
      exact ⟨client, kept.2, rfl, rfl⟩
  next => exact ⟨client, kept, rfl, rfl⟩

theorem lookUp_found
    (found : (system.lookUp address).1 = some client) :
    system.clients.lookup address = some client ∧
      (system.lookUp address).2.lookup address = some { client with lastUsed := system.now } := by
  unfold lookUp at found ⊢
  split at found
  next old cached =>
    split at found
    next recent =>
      cases found
      simp [recent, cached]
    next => cases found
  next => cases found

/-- Whoever has a handle has it of the fabric that was started last; a request is in
`retire_failed_fabric` because that fabric has failed. -/
structure Backed (system : UrmaDownloader) : Prop where
  cached : ∀ address client, system.clients.lookup address = some client →
    client.fabric + 1 = system.nextFabric
  ready : ∀ fabric, system.fabric = .ready fabric → fabric + 1 = system.nextFabric
  held : ∀ phase ∈ system.requests, ∀ fabric, phase.fabric = some fabric →
    fabric + 1 = system.nextFabric
  poisoned : ∀ phase ∈ system.requests, ∀ fabric, phase.poisoned = some fabric →
    fabric ∈ system.failedFabrics

/-- Without a handle to upgrade there is neither a client nor a request that has one. -/
theorem Backed.unheld (backed : system.Backed) (free : system.upgrade = none) :
    (∀ address client, system.clients.lookup address ≠ some client) ∧
      ∀ phase ∈ system.requests, phase.fabric = none := by
  unfold upgrade at free
  split at free
  next none =>
    refine ⟨fun address client found => ?_, fun phase here => eq_none_iff_forall_ne_some.mpr ?_⟩
    · have last := backed.cached address client found
      omega
    · intro fabric held
      have last := backed.held phase here fabric held
      omega
  next last number =>
    have unheld : system.isHeld last = false := by simpa using free
    simp only [isHeld, Bool.or_eq_false_iff, Table.anyEntry_eq_false_iff, List.any_eq_false,
      decide_eq_true_eq, decide_eq_false_iff_not] at unheld
    obtain ⟨⟨-, uncached⟩, unrequested⟩ := unheld
    refine ⟨fun address client found => ?_, fun phase here => eq_none_iff_forall_ne_some.mpr ?_⟩
    · have same := backed.cached address client found
      exact uncached address client found (by omega)
    · intro fabric held
      have same := backed.held phase here fabric held
      obtain rfl : fabric = last := by omega
      exact unrequested phase here held

theorem upgrade_last {fabric} (upgraded : system.upgrade = some fabric) :
    fabric + 1 = system.nextFabric := by
  unfold upgrade at upgraded
  split at upgraded
  · cases upgraded
  next last number =>
    rw [ite_none_right_eq_some] at upgraded
    rw [number, ← some.inj upgraded.2]

/-- What a step of a request does to the fabrics and the handles of them. -/
structure FabricMove (system target : UrmaDownloader) (phase next : RequestPhase) : Prop where
  failed : target.failedFabrics = system.failedFabrics
  number : target.nextFabric = system.nextFabric ∨
    target.nextFabric = system.nextFabric + 1 ∧ system.upgrade = none
  clients : ∀ address client, target.clients.lookup address = some client →
    (∃ old, system.clients.lookup address = some old ∧ old.fabric = client.fabric) ∨
      phase.fabric = some client.fabric
  ready : ∀ fabric, target.fabric = .ready fabric → fabric + 1 = target.nextFabric
  held : ∀ fabric, next.fabric = some fabric → fabric + 1 = target.nextFabric
  poisoned : ∀ fabric, next.poisoned = some fabric → fabric ∈ system.failedFabrics

section Moves

variable (backed : system.Backed) (listed : phase ∈ system.requests)
include backed listed

theorem FabricMove.still (failed : target.failedFabrics = system.failedFabrics)
    (number : target.nextFabric = system.nextFabric)
    (clients : ∀ address client, target.clients.lookup address = some client →
      system.clients.lookup address = some client)
    (fabric : target.fabric = system.fabric ∨ target.fabric = .uninitialized)
    (held : next.fabric = none ∨ next.fabric = phase.fabric)
    (poisoned : ∀ fabric, next.poisoned = some fabric → fabric ∈ system.failedFabrics) :
    FabricMove system target phase next where
  failed := failed
  number := .inl number
  clients address client found := .inl ⟨client, clients address client found, rfl⟩
  ready other same := by
    rw [number]
    rcases fabric with kept | given
    · exact backed.ready other (kept.symm.trans same)
    · cases given.symm.trans same
  held other same := by
    rw [number]
    rcases held with none | kept
    · cases none.symm.trans same
    · exact backed.held phase listed other (kept.symm.trans same)
  poisoned := poisoned

omit listed in
theorem takeFabric_spec (starts : Bool) :
    ((system.takeFabric starts).2.2 = system.nextFabric ∨
      (system.takeFabric starts).2.2 = system.nextFabric + 1 ∧ system.upgrade = none) ∧
    (∀ fabric, (system.takeFabric starts).2.1 = .ready fabric →
      fabric + 1 = (system.takeFabric starts).2.2) ∧
    ∀ fabric, (system.takeFabric starts).1 = some fabric →
      fabric + 1 = (system.takeFabric starts).2.2 := by
  have started : ((system.getOrStart starts).2.2 = system.nextFabric ∨
        (system.getOrStart starts).2.2 = system.nextFabric + 1 ∧ system.upgrade = none) ∧
      (∀ fabric, (system.getOrStart starts).2.1 = .ready fabric →
        fabric + 1 = (system.getOrStart starts).2.2) ∧
      ∀ fabric, (system.getOrStart starts).1 = some fabric →
        fabric + 1 = (system.getOrStart starts).2.2 := by
    unfold getOrStart
    cases starts with
    | false => simp
    | true =>
      cases upgraded : system.upgrade with
      | none => simp
      | some last =>
        have same := upgrade_last upgraded
        by_cases broken : last ∈ system.failedFabrics <;> simp [broken, same]
  unfold takeFabric
  cases held : system.fabric with
  | uninitialized => exact started
  | failed time =>
    by_cases recent : system.now - time < fabricRetryInterval
    · simp [recent]
    · simpa only [recent, if_false] using started
  | ready fabric =>
    by_cases broken : fabric ∈ system.failedFabrics
    · simpa only [broken, if_true] using started
    · simp [broken, backed.ready fabric held]

theorem proceed_fabrics (moved : system.proceed request input phase = some target) :
    ∃ next, target.requests = system.requests.set request next ∧
      FabricMove system target phase next := by
  cases phase with
  | admitted address gate =>
    cases moved
    refine ⟨_, rfl, rfl, .inl rfl, ?_, backed.ready, ?_, ?_⟩
    · intro other client found
      obtain ⟨old, before, same, -⟩ := lookUp_kept found
      exact .inl ⟨old, before, same⟩
    · intro fabric held
      split at held
      next client found =>
        cases held
        exact backed.cached address client (lookUp_found found).1
      next => cases held
    · split <;> simp [RequestPhase.poisoned]
  | building address gate =>
    cases moved
    obtain ⟨number, ready, taken⟩ := takeFabric_spec backed input.starts
    refine ⟨_, rfl, rfl, number, fun _ client found => .inl ⟨client, found, rfl⟩, ready, ?_, ?_⟩
    · intro fabric held
      split at held
      next other given =>
        cases held
        exact taken fabric given
      next => cases held
    · split <;> simp [RequestPhase.poisoned]
  | numbered address gate fabric generation =>
    cases moved
    refine ⟨_, rfl, rfl, .inl rfl, ?_, backed.ready,
      fun other same => backed.held _ listed other same, by simp [RequestPhase.poisoned]⟩
    intro other client found
    simp only [goTo, Table.lookup_insert_eq] at found
    split at found
    · cases found
      exact .inr rfl
    · exact .inl ⟨client, found, rfl⟩
  | requesting address generation fabric =>
    simp only [proceed] at moved
    repeat' split at moved
    all_goals cases moved
    · exact ⟨_, rfl, .still backed listed rfl rfl (fun _ _ => id) (.inl rfl) (.inl rfl)
        (by rintro _ ⟨⟩)⟩
    next broken =>
      refine ⟨_, rfl, .still backed listed rfl rfl (fun _ _ => id) (.inl rfl) (.inr rfl) ?_⟩
      intro other same
      cases same
      exact broken
    · exact ⟨_, rfl, .still backed listed rfl rfl (fun _ _ => id) (.inl rfl) (.inr rfl)
        (by rintro _ ⟨⟩)⟩
  | retiringFabric address generation own failure =>
    have broken := backed.poisoned _ listed
    simp only [proceed] at moved
    repeat' split at moved
    all_goals cases moved
    · exact ⟨_, rfl, .still backed listed rfl rfl (fun _ _ => id) (.inr rfl) (.inr rfl) broken⟩
    all_goals
      exact ⟨_, rfl, .still backed listed rfl rfl (fun _ _ => id) (.inl rfl) (.inr rfl)
        (by rintro _ ⟨⟩)⟩
  | retiring address generation fabric fabricFailed failure =>
    cases moved
    refine ⟨_, rfl, .still backed listed rfl rfl (fun _ _ => retireClient_clients) (.inl rfl) ?_
      ?_⟩ <;> split <;> simp [RequestPhase.fabric, RequestPhase.poisoned]
  | clearing address generation fabric failure =>
    cases moved
    exact ⟨_, rfl, .still backed listed rfl rfl (fun _ _ none => by cases none) (.inl rfl)
      (.inr rfl) (by rintro _ ⟨⟩)⟩
  | gated address gate =>
    cases moved
    refine ⟨_, rfl, .still backed listed rfl rfl (fun _ _ => id) (.inl rfl) ?_ ?_⟩ <;>
      split <;> simp [RequestPhase.fabric, RequestPhase.poisoned]
  | condemned | renewing =>
    cases moved
    exact ⟨_, rfl, .still backed listed rfl rfl (fun _ _ => retireClient_clients) (.inl rfl)
      (by simp [RequestPhase.fabric]) (by rintro _ ⟨⟩)⟩
  | finished => cases moved
  | _ =>
    simp only [proceed, ite_none_left_eq_some, some.injEq] at moved
    repeat' split at moved
    all_goals first
      | obtain rfl := some.inj moved
      | obtain ⟨-, rfl⟩ := moved
    all_goals
      exact ⟨_, rfl, .still backed listed rfl rfl (fun _ _ => id) (.inl rfl)
        (by simp [RequestPhase.fabric]) (by rintro _ ⟨⟩)⟩

end Moves

theorem Backed.proceed (backed : system.Backed) (found : system.requests[request]? = some phase)
    (requests : target.requests = system.requests.set request next)
    (move : FabricMove system target phase next) : target.Backed := by
  have listed := mem_of_getElem? found
  constructor
  case cached =>
    intro address client cached
    rcases move.number with same | ⟨-, free⟩
    · rw [same]
      rcases move.clients address client cached with ⟨old, held, fabric⟩ | own
      · exact fabric ▸ backed.cached address old held
      · exact backed.held phase listed _ own
    · obtain ⟨uncached, unrequested⟩ := backed.unheld free
      rcases move.clients address client cached with ⟨old, held, -⟩ | own
      · exact absurd held (uncached address old)
      · cases (unrequested phase listed).symm.trans own
  case ready => exact move.ready
  case held =>
    intro other here fabric held
    rw [requests] at here
    rcases mem_or_eq_of_mem_set here with old | rfl
    · rcases move.number with same | ⟨-, free⟩
      · rw [same]
        exact backed.held other old fabric held
      · cases ((backed.unheld free).2 other old).symm.trans held
    · exact move.held fabric held
  case poisoned =>
    intro other here fabric broken
    rw [move.failed]
    rw [requests] at here
    rcases mem_or_eq_of_mem_set here with old | rfl
    · exact backed.poisoned other old fabric broken
    · exact move.poisoned fabric broken

theorem Backed.act (backed : system.Backed) {event} (moved : Step system event target) :
    target.Backed := by
  cases event with
  | proceed request input =>
    obtain ⟨phase, found, moved⟩ := bind_eq_some_iff.mp moved
    obtain ⟨next, requests, move⟩ := proceed_fabrics backed (mem_of_getElem? found) moved
    exact backed.proceed found requests move
  | begin address =>
    simp only [Step, UrmaDownloader.act, ite_none_right_eq_some, some.injEq]
      at moved
    obtain ⟨-, rfl⟩ := moved
    obtain ⟨cached, ready, held, poisoned⟩ := backed
    refine ⟨cached, ready, ?_, ?_⟩
    · simpa [or_imp, forall_and, RequestPhase.fabric] using held
    · simpa [or_imp, forall_and, RequestPhase.poisoned] using poisoned
  | drop request =>
    cases moved
    refine ⟨backed.cached, backed.ready, fun phase here => ?_, fun phase here => ?_⟩
    · rcases mem_or_eq_of_mem_set here with old | rfl
      · exact backed.held phase old
      · simp [RequestPhase.fabric]
    · rcases mem_or_eq_of_mem_set here with old | rfl
      · exact backed.poisoned phase old
      · simp [RequestPhase.poisoned]
  | share =>
    cases moved
    by_cases alive : system.isAlive = true
    · simp only [alive, if_true]
      exact ⟨backed.cached, backed.ready, backed.held, backed.poisoned⟩
    -- A new fabric, of which only the other owner has a handle.
    · simp only [alive, if_false, Bool.false_eq_true]
      unfold isAlive at alive
      split at alive
      · exact absurd rfl alive
      all_goals
        obtain ⟨uncached, unrequested⟩ := backed.unheld (by simpa using alive)
        refine ⟨fun address client found => absurd found (uncached address client),
          fun fabric ready => ?_, fun phase here fabric held => ?_, backed.poisoned⟩
        · simp_all
        · cases (unrequested phase here).symm.trans held
  | failFabric fabric =>
    cases moved
    exact ⟨backed.cached, backed.ready, backed.held, fun phase here other broken =>
      mem_cons_of_mem _ (backed.poisoned phase here other broken)⟩
  | transferred generation success =>
    cases moved
    cases success <;> exact ⟨backed.cached, backed.ready, backed.held, backed.poisoned⟩
  | release | tick =>
    cases moved
    exact ⟨backed.cached, backed.ready, backed.held, backed.poisoned⟩

/-- A request that has failed with a generation removes only clients of that generation or of
failed fabrics. -/
theorem failing_request_spares_healthy_clients (reached : Reachable (· = new) Step system)
    {generation : Nat} (found : system.requests[request]? = some phase)
    (failing : phase.failing = some generation)
    (moved : Step system (.proceed request input) target) {address : String} {client : CachedClient}
    (held : system.clients.lookup address = some client)
    (removed : target.clients.lookup address ≠ some client) :
    client.generation = generation ∨ client.fabric ∈ system.failedFabrics := by
  have backed : system.Backed := reached.invariant Backed
    (by rintro _ rfl; constructor <;> simp [new]) fun _ _ _ backed moved => backed.act moved
  obtain ⟨here, same, moved⟩ := bind_eq_some_iff.mp moved
  obtain rfl := some.inj (found.symm.trans same)
  have listed := mem_of_getElem? found
  have retired : ∀ {parent : String},
      (system.retireClient parent generation).clients.lookup address ≠ some client →
      client.generation = generation := by
    intro parent gone
    simp only [retireClient] at gone
    split at gone
    next current =>
      rw [Table.lookup_erase_eq] at gone
      split at gone
      next same =>
        subst same
        simpa [isCurrent, held] using current
      next => exact absurd held gone
    next => exact absurd held gone
  cases phase with
  | clearing parent own fabric failure =>
    -- The cached client and the request are on the fabric that was started last.
    have here := backed.held _ listed fabric rfl
    have there := backed.cached address client held
    obtain rfl : client.fabric = fabric := by omega
    exact .inr (backed.poisoned _ listed _ rfl)
  | condemned | renewing | retiring =>
    cases failing
    cases moved
    exact .inl (retired removed)
  | retiringFabric parent own fabric failure =>
    simp only [UrmaDownloader.proceed] at moved
    repeat' split at moved
    all_goals
      cases moved
      exact absurd held removed
  | blaming | recording =>
    cases moved
    exact absurd held removed
  | _ => cases failing

namespace Small

/-- A request for a parent until it has a new client, on a new downloader or later. -/
def connect (address : String) (request : Nat) : List ClientEvent :=
  .begin address :: List.replicate 7 (.proceed request {})

/-- Two clients on one fabric; it fails, and the first request gives it up.  A third request
finds no fabric meanwhile. -/
def poisoned : List ClientEvent :=
  connect "a" 0 ++ connect "b" 1 ++
    [.failFabric 0, .proceed 0 ⟨true, some .transport⟩, .proceed 0 {}] ++
    .begin "c" :: List.replicate 5 (.proceed 2 {})

end Small

/-- The cache is cleared of a client on the failed fabric. -/
theorem failing_request_spares_healthy_clients_poisoned :
    ∃ (system target : UrmaDownloader) (client : CachedClient),
      perform act new Small.poisoned = some system ∧
      system.requests[0]? = some (.clearing "a" 1 0 .transport) ∧
      system.requests[2]? = some .finished ∧ system.fabric = .failed 0 ∧
      Step system (.proceed 0 {}) target ∧ system.clients.lookup "b" = some client ∧
      target.clients.lookup "b" = none ∧
      (client.generation = 1 ∨ client.fabric ∈ system.failedFabrics) := by
  obtain ⟨system, performed, found, ended, state, held⟩ : ∃ system,
      perform act new Small.poisoned = some system ∧
        (system.requests[0]? = some (.clearing "a" 1 0 .transport) ∧
          system.requests[2]? = some .finished ∧ system.fabric = .failed 0 ∧
          system.clients.lookup "b" = some ⟨0, 2, 0⟩) := exists_perform (by decide +kernel)
  have moved : Step system (.proceed 0 {})
      ({ system with clients := ∅ }.goTo 0 (.retiring "a" 1 0 true .transport)) := by
    simp [Step, UrmaDownloader.act, found, UrmaDownloader.proceed]
  refine ⟨system, _, _, performed, found, ended, state, moved, held, rfl, ?_⟩
  exact failing_request_spares_healthy_clients
    (.perform (.start rfl) (fun _ _ _ _ moved => moved) performed) found rfl moved held
    (by rintro ⟨⟩)

end UrmaDownloader

end DragonflyClient.Resource
