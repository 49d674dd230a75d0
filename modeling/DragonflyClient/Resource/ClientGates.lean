import DragonflyClient.Resource.UrmaClients

/-!
The construction gates of the URMA clients: a gate that some request uses stays in the map, so
that all requests for an address share one.
-/

namespace DragonflyClient.Resource

open Library List Option

namespace UrmaDownloader

open RequestPhase

variable {system target : UrmaDownloader} {request : Nat} {input : StepInput}
  {phase next : RequestPhase}

inductive GateMove (system target : UrmaDownloader) : RequestPhase → RequestPhase → Prop where
  | enter {address} (gates : target.clientInitGates = (system.clientInitGate address).2.1)
      (fresh : target.nextGate = (system.clientInitGate address).2.2) :
      GateMove system target (.entering address)
        (.waiting address (system.clientInitGate address).1)
  | lock {address gate} (free : system.isLocked gate = false)
      (gates : target.clientInitGates = system.clientInitGates)
      (fresh : target.nextGate = system.nextGate) :
      GateMove system target (.waiting address gate) (.gated address gate)
  -- A lock that was held is kept or given back.
  | other {phase next : RequestPhase} (active : next.isWaiting = false)
      (held : next.gate = none ∨ phase.isWaiting = false ∧ next.gate = phase.gate)
      (gates : target.clientInitGates = system.clientInitGates)
      (fresh : target.nextGate = system.nextGate) : GateMove system target phase next

theorem proceed_gates (moved : system.proceed request input phase = some target) :
    ∃ next, target.requests = system.requests.set request next ∧
      GateMove system target phase next := by
  cases phase with
  | entering address =>
    cases moved
    exact ⟨_, rfl, .enter rfl rfl⟩
  | waiting address gate =>
    simp only [proceed, ite_none_left_eq_some, some.injEq] at moved
    obtain ⟨free, rfl⟩ := moved
    exact ⟨_, rfl, .lock (Bool.eq_false_iff.mpr free) rfl rfl⟩
  | finished => cases moved
  | gated | admitted | building | retiring =>
    cases moved
    refine ⟨_, rfl, .other ?_ ?_ rfl rfl⟩ <;> split <;> simp [isWaiting, RequestPhase.gate]
  | _ =>
    simp only [proceed] at moved
    repeat' split at moved
    all_goals
      cases moved
      first
        | exact ⟨_, rfl, .other rfl (.inl rfl) rfl rfl⟩
        | exact ⟨_, rfl, .other rfl (.inr ⟨rfl, rfl⟩) rfl rfl⟩

/-- A step of the downloader is one of a request, or starts requests that use no gate yet. -/
theorem act_gates {event : ClientEvent} (moved : system.act event = some target) :
    (∃ request phase next, system.requests[request]? = some phase ∧
      target.requests = system.requests.set request next ∧ GateMove system target phase next) ∨
    ∃ added, target.requests = system.requests ++ added ∧ (∀ phase ∈ added, phase.gate = none) ∧
      target.clientInitGates = system.clientInitGates ∧ target.nextGate = system.nextGate := by
  cases event with
  | begin address =>
    simp only [act, ite_none_right_eq_some, some.injEq] at moved
    obtain ⟨-, rfl⟩ := moved
    exact .inr ⟨[.entering address], rfl, by simp [RequestPhase.gate], rfl, rfl⟩
  | proceed request input =>
    obtain ⟨phase, found, moved⟩ := bind_eq_some_iff.mp moved
    obtain ⟨next, requests, move⟩ := proceed_gates moved
    exact .inl ⟨request, phase, next, found, requests, move⟩
  | drop request =>
    cases moved
    cases found : system.requests[request]? with
    | some phase =>
      exact .inl ⟨request, phase, .finished, found, rfl, .other rfl (.inl rfl) rfl rfl⟩
    | none =>
      refine .inr ⟨[], ?_, by simp, rfl, rfl⟩
      rw [append_nil]
      exact set_eq_of_length_le (getElem?_eq_none_iff.mp found)
  | transferred generation success =>
    cases moved
    refine .inr ⟨[], ?_, by simp, ?_, ?_⟩ <;> split <;> simp
  | share | release | failFabric | tick =>
    cases moved
    exact .inr ⟨[], by simp, by simp, rfl, rfl⟩

theorem request_of_set {requests : List RequestPhase} {request other next phase}
    (found : (requests.set request next)[other]? = some phase) :
    (other = request ∧ phase = next) ∨ (other ≠ request ∧ requests[other]? = some phase) := by
  by_cases same : other = request
  · subst same
    rw [List.getElem?_set_self (by
      have inside := (List.getElem?_eq_some_iff.mp found).1
      rwa [length_set] at inside)] at found
    exact .inl ⟨rfl, (some.inj found).symm⟩
  · rw [getElem?_set_ne (Ne.symm same)] at found
    exact .inr ⟨same, found⟩

/-- Every gate in use is in the map under its address, and is locked by one request. -/
structure Gated (system : UrmaDownloader) : Prop where
  registered : ∀ (request : Nat) phase (held : String × Nat),
    system.requests[request]? = some phase → phase.gate = some held →
    system.clientInitGates held.1 = some held.2
  fresh : ∀ address gate, system.clientInitGates address = some gate → gate < system.nextGate
  distinct : ∀ first second gate, system.clientInitGates first = some gate →
    system.clientInitGates second = some gate → first = second
  exclusive : ∀ (first second : Nat) one other held, system.requests[first]? = some one →
    system.requests[second]? = some other → one.locked = some held → other.locked = some held →
    first = second

variable {held : String × Nat} {address : String}

theorem gate_of_locked (locked : phase.locked = some held) :
    phase.isWaiting = false ∧ phase.gate = some held := by
  unfold RequestPhase.locked at locked
  split at locked
  · cases locked
  next active => exact ⟨Bool.eq_false_iff.mpr active, locked⟩

theorem locked_of_gate (active : phase.isWaiting = false)
    (gate : phase.gate = some held) : phase.locked = some held := by
  rw [RequestPhase.locked, active]
  exact gate

theorem strongCount_ne_zero (found : system.requests[request]? = some phase)
    (gate : phase.gate = some held) : system.strongCount held.2 ≠ 0 := by
  rw [strongCount, Ne, countP_eq_zero]
  intro unused
  exact unused phase (mem_of_getElem? found) (by simp [gate])

theorem isLocked_of_locked
    (found : system.requests[request]? = some phase) (locked : phase.locked = some held) :
    system.isLocked held.2 = true := by
  rw [isLocked, List.any_eq_true]
  exact ⟨phase, List.mem_of_getElem? found, by simp [locked]⟩

theorem retainedGates_of_gate (gated : system.Gated)
    (found : system.requests[request]? = some phase) (gate : phase.gate = some held) :
    system.retainedGates held.1 = some held.2 := by
  unfold retainedGates
  rw [gated.registered request phase held found gate]
  simp [Option.filter, strongCount_ne_zero found gate]

theorem clientInitGates_of_retainedGates {gate}
    (retained : system.retainedGates address = some gate) :
    system.clientInitGates address = some gate ∧ system.strongCount gate ≠ 0 := by
  simpa [retainedGates, filter_eq_some_iff] using retained

/-- The gate of the address is in the map, next to the retained ones; it is one of them or new. -/
theorem clientInitGate_spec (system : UrmaDownloader) (address : String) :
    (system.clientInitGate address).2.1 address = some (system.clientInitGate address).1 ∧
      (∀ other gate, system.retainedGates other = some gate →
        (system.clientInitGate address).2.1 other = some gate) ∧
      system.nextGate ≤ (system.clientInitGate address).2.2 ∧
      ∀ other gate, (system.clientInitGate address).2.1 other = some gate →
        system.retainedGates other = some gate ∨ other = address ∧ gate = system.nextGate ∧
          gate < (system.clientInitGate address).2.2 := by
  unfold clientInitGate
  split
  next gate retained => exact ⟨retained, fun _ _ kept => kept, Nat.le_refl _, fun _ _ => .inl⟩
  next missing =>
    refine ⟨Function.update_self .., ?_, Nat.le_succ _, ?_⟩
    · intro other gate kept
      have different : other ≠ address := by
        rintro rfl
        cases missing.symm.trans kept
      exact (Function.update_of_ne different ..).trans kept
    · intro other gate found
      dsimp only at found ⊢
      by_cases same : other = address
      · subst same
        rw [Function.update_self] at found
        cases found
        exact .inr ⟨rfl, rfl, Nat.lt_succ_self _⟩
      · rw [Function.update_of_ne same] at found
        exact .inl found

theorem Gated.enter (gated : system.Gated)
    (found : system.requests[request]? = some (.entering address))
    (requests : target.requests = system.requests.set request
      (.waiting address (system.clientInitGate address).1))
    (gates : target.clientInitGates = (system.clientInitGate address).2.1)
    (fresh : target.nextGate = (system.clientInitGate address).2.2) : target.Gated := by
  obtain ⟨own, kept, grows, known⟩ := clientInitGate_spec system address
  rw [← gates] at own kept known
  rw [← fresh] at grows known
  constructor
  case registered =>
    intro other phase held here gate
    rw [requests] at here
    rcases request_of_set here with ⟨-, rfl⟩ | ⟨-, before⟩
    · cases gate
      exact own
    · exact kept held.1 held.2 (retainedGates_of_gate gated before gate)
  case fresh =>
    intro other gate here
    rcases known other gate here with retained | ⟨-, -, new⟩
    · have old := gated.fresh other gate (clientInitGates_of_retainedGates retained).1
      omega
    · exact new
  case distinct =>
    intro first second gate one other
    rcases known first gate one with kept | ⟨rfl, new, -⟩ <;>
      rcases known second gate other with also | ⟨rfl, newer, -⟩
    · exact gated.distinct first second gate (clientInitGates_of_retainedGates kept).1
        (clientInitGates_of_retainedGates also).1
    · have old := gated.fresh first gate (clientInitGates_of_retainedGates kept).1
      omega
    · have old := gated.fresh second gate (clientInitGates_of_retainedGates also).1
      omega
    · rfl
  case exclusive =>
    intro first second one other held here there locks also
    rw [requests] at here there
    rcases request_of_set here with ⟨-, rfl⟩ | ⟨-, before⟩
    · cases locks
    · rcases request_of_set there with ⟨-, rfl⟩ | ⟨-, after⟩
      · cases also
      · exact gated.exclusive first second one other held before after locks also

theorem Gated.move (gated : system.Gated) (found : system.requests[request]? = some phase)
    (requests : target.requests = system.requests.set request next)
    (gates : target.clientInitGates = system.clientInitGates)
    (fresh : target.nextGate = system.nextGate)
    (held : next.gate = none ∨ next.gate = phase.gate)
    (locks : ∀ held, next.locked = some held →
      phase.locked = some held ∨ system.isLocked held.2 = false) : target.Gated := by
  have alone : ∀ (other : Nat) one held, other ≠ request → system.requests[other]? = some one →
      one.locked = some held → next.locked ≠ some held := by
    intro other one held different here locked same
    rcases locks held same with before | free
    · exact different (gated.exclusive other request one phase held here found locked before)
    · cases free.symm.trans (isLocked_of_locked here locked)
  constructor
  case registered =>
    intro other one kept here gate
    rw [gates]
    rw [requests] at here
    rcases request_of_set here with ⟨-, rfl⟩ | ⟨-, before⟩
    · refine gated.registered request phase kept found ?_
      rcases held with none | same
      · cases none.symm.trans gate
      · exact same.symm.trans gate
    · exact gated.registered other one kept before gate
  case fresh =>
    rw [gates, fresh]
    exact gated.fresh
  case distinct =>
    rw [gates]
    exact gated.distinct
  case exclusive =>
    intro first second one other shared here there locked also
    rw [requests] at here there
    rcases request_of_set here with ⟨rfl, rfl⟩ | ⟨different, before⟩ <;>
      rcases request_of_set there with ⟨rfl, rfl⟩ | ⟨apart, after⟩
    · rfl
    · exact absurd locked (alone second other shared apart after also)
    · exact absurd also (alone first one shared different before locked)
    · exact gated.exclusive first second one other shared before after locked also

theorem Gated.act (gated : system.Gated) {event : ClientEvent}
    (moved : system.act event = some target) : target.Gated := by
  rcases act_gates moved with ⟨request, phase, next, found, requests, move⟩ |
    ⟨added, requests, none, gates, fresh⟩
  · cases move with
    | enter gates fresh => exact gated.enter found requests gates fresh
    | lock free gates fresh =>
      refine gated.move found requests gates fresh (.inr rfl) ?_
      intro held locked
      obtain rfl := some.inj (gate_of_locked locked).2
      exact .inr free
    | other active held gates fresh =>
      refine gated.move found requests gates fresh (held.imp_right And.right) ?_
      intro kept locked
      have gate := (gate_of_locked locked).2
      rcases held with none | ⟨before, same⟩
      · cases none.symm.trans gate
      · exact .inl (locked_of_gate before (same.symm.trans gate))
  · have old : ∀ (request : Nat) phase held, target.requests[request]? = some phase →
        phase.gate = some held → system.requests[request]? = some phase := by
      intro request phase held here gate
      rw [requests, getElem?_append] at here
      split at here
      · exact here
      · cases (none phase (mem_of_getElem? here)).symm.trans gate
    constructor
    case registered =>
      intro request phase held here gate
      rw [gates]
      exact gated.registered request phase held (old request phase held here gate) gate
    case fresh =>
      rw [gates, fresh]
      exact gated.fresh
    case distinct =>
      rw [gates]
      exact gated.distinct
    case exclusive =>
      intro first second one other held here there locked also
      exact gated.exclusive first second one other held
        (old first one held here (gate_of_locked locked).2)
        (old second other held there (gate_of_locked also).2) locked also

theorem gated_new : Gated new := by
  constructor <;> simp [new]

theorem Gated.of_reachable (reached : Reachable (· = new) Step system) : system.Gated := by
  refine reached.invariant Gated ?_ fun _ _ _ gated moved => gated.act moved
  rintro _ rfl
  exact gated_new

theorem locked_of_constructing (constructing : phase.constructing = some address) :
    ∃ gate, phase.locked = some (address, gate) := by
  cases phase <;> simp_all [RequestPhase.constructing, RequestPhase.locked, isWaiting,
    RequestPhase.gate]

theorem Gated.used_of_enter (gated : system.Gated)
    (found : system.requests[request]? = some (.entering address))
    (moved : system.proceed request input (.entering address) = some target) {other gate}
    (held : target.clientInitGates other = some gate) :
    ∃ (user : Nat) (phase : RequestPhase), target.requests[user]? = some phase ∧
      phase.gate = some (other, gate) := by
  obtain ⟨own, -, -, known⟩ := clientInitGate_spec system address
  cases moved
  rcases known other gate held with retained | ⟨rfl, -⟩
  · obtain ⟨registered, used⟩ := clientInitGates_of_retainedGates retained
    obtain ⟨phase, listed, holds⟩ := countP_pos_iff.mp (Nat.pos_of_ne_zero used)
    obtain ⟨kept, gates, same⟩ := (any_eq_true _ _).mp holds
    obtain ⟨user, here⟩ := mem_iff_getElem?.mp listed
    have place := gated.registered user phase kept here gates
    obtain rfl := of_decide_eq_true same
    have different : user ≠ request := by
      rintro rfl
      obtain rfl := some.inj (found.symm.trans here)
      cases gates
    refine ⟨user, phase, ?_, ?_⟩
    · exact (getElem?_set_ne different.symm).trans here
    · rw [gates, gated.distinct other kept.1 kept.2 registered place]
  · have inside := (List.getElem?_eq_some_iff.mp found).1
    refine ⟨request, _, getElem?_set_self inside, ?_⟩
    rw [← some.inj (own.symm.trans held)]
    rfl

/-- Construction is single-flight for each address, requests for different addresses do not
wait for each other at a gate, and `client_init_gate` leaves only gates that are used. -/
theorem construction_single_flight (reached : Reachable (· = new) Step system) :
    (∀ (first second : Nat) one other address, system.requests[first]? = some one →
      system.requests[second]? = some other → one.constructing = some address →
      other.constructing = some address → first = second) ∧
    (∀ (waiter holder : Nat) address gate phase held,
      system.requests[waiter]? = some (.waiting address gate) →
      system.requests[holder]? = some phase → phase.locked = some held → held.2 = gate →
      held.1 = address) ∧
    (∀ (waiter : Nat) address gate input,
      system.requests[waiter]? = some (.waiting address gate) →
      (∀ (holder : Nat) phase, system.requests[holder]? = some phase →
        phase.locked ≠ some (address, gate)) →
      ∃ target, Step system (.proceed waiter input) target) ∧
    ∀ (request : Nat) address input target,
      system.requests[request]? = some (.entering address) →
      Step system (.proceed request input) target →
      ∀ other gate, target.clientInitGates other = some gate →
        ∃ (user : Nat) (phase : RequestPhase), target.requests[user]? = some phase ∧
          phase.gate = some (other, gate) := by
  have gated := Gated.of_reachable reached
  have sameAddress : ∀ {first second : String × Nat} {one other : Nat}
      {phase next : RequestPhase}, system.requests[one]? = some phase →
      system.requests[other]? = some next → phase.gate = some first → next.gate = some second →
      first.2 = second.2 → first.1 = second.1 := by
    intro first second one other phase next here there held also same
    refine gated.distinct first.1 second.1 first.2 (gated.registered one phase first here held) ?_
    rw [same]
    exact gated.registered other next second there also
  refine ⟨?_, ?_, ?_, ?_⟩
  · intro first second one other address here there building also
    obtain ⟨gate, locked⟩ := locked_of_constructing building
    obtain ⟨another, alsoLocked⟩ := locked_of_constructing also
    have same : gate = another := some.inj
      ((gated.registered first one _ here (gate_of_locked locked).2).symm.trans
        (gated.registered second other _ there (gate_of_locked alsoLocked).2))
    subst same
    exact gated.exclusive first second one other _ here there locked alsoLocked
  · rintro waiter holder address gate phase held here there locked rfl
    exact sameAddress there here (gate_of_locked locked).2 rfl rfl
  · intro waiter address gate input here free
    have unlocked : system.isLocked gate = false := by
      rw [isLocked, List.any_eq_false]
      intro phase listed taken
      obtain ⟨holder, there⟩ := mem_iff_getElem?.mp listed
      obtain ⟨held, locked, same⟩ := (any_eq_true _ _).mp taken
      have own : held = (address, gate) := Prod.ext
        (sameAddress there here (gate_of_locked locked).2 rfl (of_decide_eq_true same))
        (of_decide_eq_true same)
      exact free holder phase there (own ▸ locked)
    refine ⟨system.goTo waiter (.gated address gate), ?_⟩
    simp [Step, act, here, proceed, unlocked]
  · intro request address input target here moved other gate held
    obtain ⟨phase, found, moved⟩ := bind_eq_some_iff.mp moved
    obtain rfl := some.inj (here.symm.trans found)
    exact gated.used_of_enter here moved held

/-- Two requests for one parent and one for another. -/
theorem construction_single_flight_two_parents :
    ∃ system, Reachable (· = new) Step system ∧
      system.requests = [.building "a" 0, .waiting "a" 0, .building "b" 1] ∧
      ∀ (holder : Nat) phase held, system.requests[holder]? = some phase →
        phase.locked = some held → held.2 = 0 → held.1 = "a" := by
  obtain ⟨system, performed, requests⟩ : ∃ system,
      perform act new [.begin "a", .begin "a", .begin "b", .proceed 0 {}, .proceed 1 {},
        .proceed 2 {}, .proceed 0 {}, .proceed 0 {}, .proceed 0 {}, .proceed 2 {}, .proceed 2 {},
        .proceed 2 {}] = some system ∧
      system.requests = [.building "a" 0, .waiting "a" 0, .building "b" 1] :=
    exists_perform (by decide +kernel)
  have reached : Reachable (· = new) Step system :=
    Reachable.perform (.start rfl) (fun _ _ _ _ moved => moved) performed
  refine ⟨system, reached, requests, fun holder phase held here locked gate => ?_⟩
  exact (construction_single_flight reached).2.1 1 holder "a" 0 phase held (by rw [requests]; rfl)
    here locked gate

end UrmaDownloader

end DragonflyClient.Resource
