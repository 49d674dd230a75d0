import DragonflyClient.Resource.ClientEviction

/-!
The penalties of parents: how often a failure is recorded for one client generation.

A generation is in one place at a time: given out, in the cache, owed a penalty, or penalized.
`client` owes a penalty for a client that it has looked up, whether or not it is the one that
then retires it.
-/

namespace DragonflyClient.Resource

open Library List Option RequestPhase

inductive Place where
  | minted (request : Nat)
  | entry (address : String)
  | owed (request : Nat)
  | penalty (index : Nat)

namespace UrmaDownloader

open RequestPhase

variable {system target : UrmaDownloader} {request : Nat} {input : StepInput}
  {phase next : RequestPhase}

def HasPlace (system : UrmaDownloader) (generation : Nat) : Place → Prop
  | .minted request =>
    ∃ phase, system.requests[request]? = some phase ∧ phase.minted = some generation
  | .entry address =>
    ∃ client, system.clients.lookup address = some client ∧ client.generation = generation
  | .owed request =>
    ∃ phase, system.requests[request]? = some phase ∧ phase.owes = some generation
  | .penalty index => system.penalized[index]? = some generation

/-- A step takes away places, moves one generation, or gives out the next. -/
inductive PlaceMove (system target : UrmaDownloader) : Prop where
  | fewer (fresh : target.nextClientGeneration = system.nextClientGeneration)
      (kept : ∀ generation place, target.HasPlace generation place →
        system.HasPlace generation place)
  | moves (origin goal : Place) (fresh : target.nextClientGeneration = system.nextClientGeneration)
      (kept : ∀ generation place, target.HasPlace generation place →
        (place ≠ origin ∧ system.HasPlace generation place) ∨
          (place = goal ∧ system.HasPlace generation origin))
  | mints (goal : Place)
      (fresh : target.nextClientGeneration = system.nextClientGeneration + 1)
      (kept : ∀ generation place, target.HasPlace generation place →
        system.HasPlace generation place ∨
          (place = goal ∧ generation = system.nextClientGeneration))

/-- Generations are known, and in one place. -/
structure Tracked (system : UrmaDownloader) : Prop where
  bounded : ∀ generation place, system.HasPlace generation place →
    generation < system.nextClientGeneration
  single : ∀ generation first second, system.HasPlace generation first →
    system.HasPlace generation second → first = second

theorem Tracked.move (tracked : system.Tracked) (move : PlaceMove system target) :
    target.Tracked := by
  obtain ⟨bounded, single⟩ := tracked
  cases move with
  | fewer fresh kept =>
    refine ⟨fun generation place here => ?_, fun generation first second one other => ?_⟩
    · rw [fresh]
      exact bounded generation place (kept generation place here)
    · exact single generation first second (kept generation first one)
        (kept generation second other)
  | moves origin goal fresh kept =>
    refine ⟨fun generation place here => ?_, fun generation first second one other => ?_⟩
    · rw [fresh]
      rcases kept generation place here with ⟨-, before⟩ | ⟨-, before⟩
      · exact bounded generation place before
      · exact bounded generation origin before
    · rcases kept generation first one with ⟨apart, before⟩ | ⟨rfl, before⟩ <;>
        rcases kept generation second other with ⟨different, also⟩ | ⟨rfl, also⟩
      · exact single generation first second before also
      · exact absurd (single generation first origin before also) apart
      · exact absurd (single generation second origin also before) different
      · rfl
  | mints goal fresh kept =>
    refine ⟨fun generation place here => ?_, fun generation first second one other => ?_⟩
    · rw [fresh]
      rcases kept generation place here with before | ⟨-, rfl⟩
      · exact Nat.lt_succ_of_lt (bounded generation place before)
      · exact Nat.lt_succ_self _
    · rcases kept generation first one with before | ⟨here, latest⟩ <;>
        rcases kept generation second other with also | ⟨there, newest⟩
      · exact single generation first second before also
      · exact absurd newest (Nat.ne_of_lt (bounded generation first before))
      · exact absurd latest (Nat.ne_of_lt (bounded generation second also))
      · exact here.trans there.symm

theorem places_of_set (requests : target.requests = system.requests.set request next)
    (generation : Nat) :
    (∀ other, target.HasPlace generation (.minted other) →
      (other = request ∧ next.minted = some generation) ∨
        (other ≠ request ∧ system.HasPlace generation (.minted other))) ∧
    ∀ other, target.HasPlace generation (.owed other) →
      (other = request ∧ next.owes = some generation) ∨
        (other ≠ request ∧ system.HasPlace generation (.owed other)) := by
  constructor
  all_goals
    rintro other ⟨phase, found, held⟩
    rw [requests] at found
    rcases request_of_set found with ⟨rfl, rfl⟩ | ⟨different, before⟩
    · exact .inl ⟨rfl, held⟩
    · exact .inr ⟨different, phase, before, held⟩

def isHealthy : RequestPhase → Bool
  | .renewing .. | .retiringFabric .. | .clearing .. | .retiring _ _ _ true _ => false
  | _ => true

structure PenaltyMove (system target : UrmaDownloader) (phase next : RequestPhase) : Prop where
  healthy : isHealthy next = true
  places : PlaceMove system target
  trusts : ∀ address generation, next.trusts = some (address, generation) →
    (phase.trusts = some (address, generation) ∧ target.clients = system.clients) ∨
      target.HasPlace generation (.entry address)
  entries : ∀ address generation, system.HasPlace generation (.entry address) →
    target.HasPlace generation (.entry address) ∨
      (∃ gate, phase.locked = some (address, gate)) ∨
      ∃ fabric fabricFailed failure,
        phase = .retiring address generation fabric fabricFailed failure

/-- A step that takes no client away, or only from an address whose gate it holds. -/
theorem PenaltyMove.still (requests : target.requests = system.requests.set request next)
    (clients : ∀ address client, target.clients.lookup address = some client →
      ∃ old, system.clients.lookup address = some old ∧ old.generation = client.generation)
    (entries : ∀ address generation, system.HasPlace generation (.entry address) →
      target.HasPlace generation (.entry address) ∨ ∃ gate, phase.locked = some (address, gate))
    (fresh : target.nextClientGeneration = system.nextClientGeneration)
    (penalized : target.penalized = system.penalized) (healthy : isHealthy next = true)
    (quiet : next.minted = none ∧ next.owes = none)
    (trusts : ∀ address generation, next.trusts = some (address, generation) →
      (phase.trusts = some (address, generation) ∧ target.clients = system.clients) ∨
        target.HasPlace generation (.entry address)) :
    PenaltyMove system target phase next where
  healthy := healthy
  places := by
    refine .fewer fresh fun generation place here => ?_
    obtain ⟨minted, owed⟩ := places_of_set requests generation
    cases place with
    | minted other =>
      rcases minted other here with ⟨-, new⟩ | ⟨-, before⟩
      · cases quiet.1.symm.trans new
      · exact before
    | owed other =>
      rcases owed other here with ⟨-, new⟩ | ⟨-, before⟩
      · cases quiet.2.symm.trans new
      · exact before
    | entry address =>
      obtain ⟨client, held, rfl⟩ := here
      exact clients address client held
    | penalty index =>
      rw [HasPlace, penalized] at here
      exact here
  trusts := trusts
  entries address generation held := (entries address generation held).imp_right .inl

variable {address : String} {generation : Nat}

theorem isCurrent_iff :
    system.isCurrent address generation = true ↔ system.HasPlace generation (.entry address) := by
  simp [isCurrent, HasPlace, Option.any_eq_true]

theorem lookUp_other {other} (different : other ≠ address) :
    (system.lookUp address).2.lookup other = system.clients.lookup other := by
  unfold lookUp
  repeat' split
  · exact AList.lookup_insert_ne different
  · exact AList.lookup_erase_ne different
  · rfl

theorem retireClient_entries {other kept} (held : system.HasPlace kept (.entry other)) :
    (system.retireClient address generation).HasPlace kept (.entry other) ∨
      (other = address ∧ kept = generation) := by
  obtain ⟨client, found, rfl⟩ := held
  simp only [HasPlace, retireClient]
  split
  next current =>
    by_cases same : other = address
    · subst same
      simp only [isCurrent, found, any_some, decide_eq_true_eq] at current
      exact .inr ⟨rfl, current⟩
    · exact .inl ⟨client, by rwa [Table.lookup_erase_eq, if_neg same], rfl⟩
  next => exact .inl ⟨client, found, rfl⟩

section Moves

variable (requests : target.requests = system.requests.set request next)
include requests

/-- A client that is retired goes from the cache to the request that records its failure. -/
theorem PlaceMove.retired {address generation}
    (current : system.HasPlace generation (.entry address))
    (clients : target.clients = system.clients.erase address)
    (fresh : target.nextClientGeneration = system.nextClientGeneration)
    (penalized : target.penalized = system.penalized) (minted : next.minted = none)
    (owes : next.owes = some generation) : PlaceMove system target := by
  refine .moves (.entry address) (.owed request) fresh fun other place here => ?_
  obtain ⟨mints, owed⟩ := places_of_set requests other
  cases place with
  | minted another =>
    rcases mints another here with ⟨-, new⟩ | ⟨-, before⟩
    · cases minted.symm.trans new
    · exact .inl ⟨nofun, before⟩
  | owed another =>
    rcases owed another here with ⟨rfl, new⟩ | ⟨-, before⟩
    · obtain rfl := some.inj (owes.symm.trans new)
      exact .inr ⟨rfl, current⟩
    · exact .inl ⟨nofun, before⟩
  | entry parent =>
    obtain ⟨client, held, rfl⟩ := here
    rw [clients, Table.lookup_erase_eq, ite_none_left_eq_some] at held
    exact .inl ⟨fun same => held.1 (Place.entry.inj same), client, held.2, rfl⟩
  | penalty index =>
    rw [HasPlace, penalized] at here
    exact .inl ⟨nofun, here⟩

theorem PlaceMove.recorded {generation} (found : system.requests[request]? = some phase)
    (owed : phase.owes = some generation) (clients : target.clients = system.clients)
    (fresh : target.nextClientGeneration = system.nextClientGeneration)
    (penalized : target.penalized = system.penalized ++ [generation]) (minted : next.minted = none)
    (owes : next.owes = none) : PlaceMove system target := by
  refine .moves (.owed request) (.penalty system.penalized.length) fresh fun other place here => ?_
  obtain ⟨mints, stays⟩ := places_of_set requests other
  cases place with
  | minted another =>
    rcases mints another here with ⟨-, new⟩ | ⟨-, before⟩
    · cases minted.symm.trans new
    · exact .inl ⟨nofun, before⟩
  | owed another =>
    rcases stays another here with ⟨-, new⟩ | ⟨apart, before⟩
    · cases owes.symm.trans new
    · exact .inl ⟨fun same => apart (Place.owed.inj same), before⟩
  | entry parent =>
    rw [HasPlace, clients] at here
    exact .inl ⟨nofun, here⟩
  | penalty index =>
    rw [HasPlace, penalized, getElem?_append] at here
    split at here
    · exact .inl ⟨nofun, here⟩
    next behind =>
      obtain ⟨inside, rfl⟩ := List.getElem?_eq_some_iff.mp here
      rw [length_singleton] at inside
      refine .inr ⟨by congr 1; omega, phase, found, ?_⟩
      simpa using owed

theorem PlaceMove.minted (clients : target.clients = system.clients)
    (fresh : target.nextClientGeneration = system.nextClientGeneration + 1)
    (penalized : target.penalized = system.penalized)
    (minted : next.minted = some system.nextClientGeneration) (owes : next.owes = none) :
    PlaceMove system target := by
  refine .mints (.minted request) fresh fun other place here => ?_
  obtain ⟨mints, owed⟩ := places_of_set requests other
  cases place with
  | minted another =>
    rcases mints another here with ⟨rfl, new⟩ | ⟨-, before⟩
    · exact .inr ⟨rfl, some.inj (new.symm.trans minted)⟩
    · exact .inl before
  | owed another =>
    rcases owed another here with ⟨-, new⟩ | ⟨-, before⟩
    · cases owes.symm.trans new
    · exact .inl before
  | entry parent =>
    rw [HasPlace, clients] at here
    exact .inl here
  | penalty index =>
    rw [HasPlace, penalized] at here
    exact .inl here

theorem PlaceMove.inserted {address client} (found : system.requests[request]? = some phase)
    (given : phase.minted = some client.generation)
    (clients : target.clients = system.clients.insert address client)
    (fresh : target.nextClientGeneration = system.nextClientGeneration)
    (penalized : target.penalized = system.penalized) (minted : next.minted = none)
    (owes : next.owes = none) : PlaceMove system target := by
  refine .moves (.minted request) (.entry address) fresh fun other place here => ?_
  obtain ⟨mints, owed⟩ := places_of_set requests other
  cases place with
  | minted another =>
    rcases mints another here with ⟨-, new⟩ | ⟨apart, before⟩
    · cases minted.symm.trans new
    · exact .inl ⟨fun same => apart (Place.minted.inj same), before⟩
  | owed another =>
    rcases owed another here with ⟨-, new⟩ | ⟨-, before⟩
    · cases owes.symm.trans new
    · exact .inl ⟨nofun, before⟩
  | entry parent =>
    obtain ⟨held, cached, rfl⟩ := here
    rw [clients, Table.lookup_insert_eq] at cached
    split at cached
    next same =>
      cases cached
      exact .inr ⟨by rw [same], phase, found, given⟩
    next => exact .inl ⟨nofun, held, cached, rfl⟩
  | penalty index =>
    rw [HasPlace, penalized] at here
    exact .inl ⟨nofun, here⟩

end Moves

theorem proceed_penalties (healthy : system.failedFabrics = []) (sound : isHealthy phase = true)
    (found : system.requests[request]? = some phase)
    (trusted : ∀ address generation, phase.trusts = some (address, generation) →
      system.HasPlace generation (.entry address))
    (moved : system.proceed request input phase = some target) :
    ∃ next, target.requests = system.requests.set request next ∧
      target.failedFabrics = [] ∧ PenaltyMove system target phase next := by
  cases phase with
  | gated address gate =>
    cases moved
    refine ⟨_, rfl, healthy, .still rfl (fun _ client held => ⟨client, held, rfl⟩)
      (fun _ _ => .inl) rfl rfl ?_ ?_ ?_⟩ <;> split <;>
        simp [isHealthy, minted, owes, trusts]
  | admitted address gate =>
    cases moved
    refine ⟨_, rfl, healthy, .still rfl ?_ ?_ rfl rfl ?_ ?_ ?_⟩
    · intro other client held
      obtain ⟨old, before, -, same⟩ := lookUp_kept held
      exact ⟨old, before, same⟩
    · rintro other _ ⟨client, held, rfl⟩
      by_cases same : other = address
      · exact .inr ⟨gate, by rw [same]; rfl⟩
      · exact .inl ⟨client, (lookUp_other same).trans held, rfl⟩
    · split <;> rfl
    · split <;> exact ⟨rfl, rfl⟩
    · intro other generation trusts
      split at trusts
      next client cached =>
        obtain ⟨rfl, rfl⟩ := trusts
        exact .inr ⟨_, (lookUp_found cached).2, rfl⟩
      next => cases trusts
  | building address gate =>
    simp only [proceed, some.injEq] at moved
    subst moved
    refine ⟨_, rfl, healthy, .still rfl (fun _ client held => ⟨client, held, rfl⟩)
      (fun _ _ => .inl) rfl rfl ?_ ?_ ?_⟩ <;> split <;>
        simp [isHealthy, minted, owes, trusts]
  | condemned address gate generation fabric =>
    cases moved
    have current := trusted address generation rfl
    refine ⟨_, rfl, healthy, rfl, .retired rfl current (if_pos (isCurrent_iff.mpr current)) rfl
      rfl rfl rfl, by simp [trusts], fun other kept held => ?_⟩
    refine (retireClient_entries held).imp_right fun same => .inl ⟨gate, ?_⟩
    rw [same.1]
    rfl
  | numbered address gate fabric generation =>
    cases moved
    refine ⟨_, rfl, healthy, rfl, .inserted rfl found rfl rfl rfl rfl rfl rfl,
      by simp [trusts], ?_⟩
    rintro other _ ⟨client, held, rfl⟩
    by_cases same : other = address
    · exact .inr (.inl ⟨gate, by rw [same]; rfl⟩)
    · exact .inl ⟨client, (AList.lookup_insert_ne same).trans held, rfl⟩
  | retiring address generation fabric fabricFailed failure =>
    obtain rfl : fabricFailed = false := by
      cases fabricFailed with
      | false => rfl
      | true => cases sound
    cases moved
    have entries : ∀ other kept, system.HasPlace kept (.entry other) →
        (system.retireClient address generation).HasPlace kept (.entry other) ∨
          (∃ gate, (retiring address generation fabric false failure).locked =
            some (other, gate)) ∨
          ∃ own fabricFailed reason, retiring address generation fabric false failure =
            .retiring other kept own fabricFailed reason := by
      intro other kept held
      refine (retireClient_entries held).imp_right fun same => .inr ⟨fabric, false, failure, ?_⟩
      rw [same.1, same.2]
    refine ⟨_, rfl, healthy, ?_⟩
    by_cases current : system.isCurrent address generation = true
    · simp only [current, Bool.true_or, if_true]
      exact ⟨rfl, .retired rfl (isCurrent_iff.mp current) (if_pos current) rfl rfl rfl rfl,
        by simp [trusts], entries⟩
    · have same : system.retireClient address generation = system := by
        simp [retireClient, current]
      simp only [same, current, Bool.or_self, Bool.false_eq_true, if_false]
      exact .still rfl (fun _ client held => ⟨client, held, rfl⟩) (fun _ _ => .inl) rfl rfl rfl
        ⟨rfl, rfl⟩ (by simp [trusts])
  | blaming | recording =>
    cases moved
    exact ⟨_, rfl, healthy, rfl, .recorded rfl found rfl rfl rfl rfl rfl rfl,
      by simp [trusts], fun _ _ => .inl⟩
  | equipped address gate fabric =>
    simp only [proceed] at moved
    split at moved <;> cases moved
    · exact ⟨_, rfl, healthy, .still rfl (fun _ client held => ⟨client, held, rfl⟩)
        (fun _ _ => .inl) rfl rfl rfl ⟨rfl, rfl⟩ (by simp [trusts])⟩
    · exact ⟨_, rfl, healthy, rfl, .minted rfl rfl rfl rfl rfl rfl,
        by simp [trusts], fun _ _ => .inl⟩
  | renewing | retiringFabric | clearing => cases sound
  | finished => cases moved
  | _ =>
    have none : ∀ fabric, fabric ∉ system.failedFabrics := by simp [healthy]
    simp only [proceed, none, if_false, ite_none_left_eq_some, some.injEq]
      at moved
    repeat' split at moved
    all_goals first
      | obtain rfl := some.inj moved
      | obtain ⟨-, rfl⟩ := moved
    all_goals
      refine ⟨_, rfl, healthy, .still rfl (fun _ client held => ⟨client, held, rfl⟩)
        (fun _ _ => .inl) rfl rfl rfl ⟨rfl, rfl⟩ fun _ _ same => ?_⟩
    all_goals first
      | exact .inl ⟨same, rfl⟩
      | cases same

/-- The fabric stays healthy, and a failing request does not get to its `retire_client` of a
generation while a `client` call has looked that generation up and not gone on. -/
def spaced (system : UrmaDownloader) : ClientEvent → Bool
  | .failFabric _ => false
  | .proceed request _ =>
    match system.requests[request]? with
    | some (.retiring address generation _ _ _) =>
      ∀ phase ∈ system.requests, phase.trusts ≠ some (address, generation)
    | _ => true
  | _ => true

abbrev Spaced (system : UrmaDownloader) (event : ClientEvent) : Prop :=
  system.spaced event = true

/-- The invariant of spaced runs: a client that a call goes on with stays in the cache. -/
structure Accountable (system : UrmaDownloader) : Prop where
  gated : system.Gated
  healthy : system.failedFabrics = []
  phases : ∀ phase ∈ system.requests, isHealthy phase = true
  tracked : system.Tracked
  trusted : ∀ (request : Nat) phase, system.requests[request]? = some phase →
    ∀ address generation, phase.trusts = some (address, generation) →
      system.HasPlace generation (.entry address)

theorem locked_of_trusts (trusts : phase.trusts = some (address, generation)) :
    ∃ gate, phase.locked = some (address, gate) := by
  cases phase <;> simp_all [RequestPhase.trusts, RequestPhase.locked, isWaiting, RequestPhase.gate]

theorem Gated.alone (gated : system.Gated) {other here first second}
    (found : system.requests[request]? = some phase) (also : system.requests[other]? = some here)
    (one : phase.locked = some (address, first)) (two : here.locked = some (address, second)) :
    other = request := by
  have same : first = second := some.inj
    ((gated.registered request phase _ found (gate_of_locked one).2).symm.trans
      (gated.registered other here _ also (gate_of_locked two).2))
  exact gated.exclusive other request here phase _ also found two (same ▸ one)

theorem Accountable.proceed (accountable : system.Accountable) (gated : target.Gated)
    (found : system.requests[request]? = some phase)
    (requests : target.requests = system.requests.set request next)
    (healthy : target.failedFabrics = []) (move : PenaltyMove system target phase next)
    (spaced : system.Spaced (.proceed request input)) : target.Accountable where
  gated := gated
  healthy := healthy
  phases other here := by
    rw [requests] at here
    rcases mem_or_eq_of_mem_set here with old | rfl
    · exact accountable.phases other old
    · exact move.healthy
  tracked := accountable.tracked.move move.places
  trusted := by
    intro other here held address generation trusts
    rw [requests] at held
    rcases request_of_set held with ⟨rfl, rfl⟩ | ⟨different, before⟩
    · rcases move.trusts address generation trusts with ⟨earlier, clients⟩ | cached
      · rw [HasPlace, clients]
        exact accountable.trusted other phase found address generation earlier
      · exact cached
    -- What another call has looked up is taken away under its gate or by a failing request.
    · have cached := accountable.trusted other here before address generation trusts
      rcases move.entries address generation cached with kept | ⟨gate, locked⟩ |
        ⟨fabric, fabricFailed, failure, rfl⟩
      · exact kept
      · obtain ⟨own, holds⟩ := locked_of_trusts trusts
        exact absurd (accountable.gated.alone found before locked holds) different
      · simp only [Spaced, UrmaDownloader.spaced, found, decide_eq_true_eq] at spaced
        exact absurd trusts (spaced here (mem_of_getElem? before))

theorem Accountable.replace (accountable : system.Accountable) (gated : target.Gated)
    (requests : ∀ (request : Nat) phase, target.requests[request]? = some phase →
      system.requests[request]? = some phase ∨
        (isHealthy phase = true ∧ phase.minted = none ∧ phase.owes = none ∧ phase.trusts = none))
    (healthy : target.failedFabrics = system.failedFabrics)
    (clients : target.clients = system.clients)
    (fresh : target.nextClientGeneration = system.nextClientGeneration)
    (penalized : target.penalized = system.penalized) : target.Accountable where
  gated := gated
  healthy := healthy.trans accountable.healthy
  phases phase here := by
    obtain ⟨request, found⟩ := getElem?_of_mem here
    rcases requests request phase found with old | ⟨sound, -⟩
    · exact accountable.phases phase (mem_of_getElem? old)
    · exact sound
  tracked := by
    refine accountable.tracked.move (.fewer fresh fun generation place here => ?_)
    cases place with
    | minted request =>
      obtain ⟨phase, found, held⟩ := here
      rcases requests request phase found with old | ⟨-, none, -⟩
      · exact ⟨phase, old, held⟩
      · cases none.symm.trans held
    | owed request =>
      obtain ⟨phase, found, held⟩ := here
      rcases requests request phase found with old | ⟨-, -, none, -⟩
      · exact ⟨phase, old, held⟩
      · cases none.symm.trans held
    | entry address =>
      rw [HasPlace, clients] at here
      exact here
    | penalty index =>
      rw [HasPlace, penalized] at here
      exact here
  trusted request phase found address generation trusts := by
    rw [HasPlace, clients]
    rcases requests request phase found with old | ⟨-, -, -, none⟩
    · exact accountable.trusted request phase old address generation trusts
    · cases none.symm.trans trusts

theorem Accountable.act (accountable : system.Accountable) {event}
    (moved : Guarded Step Spaced system event target) : target.Accountable := by
  obtain ⟨moved, spaced⟩ := moved
  have gated := accountable.gated.act moved
  cases event with
  | proceed request input =>
    obtain ⟨phase, found, moved⟩ := bind_eq_some_iff.mp moved
    obtain ⟨next, requests, healthy, move⟩ := proceed_penalties accountable.healthy
      (accountable.phases phase (mem_of_getElem? found)) found
      (accountable.trusted request phase found) moved
    exact accountable.proceed gated found requests healthy move spaced
  | begin address =>
    simp only [Step, UrmaDownloader.act, ite_none_right_eq_some, some.injEq]
      at moved
    obtain ⟨-, rfl⟩ := moved
    refine accountable.replace gated (fun request phase found => ?_) rfl rfl rfl rfl
    rw [getElem?_append] at found
    split at found
    · exact .inl found
    · obtain rfl := mem_singleton.mp (mem_of_getElem? found)
      exact .inr ⟨rfl, rfl, rfl, rfl⟩
  | drop request =>
    cases moved
    refine accountable.replace gated (fun other phase found => ?_) rfl rfl rfl rfl
    rcases request_of_set found with ⟨-, rfl⟩ | ⟨-, old⟩
    · exact .inr ⟨rfl, rfl, rfl, rfl⟩
    · exact .inl old
  | failFabric fabric => cases spaced
  | transferred generation success =>
    cases moved
    cases success <;> exact accountable.replace gated (fun _ _ => .inl) rfl rfl rfl rfl
  | share | release | tick =>
    cases moved
    exact accountable.replace gated (fun _ _ => .inl) rfl rfl rfl rfl

theorem Accountable.of_reachable (reached : Reachable (· = new) (Guarded Step Spaced) system) :
    system.Accountable := by
  refine reached.invariant Accountable ?_ fun _ _ _ accountable moved => accountable.act moved
  rintro _ rfl
  refine ⟨gated_new, rfl, by simp [new], ⟨?_, ?_⟩, by simp [new]⟩
  · intro generation place here
    cases place <;> simp [HasPlace, new] at here
  · intro generation first second here
    cases first <;> simp [HasPlace, new] at here

theorem Tracked.nodup_penalized (tracked : system.Tracked) : system.penalized.Nodup := by
  refine pairwise_iff_getElem.mpr fun first second inside further before same => ?_
  have place := tracked.single _ (.penalty first) (.penalty second)
    (getElem?_eq_getElem inside) (same ▸ getElem?_eq_getElem further)
  exact absurd (Place.penalty.inj place) (Nat.ne_of_lt before)

inductive Sentence (system target : UrmaDownloader) (phase : RequestPhase) : Prop where
  | none (same : target.unhealthyParents = system.unhealthyParents)
  | lifted (address : String)
      (same : target.unhealthyParents = (system.recordSuccess address).unhealthyParents)
  | discovery (address : String) (gate fabric : Nat) (failure : Failure)
      (equipped : phase = .equipped address gate fabric)
      (same : target.unhealthyParents = (system.recordFailure address failure).unhealthyParents)
  | session (address : String) (generation : Nat) (failure : Failure)
      (owes : phase.owes = some generation)
      (penalized : target.penalized = system.penalized ++ [generation])
      (same : target.unhealthyParents = (system.recordFailure address failure).unhealthyParents)

theorem proceed_sentence (moved : system.proceed request input phase = some target) :
    Sentence system target phase := by
  cases phase with
  | blaming address gate generation fabric =>
    cases moved
    exact .session address generation .transport rfl rfl rfl
  | recording address generation fabric failure =>
    cases moved
    exact .session address generation failure rfl rfl rfl
  | equipped address gate fabric =>
    simp only [proceed] at moved
    split at moved <;> cases moved
    · exact .discovery address gate fabric _ rfl rfl
    · exact .none rfl
  | cached address gate generation fabric =>
    simp only [proceed] at moved
    repeat' split at moved
    all_goals cases moved
    all_goals first
      | exact .none rfl
      | exact .lifted address rfl
  | finished => cases moved
  | _ =>
    simp only [proceed, ite_none_left_eq_some, some.injEq] at moved
    repeat' split at moved
    all_goals first
      | obtain rfl := some.inj moved
      | obtain ⟨-, rfl⟩ := moved
    all_goals exact .none rfl

theorem recordFailure_backoff {other failure penalty}
    (held : (system.recordFailure address failure).unhealthyParents other = some penalty)
    (changed : system.unhealthyParents other ≠ some penalty) :
    other = address ∧ penalty.backoff = nextBackoff failure (system.unhealthyParents other) := by
  rcases update_cases held with ⟨rfl, same⟩ | ⟨-, before⟩
  · exact ⟨rfl, (some.inj same) ▸ rfl⟩
  · exact absurd before changed

/-- While the fabric is healthy and failing requests are spaced from the `client` calls, a failure
is recorded at most once for a generation; a new penalty of a parent is the next of its old one,
and comes from a failed discovery or from a generation that had none. -/
theorem session_penalized_once (reached : Reachable (· = new) (Guarded Step Spaced) system) :
    system.penalized.Nodup ∧
    ∀ event target, Guarded Step Spaced system event target → ∀ address penalty,
      target.unhealthyParents address = some penalty →
      system.unhealthyParents address ≠ some penalty →
      ∃ request input phase failure, event = .proceed request input ∧
        system.requests[request]? = some phase ∧
        penalty.backoff = nextBackoff failure (system.unhealthyParents address) ∧
        ((∃ gate fabric, phase = .equipped address gate fabric) ∨
          ∃ generation, phase.owes = some generation ∧ generation ∉ system.penalized ∧
            target.penalized = system.penalized ++ [generation]) := by
  refine ⟨(Accountable.of_reachable reached).tracked.nodup_penalized, ?_⟩
  intro event target moved address penalty held changed
  have once := (Accountable.of_reachable (reached.next moved)).tracked.nodup_penalized
  obtain ⟨moved, -⟩ := moved
  cases event with
  | proceed request input =>
    obtain ⟨phase, found, moved⟩ := bind_eq_some_iff.mp moved
    cases proceed_sentence moved with
    | none same => exact absurd (same ▸ held) changed
    | lifted parent same =>
      rw [same] at held
      rcases update_cases held with ⟨-, none⟩ | ⟨-, before⟩
      · cases none
      · exact absurd before changed
    | discovery parent gate fabric failure equipped same =>
      obtain ⟨rfl, backoff⟩ := recordFailure_backoff (same ▸ held) changed
      exact ⟨request, input, phase, failure, rfl, found, backoff, .inl ⟨gate, fabric, equipped⟩⟩
    | session parent generation failure owes penalized same =>
      obtain ⟨rfl, backoff⟩ := recordFailure_backoff (same ▸ held) changed
      rw [penalized, nodup_append] at once
      refine ⟨request, input, phase, failure, rfl, found, backoff,
        .inr ⟨generation, owes, fun before => ?_, penalized⟩⟩
      exact once.2.2 generation before generation (mem_singleton_self _) rfl
  | begin parent =>
    simp only [Step, UrmaDownloader.act, ite_none_right_eq_some, some.injEq]
      at moved
    obtain ⟨-, rfl⟩ := moved
    exact absurd held changed
  | transferred generation success =>
    cases moved
    cases success <;> exact absurd held changed
  | _ =>
    cases moved
    exact absurd held changed

namespace Small

/-- Two requests on one client; its background transfer fails, and the first request fails. -/
def broken : List ClientEvent :=
  connect "a" 0 ++ .begin "a" :: List.replicate 5 (.proceed 1 {}) ++
    [.transferred 1 false, .proceed 0 ⟨true, some .transport⟩]

end Small

/-- The second request of the broken session fails too, and records nothing. -/
theorem session_penalized_once_two_requests :
    ∃ system, Reachable (· = new) (Guarded Step Spaced) system ∧ system.penalized = [1] ∧
      system.requests = [.finished, .finished] ∧
      (system.unhealthyParents "a").map ParentPenalty.backoff = some unhealthyParentMinBackoff ∧
      system.penalized.Nodup := by
  obtain ⟨system, performed, penalized, requests, backoff⟩ : ∃ system,
      perform (fun system event => if system.Spaced event then system.act event else none) new
        (Small.broken ++ [.proceed 1 ⟨true, some .transport⟩, .proceed 0 {}, .proceed 1 {},
          .proceed 0 {}]) = some system ∧
        (system.penalized = [1] ∧ system.requests = [.finished, .finished] ∧
          (system.unhealthyParents "a").map ParentPenalty.backoff =
            some unhealthyParentMinBackoff) := exists_perform (by decide +kernel)
  have reached : Reachable (· = new) (Guarded Step Spaced) system := by
    refine .perform (.start rfl) ?_ performed
    intro event _ before after moved
    split at moved
    next apart => exact ⟨moved, apart⟩
    next => cases moved
  exact ⟨system, reached, penalized, requests, backoff, (session_penalized_once reached).1⟩

/-- A `client` call has looked the broken client up when the first request retires it: both record
a failure, and the backoff is doubled for one generation. -/
theorem generation_penalized_twice :
    ∃ system, perform act new (Small.broken ++
        .begin "a" :: List.replicate 4 (.proceed 2 {}) ++ List.replicate 2 (.proceed 0 {}) ++
          List.replicate 3 (.proceed 2 {})) = some system ∧
      (system.failedFabrics = [] ∧ system.penalized = [1, 1] ∧
        (system.unhealthyParents "a").map ParentPenalty.backoff =
          some (2 * unhealthyParentMinBackoff)) :=
  exists_perform (by decide +kernel)

end UrmaDownloader

end DragonflyClient.Resource
