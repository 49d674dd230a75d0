import DragonflyClient.Library.Transition
import DragonflyClient.Library.Table

/-!
`URMADownloader` (`resource/piece_downloader.rs`): the client cache, the construction gates, the
shared fabric and the penalties of parents, under any number of requests.

A step is one section under a lock or one look at an atomic; the awaits lie between the steps,
and a request may be dropped at each of them.  Times are in seconds.  The discovery results
that `capable_parents` keeps only decide whether a parent is asked again and are left out.

`SHARED_FABRIC` (`fabric.rs`) has a weak reference to the fabric that was started last.  Who has
a handle of it is in the state: a failed fabric that somebody still holds cannot be replaced.
-/

namespace DragonflyClient.Resource

open Library

inductive Failure where
  | incompatible
  | transport
  deriving DecidableEq

def incompatibleParentTtl : Nat := 60

def unhealthyParentMinBackoff : Nat := 2

def unhealthyParentMaxBackoff : Nat := 60

def fabricRetryInterval : Nat := 300

def peerSessionIdleTimeout : Nat := 420

structure ParentPenalty where
  untilTime : Nat
  backoff : Nat
  deriving DecidableEq

inductive FabricState where
  | uninitialized
  | failed (time : Nat)
  | ready (fabric : Nat)
  deriving DecidableEq

structure CachedClient where
  lastUsed : Nat
  generation : Nat
  fabric : Nat
  deriving DecidableEq

/-- Where a request is: in `client`, in its transfer, or in `handle_stream_result` and
`handle_piece_result`, which are the same. -/
inductive RequestPhase where
  -- The parent was checked; `client_init_gate` comes next.
  | entering (address : String)
  | waiting (address : String) (gate : Nat)
  -- The gate is held from here to the end of `client`.
  | gated (address : String) (gate : Nat)
  -- The parent was checked again; the cache comes next.
  | admitted (address : String) (gate : Nat)
  | cached (address : String) (gate generation fabric : Nat)
  -- `take_transfer_outcome` was `Some(false)`: retire the client, then record the failure.
  | condemned (address : String) (gate generation fabric : Nat)
  | blaming (address : String) (gate generation fabric : Nat)
  -- The fabric of the cached client has failed.
  | renewing (address : String) (gate generation fabric : Nat)
  | building (address : String) (gate : Nat)
  | equipped (address : String) (gate fabric : Nat)
  | numbered (address : String) (gate fabric generation : Nat)
  | requesting (address : String) (generation fabric : Nat)
  -- The two sections of `retire_failed_fabric`.
  | retiringFabric (address : String) (generation fabric : Nat) (failure : Failure)
  | clearing (address : String) (generation fabric : Nat) (failure : Failure)
  | retiring (address : String) (generation fabric : Nat) (fabricFailed : Bool) (failure : Failure)
  | recording (address : String) (generation fabric : Nat) (failure : Failure)
  | finished
  deriving DecidableEq

/-- What a step learns from outside: whether the configuration is accepted and a fabric starts,
and how an attempt fails. -/
structure StepInput where
  starts : Bool := true
  failure : Option Failure := none

/-- `elsewhere` says that the server or a transfer has a handle of the last fabric.  `penalized` is
history: the generations that a failure was recorded for. -/
structure UrmaDownloader where
  now : Nat
  fabric : FabricState
  nextFabric : Nat
  failedFabrics : List Nat
  elsewhere : Bool
  unhealthyParents : String → Option ParentPenalty
  clients : Table String CachedClient
  clientInitGates : String → Option Nat
  nextGate : Nat
  nextClientGeneration : Nat
  failedTransfers : List Nat
  successfulTransfers : List Nat
  requests : List RequestPhase
  penalized : List Nat

namespace RequestPhase

/-- The gate that a request has a strong reference to, with its address. -/
def gate : RequestPhase → Option (String × Nat)
  | waiting address gate | gated address gate | admitted address gate | cached address gate _ _
  | condemned address gate _ _ | blaming address gate _ _ | renewing address gate _ _
  | building address gate | equipped address gate _ | numbered address gate _ _ =>
    some (address, gate)
  | _ => none

/-- The fabric that a request has a handle of, or a client on. -/
def fabric : RequestPhase → Option Nat
  | cached _ _ _ fabric | condemned _ _ _ fabric | blaming _ _ _ fabric | renewing _ _ _ fabric
  | equipped _ _ fabric | numbered _ _ fabric _ | requesting _ _ fabric
  | retiringFabric _ _ fabric _ | clearing _ _ fabric _ | retiring _ _ fabric _ _
  | recording _ _ fabric _ => some fabric
  | entering _ | waiting _ _ | gated _ _ | admitted _ _ | building _ _ | finished => none

/-- A generation that is given out and not in the cache yet. -/
def minted : RequestPhase → Option Nat
  | numbered _ _ _ generation => some generation
  | _ => none

/-- The generation that a failure is about to be recorded for. -/
def owes : RequestPhase → Option Nat
  | blaming _ _ generation _ | recording _ generation _ _ => some generation
  | _ => none

/-- The cached client that `client` has looked up and goes on with. -/
def trusts : RequestPhase → Option (String × Nat)
  | cached address _ generation _ | condemned address _ generation _ => some (address, generation)
  | _ => none

/-- The generation that a request has seen fail. -/
def failing : RequestPhase → Option Nat
  | condemned _ _ generation _ | blaming _ _ generation _ | renewing _ _ generation _
  | retiringFabric _ generation _ _ | clearing _ generation _ _ | retiring _ generation _ _ _
  | recording _ generation _ _ => some generation
  | _ => none

/-- The fabric that a request has seen fail. -/
def poisoned : RequestPhase → Option Nat
  | retiringFabric _ _ fabric _ | clearing _ _ fabric _ => some fabric
  | _ => none

def isWaiting : RequestPhase → Bool
  | waiting _ _ => true
  | _ => false

def locked (phase : RequestPhase) : Option (String × Nat) :=
  if phase.isWaiting then none else phase.gate

/-- Between finding no usable client and inserting one or failing. -/
def constructing : RequestPhase → Option String
  | renewing address _ _ _ | building address _ | equipped address _ _ | numbered address _ _ _ =>
    some address
  | _ => none

end RequestPhase

namespace UrmaDownloader

open RequestPhase

def new : UrmaDownloader where
  now := 0
  fabric := .uninitialized
  nextFabric := 0
  failedFabrics := []
  elsewhere := false
  unhealthyParents := fun _ => none
  clients := ∅
  clientInitGates := fun _ => none
  nextGate := 0
  nextClientGeneration := 1
  failedTransfers := []
  successfulTransfers := []
  requests := []
  penalized := []

def checkParent (system : UrmaDownloader) (address : String) : Bool :=
  (system.unhealthyParents address).all fun penalty => penalty.untilTime ≤ system.now

def strongCount (system : UrmaDownloader) (gate : Nat) : Nat :=
  system.requests.countP fun phase => phase.gate.any fun held => held.2 = gate

def isLocked (system : UrmaDownloader) (gate : Nat) : Bool :=
  system.requests.any fun phase => phase.locked.any fun held => held.2 = gate

def retainedGates (system : UrmaDownloader) : String → Option Nat :=
  fun address => (system.clientInitGates address).filter fun gate => system.strongCount gate ≠ 0

/-- `client_init_gate`: the gate, and the map and the next gate that it leaves. -/
def clientInitGate (system : UrmaDownloader) (address : String) :
    Nat × (String → Option Nat) × Nat :=
  match system.retainedGates address with
  | some gate => (gate, system.retainedGates, system.nextGate)
  | none =>
    (system.nextGate, Function.update system.retainedGates address (some system.nextGate),
      system.nextGate + 1)

def isCurrent (system : UrmaDownloader) (address : String) (generation : Nat) : Bool :=
  (system.clients.lookup address).any fun client => client.generation = generation

def retireClient (system : UrmaDownloader) (address : String) (generation : Nat) : UrmaDownloader :=
  { system with
    clients :=
      if system.isCurrent address generation then system.clients.erase address
      else system.clients }

def nextBackoff : Failure → Option ParentPenalty → Nat
  | .incompatible, _ => incompatibleParentTtl
  | .transport, some penalty => min (penalty.backoff * 2) unhealthyParentMaxBackoff
  | .transport, none => unhealthyParentMinBackoff

def recordFailure (system : UrmaDownloader) (address : String) (failure : Failure) :
    UrmaDownloader :=
  let backoff := nextBackoff failure (system.unhealthyParents address)
  { system with
    unhealthyParents := Function.update system.unhealthyParents address
      (some ⟨system.now + backoff, backoff⟩) }

def recordSuccess (system : UrmaDownloader) (address : String) : UrmaDownloader :=
  { system with unhealthyParents := Function.update system.unhealthyParents address none }

/-- Somebody besides the `fabric` state has a handle of the fabric. -/
def isHeld (system : UrmaDownloader) (fabric : Nat) : Bool :=
  system.elsewhere || system.clients.anyEntry (fun _ client => client.fabric = fabric) ||
    system.requests.any fun phase => phase.fabric = some fabric

/-- `shared.upgrade()`, when the `fabric` state has no handle. -/
def upgrade (system : UrmaDownloader) : Option Nat :=
  match system.nextFabric with
  | 0 => none
  | last + 1 => if system.isHeld last then some last else none

/-- `get_or_start_with_budget`, with the state that `fabric` makes of its result. -/
def getOrStart (system : UrmaDownloader) (starts : Bool) : Option Nat × FabricState × Nat :=
  let failure : Option Nat × FabricState × Nat := (none, .failed system.now, system.nextFabric)
  if starts then
    match system.upgrade with
    | some fabric =>
      if fabric ∈ system.failedFabrics then failure
      else (some fabric, .ready fabric, system.nextFabric)
    | none => (some system.nextFabric, .ready system.nextFabric, system.nextFabric + 1)
  else failure

/-- `fabric`: the fabric, `none` for an error, and what it leaves. -/
def takeFabric (system : UrmaDownloader) (starts : Bool) : Option Nat × FabricState × Nat :=
  match system.fabric with
  | .ready fabric =>
    if fabric ∈ system.failedFabrics then system.getOrStart starts
    else (some fabric, system.fabric, system.nextFabric)
  | .failed time =>
    if system.now - time < fabricRetryInterval then (none, system.fabric, system.nextFabric)
    else system.getOrStart starts
  | .uninitialized => system.getOrStart starts

def goTo (system : UrmaDownloader) (request : Nat) (phase : RequestPhase) : UrmaDownloader :=
  { system with requests := system.requests.set request phase }

/-- The lookup under the lock of the cache: what is found, and the cache that is left. -/
def lookUp (system : UrmaDownloader) (address : String) :
    Option CachedClient × Table String CachedClient :=
  match system.clients.lookup address with
  | some client =>
    if system.now - client.lastUsed < peerSessionIdleTimeout then
      (some client, system.clients.insert address { client with lastUsed := system.now })
    else (none, system.clients.erase address)
  | none => (none, system.clients)

def proceed (system : UrmaDownloader) (request : Nat) (input : StepInput) :
    RequestPhase → Option UrmaDownloader
  | .entering address =>
    let (gate, clientInitGates, nextGate) := system.clientInitGate address
    some ({ system with clientInitGates, nextGate }.goTo request (.waiting address gate))
  | .waiting address gate =>
    if system.isLocked gate then none else some (system.goTo request (.gated address gate))
  | .gated address gate =>
    some (system.goTo request
      (if system.checkParent address then .admitted address gate else .finished))
  | .admitted address gate =>
    let (found, clients) := system.lookUp address
    some ({ system with clients }.goTo request
      (match found with
        | some client => .cached address gate client.generation client.fabric
        | none => .building address gate))
  | .cached address gate generation fabric =>
    if fabric ∈ system.failedFabrics then
      some (system.goTo request (.renewing address gate generation fabric))
    else if generation ∈ system.failedTransfers then
      some (system.goTo request (.condemned address gate generation fabric))
    else if generation ∈ system.successfulTransfers then
      some ({ system.recordSuccess address with
        successfulTransfers := system.successfulTransfers.filter (· ≠ generation) }.goTo
          request (.requesting address generation fabric))
    else some (system.goTo request (.requesting address generation fabric))
  | .condemned address gate generation fabric =>
    some ((system.retireClient address generation).goTo request
      (.blaming address gate generation fabric))
  | .blaming address _ generation _ =>
    some ({ system.recordFailure address .transport with
      penalized := system.penalized ++ [generation] }.goTo request .finished)
  | .renewing address gate generation _ =>
    some ((system.retireClient address generation).goTo request (.building address gate))
  | .building address gate =>
    let (taken, fabric, nextFabric) := system.takeFabric input.starts
    some ({ system with fabric, nextFabric }.goTo request
      (match taken with
        | some fabric => .equipped address gate fabric
        | none => .finished))
  | .equipped address gate fabric =>
    match input.failure with
    | some failure => some ((system.recordFailure address failure).goTo request .finished)
    | none =>
      some ({ system with
        nextClientGeneration := system.nextClientGeneration + 1 }.goTo request
          (.numbered address gate fabric system.nextClientGeneration))
  | .numbered address _ fabric generation =>
    some ({ system with
      clients := system.clients.insert address ⟨system.now, generation, fabric⟩ }.goTo request
        (.requesting address generation fabric))
  | .requesting address generation fabric =>
    match input.failure with
    -- The piece is there, or the parent is busy.
    | none => some (system.goTo request .finished)
    | some failure =>
      if fabric ∈ system.failedFabrics then
        some (system.goTo request (.retiringFabric address generation fabric failure))
      else some (system.goTo request (.retiring address generation fabric false failure))
  | .retiringFabric address generation own failure =>
    match system.fabric with
    | .ready fabric =>
      if fabric ∈ system.failedFabrics then
        some ({ system with fabric := .uninitialized }.goTo request
          (.clearing address generation own failure))
      else some (system.goTo request (.retiring address generation own true failure))
    | .uninitialized | .failed _ =>
      some (system.goTo request (.retiring address generation own true failure))
  | .clearing address generation fabric failure =>
    some ({ system with clients := ∅ }.goTo request
      (.retiring address generation fabric true failure))
  | .retiring address generation fabric fabricFailed failure =>
    some ((system.retireClient address generation).goTo request
      (if system.isCurrent address generation || fabricFailed then
        .recording address generation fabric failure
      else .finished))
  | .recording address generation _ failure =>
    some ({ system.recordFailure address failure with
      penalized := system.penalized ++ [generation] }.goTo request .finished)
  | .finished => none

end UrmaDownloader

inductive ClientEvent where
  | begin (address : String)
  | proceed (request : Nat) (input : StepInput)
  | drop (request : Nat)
  -- Another owner gets a handle of the fabric, and the last of them is dropped.
  | share
  | release
  -- The fabric is poisoned; a background transfer of a client ends; time passes.
  | failFabric (fabric : Nat)
  | transferred (generation : Nat) (success : Bool)
  | tick (seconds : Nat)

namespace UrmaDownloader

def isAlive (system : UrmaDownloader) : Bool :=
  match system.fabric with
  | .ready _ => true
  | .uninitialized | .failed _ => system.upgrade.isSome

def act (system : UrmaDownloader) : ClientEvent → Option UrmaDownloader
  | .begin address =>
    if system.checkParent address then
      some { system with requests := system.requests ++ [.entering address] }
    else none
  | .proceed request input =>
    (system.requests[request]?).bind fun phase => system.proceed request input phase
  | .drop request => some (system.goTo request .finished)
  | .share =>
    some { system with
      elsewhere := true
      nextFabric := if system.isAlive then system.nextFabric else system.nextFabric + 1 }
  | .release => some { system with elsewhere := false }
  | .failFabric fabric => some { system with failedFabrics := fabric :: system.failedFabrics }
  | .transferred generation success =>
    some (if success then
      { system with successfulTransfers := generation :: system.successfulTransfers }
    else { system with failedTransfers := generation :: system.failedTransfers })
  | .tick seconds => some { system with now := system.now + seconds }

def Step (system : UrmaDownloader) (event : ClientEvent) (target : UrmaDownloader) : Prop :=
  system.act event = some target

end UrmaDownloader

end DragonflyClient.Resource
