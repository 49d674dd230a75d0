import DragonflyClient.Urma.TxAdmission
import DragonflyClient.Urma.Windowing

/-!
Window and lane sizes: `receive_depths` of `client/urma.rs`, `send_depths` of
`server/urma.rs` and `window_chunks_for_slots` of `urma/fabric.rs`.

Three independent settings and three limits of the device and the pool meet in a few
saturating products, divisions and clamps.  The results become the totals of the permit
semaphores and the bounds of the windows that later ask for permits.
-/

namespace DragonflyClient.Urma

open Library Rendezvous Server UInt32

def saturatingMul (left right : UInt32) : UInt32 :=
  ofNat (min (left.toNat * right.toNat) (2 ^ 32 - 1))

/-- `u32::try_from(value).unwrap_or(u32::MAX)`. -/
def saturatingU32 (value : Nat) : UInt32 :=
  ofNat (min value (2 ^ 32 - 1))

section Numbers

variable (left right : UInt32)

@[simp]
theorem toNat_saturatingU32 (value : Nat) : (saturatingU32 value).toNat = min value (2 ^ 32 - 1) :=
  toNat_ofNat_of_lt' (by simp [size])

@[simp]
theorem toNat_saturatingMul :
    (saturatingMul left right).toNat = min (left.toNat * right.toNat) (2 ^ 32 - 1) :=
  toNat_saturatingU32 _

@[simp]
theorem toNat_least : (min left right).toNat = min left.toNat right.toNat := by
  change (if left ≤ right then left else right).toNat = _
  rw [Nat.min_def]
  simp only [le_iff_toNat_le]
  split <;> rfl

@[simp]
theorem toNat_greatest : (max left right).toNat = max left.toNat right.toNat := by
  change (if left ≤ right then right else left).toNat = _
  rw [Nat.max_def]
  simp only [le_iff_toNat_le]
  split <;> rfl

end Numbers

structure ReceiveDepths where
  windowChunks : UInt32
  laneDepth : UInt32
  deriving DecidableEq, Repr

def receiveDepths (configuredWindowChunks pipelineDepth maxConcurrentTransfers
    nativeCapacity : UInt32) : ReceiveDepths :=
  let pipelineDepth := max pipelineDepth 1
  let nativeCapacity := max nativeCapacity 1
  let windowChunks :=
    min (max configuredWindowChunks 1) (max (nativeCapacity / pipelineDepth) 1)
  let desiredLaneDepth :=
    saturatingMul (saturatingMul windowChunks pipelineDepth) (max maxConcurrentTransfers 1)
  { windowChunks, laneDepth := max (min desiredLaneDepth nativeCapacity) windowChunks }

structure SendDepths where
  windowChunks : UInt32
  laneDepth : UInt32
  deriving DecidableEq, Repr

def sendDepths (configuredWindowChunks registeredWindowCapacity maxConcurrentTransfers
    nativeCapacity : UInt32) : SendDepths :=
  let nativeCapacity := max nativeCapacity 1
  let windowChunks :=
    min (min (max configuredWindowChunks 1) (max registeredWindowCapacity 1)) nativeCapacity
  { windowChunks
    laneDepth :=
      max (min (saturatingMul windowChunks (max maxConcurrentTransfers 1)) nativeCapacity)
        windowChunks }

def windowChunksForSlots (slots : Nat) (pipelineDepth : UInt32) : UInt32 :=
  saturatingU32 (max (slots / max pipelineDepth.toNat 1) 1)

structure ReceiveDepths.Bounded (depths : ReceiveDepths) (pipelineDepth nativeCapacity : UInt32) :
    Prop where
  some : 1 ≤ depths.windowChunks.toNat
  window : depths.windowChunks.toNat ≤ depths.laneDepth.toNat
  lane : depths.laneDepth.toNat ≤ max nativeCapacity.toNat 1
  pipeline : pipelineDepth.toNat ≤ nativeCapacity.toNat →
    depths.windowChunks.toNat * pipelineDepth.toNat ≤ depths.laneDepth.toNat

structure SendDepths.Bounded (depths : SendDepths)
    (registeredWindowCapacity nativeCapacity : UInt32) : Prop where
  some : 1 ≤ depths.windowChunks.toNat
  window : depths.windowChunks.toNat ≤ depths.laneDepth.toNat
  lane : depths.laneDepth.toNat ≤ max nativeCapacity.toNat 1
  registered : depths.windowChunks.toNat ≤ registeredWindowCapacity.toNat

/-- The product in the middle of `receive_depths`: no saturation reaches below one window for
each stage of the pipeline. -/
theorem le_desiredLaneDepth (transfers : Nat) {window depth capacity}
    (fits : window * depth ≤ capacity) (bounded : capacity < 2 ^ 32) :
    window * depth ≤ min (min (window * depth) (2 ^ 32 - 1) * max transfers 1) (2 ^ 32 - 1) := by
  have unsaturated : min (window * depth) (2 ^ 32 - 1) = window * depth := by omega
  rw [unsaturated, Nat.le_min]
  exact ⟨Nat.le_mul_of_pos_right _ (by omega), by omega⟩

theorem window_le_share (configured depth capacity : Nat) :
    min (max configured 1) (max (max capacity 1 / max depth 1) 1) ≤ max capacity 1 := by
  have share : max capacity 1 / max depth 1 ≤ max capacity 1 := Nat.div_le_self _ _
  omega

/-- One window for each stage of the pipeline fits into the native capacity. -/
theorem pipeline_le_capacity (configured : Nat) {depth capacity} (enough : depth ≤ capacity) :
    min (max configured 1) (max (max capacity 1 / max depth 1) 1) * max depth 1 ≤
      max capacity 1 := by
  have whole : 1 ≤ max capacity 1 / max depth 1 := Nat.div_pos (by omega) (by omega)
  calc
    _ ≤ max capacity 1 / max depth 1 * max depth 1 := Nat.mul_le_mul_right _ (by omega)
    _ ≤ max capacity 1 := Nat.div_mul_le_self _ _

theorem receiveDepths_bounded
    (configuredWindowChunks pipelineDepth maxConcurrentTransfers nativeCapacity : UInt32) :
    (receiveDepths configuredWindowChunks pipelineDepth maxConcurrentTransfers
      nativeCapacity).Bounded pipelineDepth nativeCapacity := by
  have small := nativeCapacity.toNat_lt
  constructor
  case some => simp [receiveDepths]
  case window => simp [receiveDepths]
  case lane =>
    have share := window_le_share configuredWindowChunks.toNat pipelineDepth.toNat
      nativeCapacity.toNat
    simp only [receiveDepths, toNat_greatest, toNat_least, toNat_saturatingMul, UInt32.toNat_div,
      UInt32.toNat_one]
    omega
  case pipeline =>
    intro enough
    have fits := pipeline_le_capacity configuredWindowChunks.toNat enough
    have desired := le_desiredLaneDepth maxConcurrentTransfers.toNat fits (by omega)
    simp only [receiveDepths, toNat_greatest, toNat_least, toNat_saturatingMul, UInt32.toNat_div,
      UInt32.toNat_one]
    calc
      _ ≤ _ * max pipelineDepth.toNat 1 := Nat.mul_le_mul_left _ (Nat.le_max_left _ _)
      _ ≤ _ := Nat.le_min.mpr ⟨desired, fits⟩
      _ ≤ _ := Nat.le_max_left _ _

theorem windowChunksForSlots_pos (slots : Nat) (pipelineDepth : UInt32) :
    1 ≤ (windowChunksForSlots slots pipelineDepth).toNat := by
  simp [windowChunksForSlots]

theorem sendDepths_bounded (configuredWindowChunks maxConcurrentTransfers nativeCapacity : UInt32)
    (slots : Nat) (pipelineDepth : UInt32) :
    (sendDepths configuredWindowChunks (windowChunksForSlots slots pipelineDepth)
      maxConcurrentTransfers nativeCapacity).Bounded
      (windowChunksForSlots slots pipelineDepth) nativeCapacity := by
  have some := windowChunksForSlots_pos slots pipelineDepth
  generalize windowChunksForSlots slots pipelineDepth = registered at some ⊢
  constructor
  all_goals
    simp only [sendDepths, toNat_greatest, toNat_least, toNat_saturatingMul, toNat_one]
    omega

/-- A fabric that has started, with the limits its handle reports. -/
structure UrmaFabricHandle where
  runtimeConfig : RuntimeConfig
  capability : UrmaDeviceCapability
  poolId : Nat
  fabric : Fabric
  maxJfrDepth : UInt32
  maxJfsDepth : UInt32
  started : Fabric.start runtimeConfig capability poolId = .ok fabric
  jfrDepth : capability.maxJfrDepth = maxJfrDepth.toNat
  jfsDepth : capability.maxJfsDepth = maxJfsDepth.toNat

namespace UrmaFabricHandle

def maxTxWindowChunks (handle : UrmaFabricHandle) (pipelineDepth : UInt32) : UInt32 :=
  windowChunksForSlots handle.runtimeConfig.bufferPool.txSlotCount pipelineDepth

def maxNativeReceiveDepth (handle : UrmaFabricHandle) : UInt32 :=
  min handle.maxJfrDepth (saturatingU32 handle.runtimeConfig.bufferPool.rxSlotCount)

def maxNativeSendDepth (handle : UrmaFabricHandle) : UInt32 :=
  min handle.maxJfsDepth (saturatingU32 handle.runtimeConfig.bufferPool.txSlotCount)

/-- The permits of `tx_slot_admission`, and at least one: an empty pool does not start. -/
theorem txSlotAdmission (handle : UrmaFabricHandle) :
    handle.fabric.txSlotAdmission = handle.runtimeConfig.bufferPool.txSlotCount ∧
      1 ≤ handle.runtimeConfig.bufferPool.txSlotCount := by
  have started := handle.started
  unfold Fabric.start at started
  split at started
  · cases started
  next runtime begun =>
    obtain ⟨totalLen, router, checked, -⟩ := UrmaRuntime.of_start_ok begun
    exact ⟨by rw [← Except.ok.inj started], (BufferPoolConfig.of_totalLen_ok checked).tx⟩

end UrmaFabricHandle

/-- The settings of `storage.server.urma` that sizes are computed from. -/
structure UrmaSettings where
  maxInflightChunks : UInt32
  pipelineDepth : UInt32
  maxConcurrentTransfers : UInt32
  deriving DecidableEq, Repr

namespace UrmaSettings

variable (settings : UrmaSettings) (handle : UrmaFabricHandle)

def clientDepths : ReceiveDepths :=
  receiveDepths settings.maxInflightChunks settings.pipelineDepth settings.maxConcurrentTransfers
    handle.maxNativeReceiveDepth

def serverDepths : SendDepths :=
  sendDepths settings.maxInflightChunks (handle.maxTxWindowChunks settings.pipelineDepth)
    settings.maxConcurrentTransfers handle.maxNativeSendDepth

def receivePermits : Nat := (settings.clientDepths handle).laneDepth.toNat

def sendPermits : Nat := (settings.serverDepths handle).laneDepth.toNat

/-- A window for which `fill_receive_pipeline` asks for permits: the lane was opened with the
client's depths, and request and metadata passed its checks. -/
inductive Receives (window : ReceiveWindow) : Prop where
  | window {localCapability remoteCapability lane request metadata shape startChunk}
      (connected : ClientLane.connect localCapability remoteCapability
        (settings.clientDepths handle).laneDepth (settings.clientDepths handle).windowChunks =
          .ok lane) (requested : lane.checkRequest request = .ok ())
      (negotiated : lane.negotiate request metadata = .ok shape)
      (opened : shape.window startChunk = .ok window) : Receives window

inductive Sends (window : ReceiveWindow) : Prop where
  | window {localCapability peer lane request metadata shape nextChunk}
      (accepted : ServerLane.accept localCapability peer
        (settings.serverDepths handle).laneDepth (settings.serverDepths handle).windowChunks =
          .ok lane) (requested : lane.checkRequest request = .ok ())
      (negotiated : lane.negotiate request metadata = .ok shape)
      (opened : shape.window nextChunk = .ok window) : Sends window

/-- The chunk lengths for which `handle_piece` asks for TX slots. -/
inductive Acquires (lengths : List Nat) : Prop where
  | window {request maxMessageSize chunkSize maxInflightChunks pieceLength pieceOffset}
      (negotiated : negotiateTransfer request maxMessageSize
        (settings.serverDepths handle).windowChunks = .ok (chunkSize, maxInflightChunks))
      (cut : txWindowChunkLengths pieceLength chunkSize maxInflightChunks pieceOffset =
        .ok lengths) : Acquires lengths

end UrmaSettings

namespace TransferShape

theorem inflight_of_negotiate_ok {request metadata maxMessageSize maxInflightChunks shape}
    (negotiated : negotiate request metadata maxMessageSize maxInflightChunks = .ok shape) :
    shape.metadata.maxInflightChunks.toNat ≤ maxInflightChunks.toNat := by
  unfold negotiate at negotiated
  split at negotiated
  · cases negotiated
  next accepted =>
    rw [← Except.ok.inj negotiated]
    simp only [refused, Bool.or_eq_true, decide_eq_true_eq, not_or] at accepted
    exact not_lt.mp accepted.2

theorem chunkCount_of_window_ok {shape : TransferShape} {startChunk window}
    (opened : shape.window startChunk = .ok window) :
    window.chunkCount.toNat ≤ shape.metadata.maxInflightChunks.toNat := by
  unfold TransferShape.window at opened
  split at opened
  · cases opened
  · rw [← Except.ok.inj opened, UInt64.toNat_toUInt32, toNat_min, toNat_toUInt64]
    exact (Nat.mod_le _ _).trans (Nat.min_le_right _ _)

end TransferShape

theorem ClientLane.inflight_of_connect_ok
    {localCapability remoteCapability recvDepth maxReceiveInflight lane}
    (connected : connect localCapability remoteCapability recvDepth maxReceiveInflight = .ok lane) :
    lane.maxReceiveInflight = maxReceiveInflight := by
  unfold connect at connected
  split at connected
  · cases connected
  split at connected
  · cases connected
  · rw [← Except.ok.inj connected]

theorem ServerLane.inflight_of_accept_ok {localCapability peer sendDepth maxSendInflight lane}
    (accepted : accept localCapability peer sendDepth maxSendInflight = .ok lane) :
    lane.maxSendInflight = maxSendInflight := by
  unfold accept at accepted
  split at accepted
  · cases accepted
  split at accepted
  · cases accepted
  · rw [← Except.ok.inj accepted]

theorem inflight_of_negotiateTransfer_ok
    {request maxMessageSize chunkSize sendDepth maxInflightChunks}
    (negotiated : negotiateTransfer request maxMessageSize sendDepth =
      .ok (chunkSize, maxInflightChunks)) : maxInflightChunks.toNat ≤ sendDepth.toNat := by
  simp only [negotiateTransfer] at negotiated
  split at negotiated
  · cases negotiated
  · rw [← (Prod.mk.inj (Except.ok.inj negotiated)).2, toNat_least]
    exact Nat.min_le_right _ _

theorem length_of_txWindowChunkLengths_ok
    {pieceLength chunkSize pieceOffset maxInflightChunks lengths}
    (cut : txWindowChunkLengths pieceLength chunkSize maxInflightChunks pieceOffset = .ok lengths) :
    lengths.length ≤ maxInflightChunks.toNat := by
  unfold txWindowChunkLengths at cut
  split at cut
  · cases cut
  · have counted := (collect_eq_ok.mp cut).length_eq
    rw [List.length_range, toNat_min, toNat_toUInt64] at counted
    rw [← counted]
    exact Nat.min_le_right _ _

namespace UrmaSettings

variable {settings : UrmaSettings} {handle : UrmaFabricHandle}

theorem clientDepths_bounded (settings : UrmaSettings) (handle : UrmaFabricHandle) :
    (settings.clientDepths handle).Bounded settings.pipelineDepth handle.maxNativeReceiveDepth :=
  receiveDepths_bounded _ _ _ _

theorem serverDepths_bounded (settings : UrmaSettings) (handle : UrmaFabricHandle) :
    (settings.serverDepths handle).Bounded (handle.maxTxWindowChunks settings.pipelineDepth)
      handle.maxNativeSendDepth :=
  sendDepths_bounded _ _ _ _ _

theorem Receives.fits {window : ReceiveWindow} (receives : settings.Receives handle window) :
    window.chunkCount.toNat ≤ settings.receivePermits handle := by
  cases receives with
  | window connected _ negotiated opened =>
    calc window.chunkCount.toNat
        ≤ _ := TransferShape.chunkCount_of_window_ok opened
      _ ≤ _ := TransferShape.inflight_of_negotiate_ok negotiated
      _ ≤ (settings.clientDepths handle).windowChunks.toNat := by
          rw [ClientLane.inflight_of_connect_ok connected]
      _ ≤ settings.receivePermits handle := (settings.clientDepths_bounded handle).window

theorem Sends.fits {window : ReceiveWindow} (sends : settings.Sends handle window) :
    window.chunkCount.toNat ≤ settings.sendPermits handle := by
  cases sends with
  | window accepted _ negotiated opened =>
    calc window.chunkCount.toNat
        ≤ _ := TransferShape.chunkCount_of_window_ok opened
      _ ≤ _ := TransferShape.inflight_of_negotiate_ok negotiated
      _ ≤ (settings.serverDepths handle).windowChunks.toNat := by
          rw [ServerLane.inflight_of_accept_ok accepted]
      _ ≤ settings.sendPermits handle := (settings.serverDepths_bounded handle).window

theorem Acquires.length_le {lengths} (acquires : settings.Acquires handle lengths) :
    lengths.length ≤ (settings.serverDepths handle).windowChunks.toNat := by
  cases acquires with
  | window negotiated cut =>
    exact (length_of_txWindowChunkLengths_ok cut).trans
      (inflight_of_negotiateTransfer_ok negotiated)

theorem Acquires.fits {lengths} (acquires : settings.Acquires handle lengths) :
    lengths.length ≤ handle.fabric.txSlotAdmission := by
  obtain ⟨permits, some⟩ := handle.txSlotAdmission
  have bounded := settings.serverDepths_bounded handle
  have native : handle.maxNativeSendDepth.toNat ≤ handle.runtimeConfig.bufferPool.txSlotCount := by
    simp only [UrmaFabricHandle.maxNativeSendDepth, toNat_least, toNat_saturatingU32]
    omega
  calc lengths.length
      ≤ (settings.serverDepths handle).windowChunks.toNat := acquires.length_le
    _ ≤ (settings.serverDepths handle).laneDepth.toNat := bounded.window
    _ ≤ max handle.maxNativeSendDepth.toNat 1 := bounded.lane
    _ ≤ handle.fabric.txSlotAdmission := by omega

/-- With two stages or more, a window takes at most half of the pool. -/
theorem windowChunks_le_half (staged : 2 ≤ settings.pipelineDepth.toNat)
    (enough : settings.pipelineDepth.toNat ≤ handle.runtimeConfig.bufferPool.txSlotCount) :
    2 * (settings.serverDepths handle).windowChunks.toNat ≤
      handle.runtimeConfig.bufferPool.txSlotCount := by
  have registered := (settings.serverDepths_bounded handle).registered
  have half : handle.runtimeConfig.bufferPool.txSlotCount / settings.pipelineDepth.toNat ≤
      handle.runtimeConfig.bufferPool.txSlotCount / 2 :=
    Nat.div_le_div_left staged (by omega)
  simp only [UrmaFabricHandle.maxTxWindowChunks, windowChunksForSlots, toNat_saturatingU32,
    Nat.max_eq_left (show 1 ≤ settings.pipelineDepth.toNat by omega)] at registered
  omega

/-- Sizes never over-commit: the depths keep their bounds for all settings and limits, no single
window asks for more permits or slots than exist, and with a pipeline of two stages or more, two
TX windows fit into a pool that has a slot for each stage. -/
theorem sizing_fits :
    (∀ configured pipelineDepth transfers native : UInt32,
      (receiveDepths configured pipelineDepth transfers native).Bounded pipelineDepth native) ∧
    (∀ (configured pipelineDepth transfers native : UInt32) (slots : Nat),
      (sendDepths configured (windowChunksForSlots slots pipelineDepth) transfers native).Bounded
        (windowChunksForSlots slots pipelineDepth) native) ∧
    ∀ (settings : UrmaSettings) (handle : UrmaFabricHandle),
      (∀ window, settings.Receives handle window →
        window.chunkCount.toNat ≤ settings.receivePermits handle) ∧
      (∀ window, settings.Sends handle window →
        window.chunkCount.toNat ≤ settings.sendPermits handle) ∧
      (∀ lengths, settings.Acquires handle lengths →
        lengths.length ≤ handle.fabric.txSlotAdmission) ∧
      (2 ≤ settings.pipelineDepth.toNat →
        settings.pipelineDepth.toNat ≤ handle.runtimeConfig.bufferPool.txSlotCount →
        ∀ first second, settings.Acquires handle first → settings.Acquires handle second →
          first.length + second.length ≤ handle.fabric.txSlotAdmission) := by
  refine ⟨receiveDepths_bounded, fun configured pipelineDepth transfers native slots =>
    sendDepths_bounded configured transfers native slots pipelineDepth, ?_⟩
  intro settings handle
  refine ⟨fun window => Receives.fits, fun window => Sends.fits, fun lengths => Acquires.fits, ?_⟩
  intro staged enough first second acquiresFirst acquiresSecond
  have half := windowChunks_le_half staged enough
  have inFirst := acquiresFirst.length_le
  have inSecond := acquiresSecond.length_le
  rw [handle.txSlotAdmission.1]
  omega

end UrmaSettings

/-- The handle of a fabric with one TX slot. -/
def Small.fabricHandle : UrmaFabricHandle where
  runtimeConfig := Small.config
  capability := Small.capability
  poolId := 0
  fabric := Small.fabric
  maxJfrDepth := 4
  maxJfsDepth := 4
  started := rfl
  jfrDepth := rfl
  jfsDepth := rfl

/-- With one stage a window may take the whole pool, and a second one does not fit. -/
theorem UrmaSettings.single_stage_takes_pool :
    ∃ settings : UrmaSettings, settings.pipelineDepth = 1 ∧
      settings.pipelineDepth.toNat ≤ Small.fabricHandle.runtimeConfig.bufferPool.txSlotCount ∧
      settings.Acquires Small.fabricHandle [8] ∧
      ¬ [8].length + [8].length ≤ Small.fabricHandle.fabric.txSlotAdmission := by
  let request : PieceRequest :=
    { kind := .piece, taskId := "task", pieceNumber := 0, chunkSize := 8, maxInflightChunks := 1 }
  have negotiated : negotiateTransfer request 8 1 = .ok (8, 1) := by decide
  have cut : txWindowChunkLengths 16 8 1 0 = .ok [8] := by decide
  exact ⟨⟨1, 1, 1⟩, rfl, by decide, .window negotiated cut, by decide⟩

end DragonflyClient.Urma
