import Mathlib.Data.List.Basic

/-!
Errors of the URMA transport (`urma/error.rs`) and of its native boundary
(`urma/ffi/mod.rs`).

`panicked` is not an error of the source: it marks the branches where the
source calls `expect`, so that their unreachability can be stated.
-/

namespace DragonflyClient.Urma

inductive FfiError where
  | contract (detail : String)
  | nullHandle
  | status (code : Int)
  deriving DecidableEq, Repr

inductive NativeFailure where
  | contract (detail : String)
  | missingHandle
  | status (code : Int)
  deriving DecidableEq, Repr

inductive Error where
  | alreadyInitialized
  | invalidConfiguration (detail : String)
  | protocol (detail : String)
  | peerRejected (code : UInt32) (message : String)
  | controlTimeout (operation : String)
  | operationTimeout (sequence : Option UInt64)
  | bufferUnavailable (kind : String) (requested available : Nat)
  | completion (status : Int) (opcode : UInt32) (userCtx : UInt64)
      (sequence postCall : Option UInt64)
  | startupRollback (primary : Error) (cleanupFailures : List String)
  | shutdown (failures : List String)
  | native (operation : String) (failure : NativeFailure)
  | panicked (message : String)
  deriving DecidableEq, Repr

abbrev Result (α : Type) := Except Error α

def nativeError (operation : String) : FfiError → Error
  | .contract detail => .native operation (.contract detail)
  | .nullHandle => .native operation .missingHandle
  | .status code => .native operation (.status code)

/-- Rust's `{:?}` of an optional integer. -/
def debugOption : Option UInt64 → String
  | none => "None"
  | some value => s!"Some({value})"

def statusName : Int → String
  | 0 => "SUCCESS"
  | 1 => "UNSUPPORTED_OPCODE_ERR"
  | 2 => "LOC_LEN_ERR"
  | 3 => "LOC_OPERATION_ERR"
  | 4 => "LOC_ACCESS_ERR"
  | 5 => "REM_RESP_LEN_ERR"
  | 6 => "REM_UNSUPPORTED_REQ_ERR"
  | 7 => "REM_OPERATION_ERR"
  | 8 => "REM_ACCESS_ABORT_ERR"
  | 9 => "ACK_TIMEOUT_ERR"
  | 10 => "RNR_RETRY_CNT_EXC_ERR"
  | 11 => "WR_FLUSH_ERR"
  | 12 => "WR_SUSPEND_DONE"
  | 13 => "WR_FLUSH_ERR_DONE"
  | 14 => "WR_UNHANDLED"
  | 15 => "LOC_DATA_POISON"
  | 16 => "REM_DATA_POISON"
  | _ => "UNKNOWN"

def Error.display : Error → String
  | .alreadyInitialized => "an URMA runtime already owns process-global liburma"
  | .invalidConfiguration detail => s!"invalid configuration: {detail}"
  | .protocol detail => s!"protocol error: {detail}"
  | .peerRejected code message =>
    s!"URMA peer rejected request: code={code} message={message}"
  | .controlTimeout operation => s!"URMA control operation timed out: {operation}"
  | .operationTimeout sequence =>
    s!"URMA operation timed out: sequence={debugOption sequence}"
  | .bufferUnavailable kind requested available =>
    s!"URMA {kind} buffer unavailable: requested={requested} available={available}"
  | .completion status opcode userCtx sequence postCall =>
    s!"completion failed: status={status}({statusName status}), opcode={opcode}, user_ctx={userCtx}, sequence={debugOption sequence}, post_call={debugOption postCall}"
  | .startupRollback primary cleanupFailures =>
    let joined := String.intercalate "; " cleanupFailures
    s!"startup failed: {primary.display}; rollback failures: {joined}"
  | .shutdown failures =>
    let joined := String.intercalate "; " failures
    s!"shutdown failures: {joined}"
  | .native operation (.contract detail) =>
    s!"FFI contract violation during {operation}: {detail}"
  | .native operation .missingHandle =>
    s!"native operation {operation} succeeded without returning a handle"
  | .native operation (.status code) =>
    s!"liburma operation {operation} failed with status {code}"
  | .panicked message => message

/-- `matches!(error, Error::Completion { .. })`. -/
def Error.isCompletion : Error → Bool
  | .completion .. => true
  | _ => false

end DragonflyClient.Urma
