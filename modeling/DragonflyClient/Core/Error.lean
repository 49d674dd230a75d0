import Mathlib.Data.List.Basic

/-!
The client-wide error type (`dragonfly-client-core/src/error/mod.rs`), as far as
the modelled functions return it.
-/

namespace DragonflyClient

inductive DFError where
  | io (message : String)
  | mpscSend (message : String)
  | sendTimeout
  | taskNotFound (id : String)
  | pieceNotFound (id : String)
  | downloadPieceFinishedTimeout (id : String)
  | digestMismatch (expected actual : String)
  | invalidPeer (id : String)
  | invalidState (state : String)
  | invalidURI (uri : String)
  | unexpectedResponse
  | invalidContentLength
  | invalidPieceLength
  | invalidParameter
  | validationError (message : String)
  | unknown (message : String)
  | backendError (message : String)
  | tonicStatus (message : String)
  | downloadFromParentFailed (pieceNumber : UInt32) (parentId : String)
  | externalError (type cause : String)
  deriving DecidableEq, Repr

abbrev ClientResult (Value : Type) := Except DFError Value

/-- The `#[error(..)]` texts. -/
def DFError.display : DFError → String
  | .io message => message
  | .mpscSend message => s!"mpsc send: {message}"
  | .sendTimeout => "send timeout"
  | .taskNotFound id => s!"task {id} not found"
  | .pieceNotFound id => s!"piece {id} not found"
  | .downloadPieceFinishedTimeout id => s!"download piece {id} finished timeout"
  | .digestMismatch expected actual =>
    s!"digest mismatch expected: {expected}, actual: {actual}"
  | .invalidPeer id => s!"invalid peer {id}"
  | .invalidState state => s!"invalid state {state}"
  | .invalidURI uri => s!"invalid uri {uri}"
  | .unexpectedResponse => "unexpected response"
  | .invalidContentLength => "invalid content length"
  | .invalidPieceLength => "invalid piece length"
  | .invalidParameter => "invalid parameter"
  | .validationError message => s!"validate failed: {message}"
  | .unknown message => s!"unknown {message}"
  | .backendError message => s!"backend error: {message}"
  | .tonicStatus message => message
  | .downloadFromParentFailed pieceNumber parentId =>
    s!"download piece {pieceNumber} from parent {parentId} failed"
  | .externalError type cause => s!"{type} cause: {cause}"

end DragonflyClient
