import DragonflyClient.Util.DigestUrl
import DragonflyClient.Util.Url

/-!
The ids of tasks (`dragonfly-client-util/src/id_generator/mod.rs`).

An id is the hex text of the hash of some fields, fed one after the other with nothing between
them, or the encoded part of a digest that stands in a url.
-/

namespace DragonflyClient.Util

open Rendezvous

def hexEncode (bytes : List UInt8) : String := String.ofList (bytes.flatMap hexByte)

/-- `Sha256`, by the bytes it has been fed. -/
structure Hasher where
  fed : List UInt8

namespace Hasher

def new : Hasher := ⟨[]⟩

def update (hasher : Hasher) (bytes : List UInt8) : Hasher := ⟨hasher.fed ++ bytes⟩

/-- `if let Some(text) = text { hasher.update(text) }`. -/
def updateSome (hasher : Hasher) : Option String → Hasher
  | none => hasher
  | some text => hasher.update (utf8 text)

end Hasher

inductive TaskType where
  | standard
  | persistent
  | persistentCache

def TaskType.asStrName : TaskType → String
  | .standard => "STANDARD"
  | .persistent => "PERSISTENT"
  | .persistentCache => "PERSISTENT_CACHE"

structure UrlBased where
  url : String
  pieceLength : Option UInt64
  tag : Option String
  application : Option String
  filteredQueryParams : List String
  revision : Option String

inductive TaskIDParameter where
  | content (content : String)
  | urlBased (parameter : UrlBased)
  | blobDigestBased (url : String)
  | manifestDigestBased (url : String)

structure PersistentTaskIDParameter where
  url : String
  region : String
  endpoint : String

inductive FileRead where
  | bytes (bytes : List UInt8)
  | interrupted
  | failed (message : String)

/-- `PersistentCacheTaskIDParameter::FileContentBased`, with what opening and reading the file at
its path gives. -/
structure FileContentBased where
  file : ClientResult (List FileRead)
  pieceLength : Option UInt64
  tag : Option String
  application : Option String

inductive PersistentCacheTaskIDParameter where
  | content (content : String)
  | fileContentBased (parameter : FileContentBased)

/-- `piece_length.to_string()`. -/
def decimal (pieceLength : UInt64) : String := pieceLength.toNat.repr

/-- The read loop, to the end of the file. -/
def hashReads (hasher : Hasher) : List FileRead → ClientResult Hasher
  | [] => .ok hasher
  | .bytes bytes :: reads => hashReads (hasher.update bytes) reads
  | .interrupted :: reads => hashReads hasher reads
  | .failed message :: _ => .error (.io message)

section Ids

variable (urls : UrlLibrary) (sha256 : List UInt8 → List UInt8)

/-- `hex::encode(hasher.finalize())`. -/
def Hasher.finalizeHex (hasher : Hasher) : String := hexEncode (sha256 hasher.fed)

def taskId : TaskIDParameter → ClientResult String
  | .content content => .ok (hexEncode (sha256 (utf8 content)))
  | .urlBased parameter => do
      let finalUrl ← filterQueryParams urls parameter.url parameter.filteredQueryParams
      let hasher := Hasher.new.update (utf8 finalUrl)
      let hasher := hasher.updateSome parameter.tag
      let hasher := hasher.updateSome parameter.application
      let hasher := hasher.updateSome parameter.revision
      let hasher := hasher.updateSome (parameter.pieceLength.map decimal)
      let hasher := hasher.update (utf8 TaskType.standard.asStrName)
      .ok (hasher.finalizeHex sha256)
  | .blobDigestBased url =>
    match Digest.extractFromBlobUrl url with
    | none => .error (.invalidURI url)
    | some digest => .ok digest.encoded
  | .manifestDigestBased url =>
    match Digest.extractFromManifestUrl url with
    | none => .error (.invalidURI url)
    | some digest => .ok digest.encoded

def persistentTaskId (parameter : PersistentTaskIDParameter) : ClientResult String :=
  let hasher := Hasher.new.update (utf8 parameter.url)
  let hasher := hasher.update (utf8 parameter.region)
  let hasher := hasher.update (utf8 parameter.endpoint)
  let hasher := hasher.update (utf8 TaskType.persistent.asStrName)
  .ok (hasher.finalizeHex sha256)

def persistentCacheTaskId : PersistentCacheTaskIDParameter → ClientResult String
  | .content content => .ok (hexEncode (sha256 (utf8 content)))
  | .fileContentBased parameter => do
      let reads ← parameter.file
      let hasher ← hashReads Hasher.new reads
      let hasher := hasher.updateSome parameter.tag
      let hasher := hasher.updateSome parameter.application
      let hasher := hasher.updateSome (parameter.pieceLength.map decimal)
      let hasher := hasher.update (utf8 TaskType.persistentCache.asStrName)
      .ok (hasher.finalizeHex sha256)

end Ids

end DragonflyClient.Util
