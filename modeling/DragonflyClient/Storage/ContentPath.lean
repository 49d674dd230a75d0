import DragonflyClient.Util.TaskId

/-!
Where the content of a task is stored (`get_task_path` of `content_linux.rs`), and what an id that
comes from a url does to that path.
-/

namespace DragonflyClient.Storage

open Util List Digest

/-- `&text[..bytes]`, which panics past the end and inside a character. -/
def sliceTo : List Char → Nat → Option (List Char)
  | _, 0 => some []
  | [], _ + 1 => none
  | char :: text, bytes + 1 =>
    if char.utf8Size ≤ bytes + 1 then (sliceTo text (bytes + 1 - char.utf8Size)).map (char :: ·)
    else none

/-- `PathBuf::join`: an absolute path replaces the one before it. -/
def joinPath (base part : List Char) : List Char :=
  if part.head? = some '/' then part
  else if base = [] ∨ base.getLast? = some '/' then base ++ part
  else base ++ '/' :: part

def defaultTaskDir : List Char := "tasks".toList

/-- `get_task_path`; no path is a panic. -/
def getTaskPath (dir : List Char) (taskId : String) : Option (List Char) :=
  (sliceTo taskId.toList 3).map fun subDir =>
    joinPath (joinPath (joinPath dir defaultTaskDir) subDir) taskId.toList

/-- A name in a directory: it neither leaves the directory nor starts again at the root. -/
structure Component (part : List Char) : Prop where
  nonempty : part ≠ []
  noSlash : '/' ∉ part
  notCurrent : part ≠ ['.']
  notParent : part ≠ ['.', '.']

def Inside (dir path : List Char) : Prop :=
  ∃ parts : List (List Char), (∀ part ∈ parts, Component part) ∧ path = parts.foldl joinPath dir

def isHexDigit (char : Char) : Bool :=
  char.isDigit || ('a' ≤ char && char ≤ 'f') || ('A' ≤ char && char ≤ 'F')

structure SafeId (id : String) : Prop where
  long : 3 ≤ id.toList.length
  hex : ∀ char ∈ id.toList, isHexDigit char = true

structure HexDigest (digest : Digest) : Prop where
  hex : ∀ char ∈ digest.encoded.toList, isHexDigit char = true
  long : digest.algorithm = .crc32 → 3 ≤ digest.encoded.toList.length

section HexTexts

variable {text : List Char}

theorem le_of_isHexDigit {char} (hex : isHexDigit char = true) : char.val ≤ 0x7f := by
  simp only [isHexDigit, Char.isDigit, Bool.or_eq_true, Bool.and_eq_true, decide_eq_true_eq,
    Char.le_def, ge_iff_le] at hex
  rcases hex with (⟨-, digit⟩ | ⟨-, lower⟩) | ⟨-, upper⟩
  · exact UInt32.le_trans digit (by decide)
  · exact UInt32.le_trans lower (by decide)
  · exact UInt32.le_trans upper (by decide)

theorem utf8Size_of_isHexDigit {char} (hex : isHexDigit char = true) : char.utf8Size = 1 :=
  if_pos (le_of_isHexDigit hex)

theorem byteLength_of_hex (hex : ∀ char ∈ text, isHexDigit char = true) :
    byteLength text = text.length := by
  induction text with
  | nil => rfl
  | cons char text ih =>
    obtain ⟨first, rest⟩ := forall_mem_cons.mp hex
    have tail := ih rest
    simp only [byteLength, map_cons, sum_cons, length_cons] at tail ⊢
    rw [utf8Size_of_isHexDigit first, tail, Nat.add_comm]

theorem sliceTo_of_hex {bytes} (hex : ∀ char ∈ text, isHexDigit char = true)
    (long : bytes ≤ text.length) : sliceTo text bytes = some (text.take bytes) := by
  induction text generalizing bytes with
  | nil =>
    obtain rfl := Nat.le_zero.mp long
    rfl
  | cons char text ih =>
    obtain ⟨first, rest⟩ := forall_mem_cons.mp hex
    cases bytes with
    | zero => rfl
    | succ bytes =>
      have tail := ih rest (Nat.le_of_succ_le_succ long)
      simp [sliceTo, utf8Size_of_isHexDigit first, tail]

theorem component_of_hex (nonempty : text ≠ []) (hex : ∀ char ∈ text, isHexDigit char = true) :
    Component text where
  nonempty := nonempty
  noSlash slash := by cases hex '/' slash
  notCurrent dot := by cases hex '.' (dot ▸ mem_cons_self)
  notParent dots := by cases hex '.' (dots ▸ mem_cons_self)

end HexTexts

theorem component_defaultTaskDir : Component defaultTaskDir where
  nonempty := by decide
  noSlash := by decide
  notCurrent := by decide
  notParent := by decide

theorem getTaskPath_of_safe {id} (dir : List Char) (safe : SafeId id) :
    ∃ path, getTaskPath dir id = some path ∧ Inside dir path := by
  have sliced := sliceTo_of_hex safe.hex safe.long
  refine ⟨_, by rw [getTaskPath, sliced]; rfl,
    [defaultTaskDir, id.toList.take 3, id.toList], ?_, rfl⟩
  have nonempty : id.toList ≠ [] := by
    apply ne_nil_of_length_pos
    have long := safe.long
    omega
  have subDir : Component (id.toList.take 3) := by
    apply component_of_hex
    · simpa using nonempty
    · intro char taken
      exact safe.hex char (mem_of_mem_take taken)
  simp only [forall_mem_cons]
  exact ⟨component_defaultTaskDir, subDir, component_of_hex nonempty safe.hex, by simp⟩

section Urls

variable {reference : List Char} {digest : Digest}

theorem byteLength_of_fromStr (parsed : fromStr reference = .ok digest) :
    match digest.algorithm with
    | .crc32 => 0 < byteLength digest.encoded.toList
    | .sha256 => byteLength digest.encoded.toList = 64
    | .sha512 => byteLength digest.encoded.toList = 128 := by
  rw [fromStr] at parsed
  split at parsed
  next => cases parsed
  next algorithm encoded separated =>
    split at parsed
    next isCrc32 =>
      split at parsed
      next => cases parsed
      next nonempty =>
        cases parsed
        obtain ⟨char, rest, rfl⟩ := exists_cons_of_ne_nil nonempty
        simp only [String.toList_ofList, byteLength, map_cons, sum_cons]
        exact Nat.add_pos_left char.utf8Size_pos _
    next =>
      split at parsed
      next isSha256 =>
        split at parsed
        next => cases parsed
        next width =>
          cases parsed
          simpa using width
      next =>
        split at parsed
        next isSha512 =>
          split at parsed
          next => cases parsed
          next width =>
            cases parsed
            simpa using width
        next => cases parsed

theorem safeId_of_hexDigest (parsed : fromStr reference = .ok digest)
    (hexDigest : HexDigest digest) : SafeId digest.encoded := by
  refine ⟨?_, hexDigest.hex⟩
  have width := byteLength_of_fromStr parsed
  rw [byteLength_of_hex hexDigest.hex] at width
  cases algorithm : digest.algorithm with
  | crc32 => exact hexDigest.long algorithm
  | sha256 =>
    simp only [algorithm] at width
    omega
  | sha512 =>
    simp only [algorithm] at width
    omega

/-- Every id that the id function gives is safe, and its path stays in the directory. -/
def SafelyPlaced (dir : List Char) (result : ClientResult String) : Prop :=
  ∀ id, result = .ok id → SafeId id ∧ ∃ path, getTaskPath dir id = some path ∧ Inside dir path

theorem safelyPlaced_iff {kind url result} (dir : List Char)
    (given : ∀ id, result = .ok id ↔ ∃ digest,
      extract (referenceUrl kind) url = some digest ∧ digest.encoded = id) :
    SafelyPlaced dir result ↔
      ∀ digest, extract (referenceUrl kind) url = some digest → HexDigest digest := by
  constructor
  · intro placed digest extracted
    obtain ⟨safe, -⟩ := placed digest.encoded ((given _).mpr ⟨digest, extracted, rfl⟩)
    exact ⟨safe.hex, fun _ => safe.long⟩
  · intro hexDigests id isId
    obtain ⟨digest, extracted, rfl⟩ := (given id).mp isId
    obtain ⟨reference, -, parsed⟩ := extract_eq_some extracted
    have safe := safeId_of_hexDigest parsed (hexDigests digest extracted)
    exact ⟨safe, getTaskPath_of_safe dir safe⟩

theorem taskId_blobDigestBased (urls : UrlLibrary) (sha256 : List UInt8 → List UInt8)
    (url id : String) : taskId urls sha256 (.blobDigestBased url) = .ok id ↔
      ∃ digest, extract blobUrlRegex url = some digest ∧ digest.encoded = id := by
  rw [taskId, extractFromBlobUrl]
  cases extract blobUrlRegex url <;> simp

theorem taskId_manifestDigestBased (urls : UrlLibrary) (sha256 : List UInt8 → List UInt8)
    (url id : String) : taskId urls sha256 (.manifestDigestBased url) = .ok id ↔
      ∃ digest, extract manifestUrlRegex url = some digest ∧ digest.encoded = id := by
  rw [taskId, extractFromManifestUrl]
  cases extract manifestUrlRegex url <;> simp

/-- The id of a blob or manifest url is a safe name, and its path stays in the content directory,
exactly when the digest in the url is written in hex digits and, for CRC-32, has three of them:
neither is checked. -/
theorem digest_ids_safe_iff (urls : UrlLibrary) (sha256 : List UInt8 → List UInt8)
    (dir : List Char) (url : String) :
    (SafelyPlaced dir (taskId urls sha256 (.blobDigestBased url)) ↔
      ∀ digest, extractFromBlobUrl url = some digest → HexDigest digest) ∧
    (SafelyPlaced dir (taskId urls sha256 (.manifestDigestBased url)) ↔
      ∀ digest, extractFromManifestUrl url = some digest → HexDigest digest) :=
  ⟨safelyPlaced_iff dir (taskId_blobDigestBased urls sha256 url),
    safelyPlaced_iff dir (taskId_manifestDigestBased urls sha256 url)⟩

/-- One digit, whose path is a panic; an absolute path, and one upwards, which leave the
directory. -/
theorem digest_ids_unsafe :
    (fun urls sha256 => taskId urls sha256 (.blobDigestBased "https://r/v2/x/blobs/crc32:a")) =
      (fun _ _ => .ok "a") ∧
    getTaskPath "/data".toList "a" = none ∧
    (fun urls sha256 => taskId urls sha256
        (.manifestDigestBased "https://r/v2/x/manifests/crc32:/etc/passwd")) =
      (fun _ _ => .ok "/etc/passwd") ∧
    getTaskPath "/data".toList "/etc/passwd" = some "/etc/passwd".toList ∧
    (fun urls sha256 => taskId urls sha256
        (.blobDigestBased "https://r/v2/x/blobs/crc32:../../up")) =
      (fun _ _ => .ok "../../up") ∧
    getTaskPath "/data".toList "../../up" = some "/data/tasks/../../../up".toList := by
  refine ⟨?_, by decide, ?_, by decide, ?_, by decide⟩
  · funext urls sha256
    exact (taskId_blobDigestBased ..).mpr ⟨⟨.crc32, "a"⟩, by decide, rfl⟩
  · funext urls sha256
    exact (taskId_manifestDigestBased ..).mpr ⟨⟨.crc32, "/etc/passwd"⟩, by decide, rfl⟩
  · funext urls sha256
    exact (taskId_blobDigestBased ..).mpr ⟨⟨.crc32, "../../up"⟩, by decide, rfl⟩

end Urls

end DragonflyClient.Storage
