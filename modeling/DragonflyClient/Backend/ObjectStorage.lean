import DragonflyClient.Library.UrlPath
import DragonflyClient.Util.CanonicalUrl

/-!
The urls of an object storage (`backend/object_storage.rs`), and those that a listing makes of the
paths of its entries.
-/

namespace DragonflyClient.Backend.ObjectStorage

open Rendezvous Library Util List
open String hiding append_assoc

inductive Scheme where
  | s3
  | gcs
  | abs
  | oss
  | obs
  | cos
  deriving DecidableEq, Repr

def Scheme.fromStr (text : List Char) : Except String Scheme :=
  match ofList text with
  | "s3" => .ok .s3
  | "gs" => .ok .gcs
  | "abs" => .ok .abs
  | "oss" => .ok .oss
  | "obs" => .ok .obs
  | "cos" => .ok .cos
  | other => .error s!"invalid scheme: {other}"

structure ParsedUrl where
  url : UrlRecord
  scheme : Scheme
  bucket : List Char
  key : List Char
  deriving DecidableEq, Repr

/-- `percent_decode_str(..).decode_utf8_lossy()`. -/
def percentDecodeLossy (text : List Char) : List Char :=
  let bytes := percentDecode (utf8 (ofList text))
  ((ofUtf8 bytes).map toList).getD (decodeUtf8Lossy bytes)

namespace ParsedUrl

def isDir (parsed : ParsedUrl) : Bool := parsed.url.pathText.getLast? = some '/'

def makeUrlByEntryPath (parsed : ParsedUrl) (entryPath : List Char) : UrlRecord :=
  parsed.url.setPath entryPath

def tryFrom (url : UrlRecord) : ClientResult ParsedUrl :=
  match url.hostStr with
  | none => .error (.invalidURI url.serialize)
  | some bucket =>
    match Scheme.fromStr url.scheme with
    | .error _ => .error (.invalidURI url.serialize)
    | .ok scheme =>
      match url.pathText with
      | '/' :: key => .ok { url, scheme, bucket, key := percentDecodeLossy key }
      | _ => .error (.invalidURI url.serialize)

end ParsedUrl

section Decoding

def isHexDigit (char : Char) : Bool :=
  match utf8EncodeChar char with
  | [byte] => (hexValue byte).isSome
  | _ => false

/-- A percent sign with two hexadecimal digits after it. -/
def isEscape : List Char → Bool
  | '%' :: high :: low :: _ => isHexDigit high && isHexDigit low
  | _ => false

def hasEscape : List Char → Bool
  | [] => false
  | char :: rest => isEscape (char :: rest) || hasEscape rest

variable {char : Char} {text rest : List Char}

theorem decodesTo_escapeByte (byte : UInt8) :
    decodesTo byte ((escapeByte byte).flatMap utf8EncodeChar) = true :=
  forall_byte
    (fun byte => decodesTo byte ((escapeByte byte).flatMap utf8EncodeChar) = true)
    (by decide +kernel) byte

theorem percentDecode_escapeBytes (bytes rest : List UInt8) :
    percentDecode ((bytes.flatMap escapeByte).flatMap utf8EncodeChar ++ rest) =
      bytes ++ percentDecode rest := by
  induction bytes with
  | nil => rfl
  | cons byte bytes ih =>
    rw [flatMap_cons, flatMap_append, append_assoc,
      percentDecode_append (decodesTo_escapeByte byte), ih, cons_append]

theorem utf8EncodeChar_of_kept (kept : escapes pathSet char = false) :
    ∃ byte, utf8EncodeChar char = [byte] ∧ (byte = 0x25 → char = '%') := by
  simp only [escapes, Bool.or_eq_false_iff, decide_eq_false_iff_not, not_le, not_lt] at kept
  have small : char.toNat ≤ 127 := kept.1.2.trans (by decide)
  refine ⟨UInt8.ofNat char.toNat, ?_, fun same => ?_⟩
  · simp [utf8EncodeChar, small]
  · have number := congrArg UInt8.toNat same
    rw [UInt8.toNat_ofNat', Nat.mod_eq_of_lt (by omega)] at number
    exact Char.toNat_inj.mp number

def pathBytes (text : List Char) : List UInt8 :=
  (escape pathSet text).flatMap utf8EncodeChar

theorem pathBytes_of_escapes (escaped : escapes pathSet char = true) (rest : List Char) :
    pathBytes (char :: rest) = ((utf8EncodeChar char).flatMap escapeByte).flatMap
      utf8EncodeChar ++ pathBytes rest := by
  rw [pathBytes, escape, flatMap_cons, if_pos escaped, flatMap_append]
  rfl

theorem pathBytes_of_kept (kept : escapes pathSet char = false) (rest : List Char) :
    pathBytes (char :: rest) = utf8EncodeChar char ++ pathBytes rest := by
  rw [pathBytes, escape, flatMap_cons, if_neg (by simp [kept]), flatMap_append, flatMap_singleton]
  rfl

/-- An escape begins with a percent sign, which is no digit. -/
theorem isHexDigit_head {byte bytes} (starts : pathBytes text = byte :: bytes)
    (digit : (hexValue byte).isSome) :
    ∃ char rest, text = char :: rest ∧ isHexDigit char = true ∧ pathBytes rest = bytes := by
  cases text with
  | nil => cases starts
  | cons char rest =>
    cases escaped : escapes pathSet char with
    | false =>
      obtain ⟨single, encoded, -⟩ := utf8EncodeChar_of_kept escaped
      rw [pathBytes_of_kept escaped, encoded, singleton_append] at starts
      cases starts
      exact ⟨char, rest, rfl, by simpa [isHexDigit, encoded] using digit, rfl⟩
    | true =>
      obtain ⟨first, others, encoded⟩ :=
        exists_cons_of_ne_nil (utf8EncodeChar_ne_nil (c := char))
      rw [pathBytes_of_escapes escaped, encoded] at starts
      have percent : 0x25 = byte := (List.cons.inj starts).1
      rw [← percent] at digit
      cases digit

theorem percentDecode_percent {bytes}
    (plain : ∀ high low rest, bytes = high :: low :: rest → (hexValue high).isSome →
      (hexValue low).isSome → False) :
    percentDecode (0x25 :: bytes) = 0x25 :: percentDecode bytes := by
  match bytes with
  | [] => rfl
  | [_] => rfl
  | high :: low :: rest =>
    rw [percentDecode]
    split
    next first second => exact (plain high low rest rfl (by simp [first]) (by simp [second])).elim
    next => rfl

theorem percentDecode_pathBytes_cons (plain : isEscape (char :: rest) = false) :
    percentDecode (pathBytes (char :: rest)) =
      utf8EncodeChar char ++ percentDecode (pathBytes rest) := by
  cases escaped : escapes pathSet char with
  | true => rw [pathBytes_of_escapes escaped, percentDecode_escapeBytes]
  | false =>
    obtain ⟨byte, encoded, percent⟩ := utf8EncodeChar_of_kept escaped
    rw [pathBytes_of_kept escaped, encoded]
    by_cases sign : byte = 0x25
    · obtain rfl := percent sign
      rw [sign, singleton_append, singleton_append, percentDecode_percent]
      intro high low bytes starts highDigit lowDigit
      obtain ⟨first, rest, rfl, firstDigit, left⟩ := isHexDigit_head starts highDigit
      obtain ⟨second, rest, rfl, secondDigit, -⟩ := isHexDigit_head left lowDigit
      simp [isEscape, firstDigit, secondDigit] at plain
    · exact percentDecode_append (by simpa [decodesTo] using sign) _

theorem percentDecode_pathBytes (plain : hasEscape text = false) :
    percentDecode (pathBytes text) = text.flatMap utf8EncodeChar := by
  induction text with
  | nil => rfl
  | cons char rest ih =>
    obtain ⟨first, others⟩ := Bool.or_eq_false_iff.mp plain
    rw [flatMap_cons, ← ih others, percentDecode_pathBytes_cons first]

theorem escapes_of_isHexDigit (digit : isHexDigit char = true) : escapes pathSet char = false := by
  have ascii : ∀ number : Fin 128, isHexDigit (Char.ofNat number) = true →
      escapes pathSet (Char.ofNat number) = false := by decide +kernel
  have small : char.toNat < 128 := by
    by_contra large
    unfold isHexDigit utf8EncodeChar at digit
    dsimp only at digit
    rw [if_neg (show ¬char.val.toNat ≤ 127 from fun small => large (Nat.lt_succ_of_le small))]
      at digit
    split at digit
    next encoded =>
      split at encoded
      · cases encoded
      · split at encoded <;> cases encoded
    next => cases digit
  have same := ascii ⟨char.toNat, small⟩
  rw [Char.ofNat_toNat] at same
  exact same digit

theorem exists_digit (digit : isHexDigit char = true) (rest : List Char) :
    ∃ byte, (hexValue byte).isSome ∧ pathBytes (char :: rest) = byte :: pathBytes rest := by
  rw [pathBytes_of_kept (escapes_of_isHexDigit digit)]
  unfold isHexDigit at digit
  split at digit
  next byte encoded => exact ⟨byte, digit, by rw [encoded, singleton_append]⟩
  next => cases digit

theorem percentDecode_pathBytes_escape (escaped : isEscape text = true) :
    ∃ byte rest, text.length = rest.length + 3 ∧
      percentDecode (pathBytes text) = byte :: percentDecode (pathBytes rest) := by
  unfold isEscape at escaped
  split at escaped
  next high low rest =>
    obtain ⟨highDigit, lowDigit⟩ := Bool.and_eq_true_iff.mp escaped
    obtain ⟨first, firstDigit, left⟩ := exists_digit highDigit (low :: rest)
    obtain ⟨second, secondDigit, later⟩ := exists_digit lowDigit rest
    obtain ⟨one, firstValue⟩ := Option.isSome_iff_exists.mp firstDigit
    obtain ⟨two, secondValue⟩ := Option.isSome_iff_exists.mp secondDigit
    refine ⟨one * 16 + two, rest, rfl, ?_⟩
    rw [pathBytes_of_kept (by decide), left, later]
    simp [utf8EncodeChar, percentDecode, firstValue, secondValue]
  next => cases escaped

/-- By induction on the text, a character or an escape at a time; an escape is at most one
character. -/
theorem length_decode_pathBytes (text : List Char) {state} (waiting : Waiting state) :
    (decodeUtf8LossyFrom state (percentDecode (pathBytes text))).length +
      (hasEscape text).toNat ≤ pending state + text.length := by
  match text with
  | [] => cases state <;> exact Nat.le_refl _
  | char :: rest =>
    cases first : isEscape (char :: rest) with
    | true =>
      obtain ⟨byte, left, length, decoded⟩ := percentDecode_pathBytes_escape first
      obtain ⟨next, later, bound⟩ := length_decode_byte state byte
      have := length_decode_pathBytes left later
      have := bound (percentDecode (pathBytes left))
      have := Bool.toNat_le (hasEscape (char :: rest))
      rw [decoded]
      omega
    | false =>
      have := length_decode_pathBytes rest Waiting.none
      have none : pending none = 0 := rfl
      rw [percentDecode_pathBytes_cons first, length_decode_char waiting, hasEscape, first,
        Bool.false_or, length_cons]
      omega
termination_by text.length
decreasing_by
  all_goals
    rw [length_cons] at *
    omega

theorem percentDecodeLossy_escape (plain : hasEscape text = false) :
    percentDecodeLossy (escape pathSet text) = text := by
  have bytes : percentDecode (utf8 (ofList (escape pathSet text))) =
      utf8 (ofList text) := by
    rw [utf8_ofList, utf8_ofList]
    exact percentDecode_pathBytes plain
  simp [percentDecodeLossy, bytes, ofUtf8_eq_some.mpr rfl]

theorem length_percentDecodeLossy (text : List Char) :
    (percentDecodeLossy text).length =
      (decodeUtf8Lossy (percentDecode (utf8 (ofList text)))).length := by
  have chars (text : List Char) :
      (decodeUtf8Lossy (text.flatMap utf8EncodeChar)).length = text.length := by
    induction text with
    | nil => rfl
    | cons char rest ih =>
      rw [flatMap_cons, decodeUtf8Lossy, length_decode_char .none]
      exact (Nat.zero_add _).trans (congrArg (· + 1) ih)
  cases valid : ofUtf8 (percentDecode (utf8 (ofList text))) with
  | none => simp [percentDecodeLossy, valid]
  | some decoded =>
    have encoded := utf8_ofList decoded.toList
    rw [ofList_toList] at encoded
    rw [ofUtf8_eq_some.mp valid, encoded, chars]
    simp [percentDecodeLossy, valid]

theorem length_percentDecodeLossy_escape (text : List Char) :
    (percentDecodeLossy (escape pathSet text)).length + (hasEscape text).toNat ≤ text.length := by
  have bound := length_decode_pathBytes text .none
  rw [length_percentDecodeLossy, utf8_ofList]
  exact bound.trans (Nat.le_of_eq (Nat.zero_add _))

end Decoding

namespace ParsedUrl

/-- The paths that the setter of the url keeps, and that mean the same once they are decoded. -/
def isPlainEntry (entryPath : List Char) : Bool := isSettable entryPath && !hasEscape entryPath

theorem of_tryFrom_ok {url parsed} (from_url : tryFrom url = .ok parsed) :
    parsed.url = url ∧ url.hostStr = some parsed.bucket ∧
      Scheme.fromStr url.scheme = .ok parsed.scheme ∧
      ∃ key, url.pathText = '/' :: key ∧ parsed.key = percentDecodeLossy key := by
  unfold tryFrom at from_url
  split at from_url
  next => cases from_url
  next bucket host =>
    split at from_url
    next => cases from_url
    next scheme known =>
      split at from_url
      next key path =>
        obtain rfl := Except.ok.inj from_url
        exact ⟨rfl, host, known, key, path, rfl⟩
      next => cases from_url

/-- A key that comes back is as long as the entry: the setter has dropped nothing, and nothing
was decoded. -/
theorem isPlainEntry_of_key {parsed : ParsedUrl} (other : parsed.url.scheme ≠ fileScheme)
    {entryPath path} (made : (parsed.makeUrlByEntryPath entryPath).pathText = '/' :: path)
    (same : percentDecodeLossy path = entryPath) : isPlainEntry entryPath = true := by
  have set := UrlRecord.pathText_setPath other entryPath
  have decoded (key : List Char)
      (set : (parsed.makeUrlByEntryPath entryPath).pathText = '/' :: escape pathSet key) :
      entryPath.length + (hasEscape key).toNat ≤ key.length := by
    have bound := length_percentDecodeLossy_escape key
    rwa [← (List.cons.inj (made.symm.trans set)).2, same] at bound
  split at set
  next settable =>
    have undecoded := decoded entryPath set
    rw [isPlainEntry, settable, Bool.true_and, Bool.not_eq_true']
    exact Bool.toNat_eq_zero.mp (by omega)
  next =>
    rcases set with empty | ⟨key, set, shorter⟩
    · cases empty.symm.trans made
    · have := decoded key set
      omega

/-- The url that a listing makes of a path leads back to the entry just if the path is plain. -/
theorem listing_round_trip {url : UrlRecord} {parsed : ParsedUrl}
    (from_url : tryFrom url = .ok parsed) (entryPath : List Char) :
    tryFrom (parsed.makeUrlByEntryPath entryPath) =
        .ok { parsed with url := parsed.makeUrlByEntryPath entryPath, key := entryPath } ↔
      isPlainEntry entryPath = true := by
  obtain ⟨same, host, known, -⟩ := of_tryFrom_ok from_url
  rw [← same] at host known
  have other : parsed.url.scheme ≠ fileScheme := by
    intro file
    rw [file] at known
    cases known
  constructor
  · intro parsedAgain
    obtain ⟨-, -, -, path, made, key⟩ := of_tryFrom_ok parsedAgain
    exact isPlainEntry_of_key other made key.symm
  · intro plain
    obtain ⟨settable, unescaped⟩ := Bool.and_eq_true_iff.mp plain
    have path := UrlRecord.pathText_setPath other entryPath
    rw [if_pos settable] at path
    have decoded := percentDecodeLossy_escape (Bool.not_eq_true' _ ▸ unescaped)
    have kept : (parsed.makeUrlByEntryPath entryPath).hostStr = some parsed.bucket ∧
        Scheme.fromStr (parsed.makeUrlByEntryPath entryPath).scheme = .ok parsed.scheme :=
      ⟨host, known⟩
    rw [makeUrlByEntryPath] at kept ⊢
    simp only [tryFrom, kept.1, kept.2, path, decoded]

namespace Small

/-- `s3://b/d/`. -/
def directory : UrlRecord :=
  { UrlRecord.blank ['s', '3'] with host := some ['b'], path := .segments [['d'], []] }

def parsed : ParsedUrl :=
  { url := directory, scheme := .s3, bucket := ['b'], key := ['d', '/'] }

theorem tryFrom_directory : tryFrom directory = .ok parsed := by
  rfl

end Small

/-- An object with a question mark and a blank in its name. -/
theorem listing_round_trip_question :
    let entryPath := ['d', '/', 'a', '?', ' ', '%']
    isPlainEntry entryPath = true ∧
      tryFrom (Small.parsed.makeUrlByEntryPath entryPath) =
        .ok { Small.parsed with
          url := Small.parsed.makeUrlByEntryPath entryPath
          key := entryPath } :=
  ⟨by decide +kernel, (listing_round_trip Small.tryFrom_directory _).mpr (by decide +kernel)⟩

/-- The object `d/a%41` is listed, and `d/aA` is downloaded. -/
theorem listed_object_lost :
    let entryPath := ['d', '/', 'a', '%', '4', '1']
    tryFrom Small.directory = .ok Small.parsed ∧ Small.parsed.isDir = true ∧
      tryFrom (Small.parsed.makeUrlByEntryPath entryPath) =
        .ok { Small.parsed with
          url := Small.parsed.makeUrlByEntryPath entryPath
          key := ['d', '/', 'a', 'A'] } := by
  intro entryPath
  refine ⟨Small.tryFrom_directory, by decide, ?_⟩
  have path : (Small.parsed.makeUrlByEntryPath entryPath).pathText =
      ['/', 'd', '/', 'a', '%', '4', '1'] := by decide +kernel
  have key : percentDecodeLossy ['d', '/', 'a', '%', '4', '1'] = ['d', '/', 'a', 'A'] := by
    have bytes : percentDecode (utf8 (ofList ['d', '/', 'a', '%', '4', '1'])) =
        utf8 (ofList ['d', '/', 'a', 'A']) := by
      rw [utf8_ofList, utf8_ofList]
      decide
    simp only [percentDecodeLossy, bytes, ofUtf8_eq_some.mpr rfl, Option.map_some,
      Option.getD_some, toList_ofList]
  simp only [tryFrom, path, key]
  rfl

end ParsedUrl

end DragonflyClient.Backend.ObjectStorage
