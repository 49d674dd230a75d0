import DragonflyClient.Library.Matcher
import DragonflyClient.Util.Digest
import Mathlib.Algebra.GroupWithZero.Nat

/-!
Digests in the urls of an image registry (`digest/mod.rs`): the expressions for blob and manifest
urls, and the parser of a digest.

The expressions run in the `regex` crate.  That it finds the leftmost-first match of a
backtracking matcher is an assumption.
-/

namespace DragonflyClient.Util

open Library Matcher

/-- `.` -/
def notNewline (char : Char) : Bool := char ≠ '\n'

/-- `[^?]` -/
def notQuestion (char : Char) : Bool := char ≠ '?'

/-- `^(.*)://(.*)/v2/(.*)/<kind>/([^?]+)(?:\?.*)?$`, with its fourth group. -/
def referenceUrl (kind : String) : Matcher (List Char) :=
  .many notNewline fun _ => .literal "://".toList <|
    .many notNewline fun _ => .literal "/v2/".toList <|
      .many notNewline fun _ => .literal ("/" ++ kind ++ "/").toList <|
        .many1 notQuestion fun reference =>
          .maybe (fun rest => .literal "?".toList <| .many notNewline fun _ => rest)
            (.finish reference)

def blobUrlRegex : Matcher (List Char) := referenceUrl "blobs"

def manifestUrlRegex : Matcher (List Char) := referenceUrl "manifests"

/-- `str::len`, in bytes. -/
def byteLength (text : List Char) : Nat := (text.map (·.utf8Size)).sum

/-- `splitn(2, SEPARATOR)`, if there are two parts. -/
def splitDigest (text : List Char) : Option (List Char × List Char) :=
  match text.dropWhile (· ≠ ':') with
  | [] => none
  | _ :: encoded => some (text.takeWhile (· ≠ ':'), encoded)

namespace Digest

def fromStr (text : List Char) : Except String Digest :=
  match splitDigest text with
  | none => .error s!"invalid digest: {String.ofList text}"
  | some (algorithm, encoded) =>
    if algorithm = "crc32".toList then
      if encoded = [] then .error s!"invalid crc32 digest: {String.ofList text}"
      else .ok ⟨.crc32, String.ofList encoded⟩
    else if algorithm = "sha256".toList then
      if byteLength encoded ≠ 64 then
        .error s!"invalid sha256 digest length: {byteLength encoded}, expected 64"
      else .ok ⟨.sha256, String.ofList encoded⟩
    else if algorithm = "sha512".toList then
      if byteLength encoded ≠ 128 then
        .error s!"invalid sha512 digest length: {byteLength encoded}, expected 128"
      else .ok ⟨.sha512, String.ofList encoded⟩
    else .error s!"invalid digest algorithm: {String.ofList algorithm}"

def extract (regex : Matcher (List Char)) (url : String) : Option Digest :=
  (regex url.toList).bind fun reference => (fromStr reference).toOption

def extractFromBlobUrl (url : String) : Option Digest := extract blobUrlRegex url

def extractFromManifestUrl (url : String) : Option Digest := extract manifestUrlRegex url

end Digest

/-- A reference stands between its kind and the query. -/
structure ReferenceIn (kind : String) (url reference : List Char) : Prop where
  placed : ∃ before after, url = before ++ (("/" ++ kind ++ "/").toList ++ (reference ++ after)) ∧
    (after = [] ∨ ∃ query, after = '?' :: query)
  nonempty : reference ≠ []
  noQuery : '?' ∉ reference

theorem referenceUrl_eq_some {kind url reference}
    (matched : referenceUrl kind url = some reference) : ReferenceIn kind url reference := by
  obtain ⟨scheme, _, rfl, -, atScheme⟩ := many_eq_some matched
  obtain ⟨_, rfl, atHost⟩ := literal_eq_some atScheme
  obtain ⟨host, _, rfl, -, atVersion⟩ := many_eq_some atHost
  obtain ⟨_, rfl, atRepository⟩ := literal_eq_some atVersion
  obtain ⟨repository, _, rfl, -, atKind⟩ := many_eq_some atRepository
  obtain ⟨_, rfl, atReference⟩ := literal_eq_some atKind
  obtain ⟨taken, after, rfl, nonempty, allowed, atQuery⟩ := many1_eq_some atReference
  have noQuery : '?' ∉ taken := fun present => by cases allowed '?' present
  have ends : taken = reference ∧ (after = [] ∨ ∃ query, after = '?' :: query) := by
    rcases maybe_eq_some atQuery with withQuery | finished
    · obtain ⟨query, rfl, rested⟩ := literal_eq_some withQuery
      obtain ⟨_, _, rfl, -, finished⟩ := many_eq_some rested
      exact ⟨(finish_eq_some finished).2, .inr ⟨_, rfl⟩⟩
    · obtain ⟨rfl, same⟩ := finish_eq_some finished
      exact ⟨same, .inl rfl⟩
  obtain ⟨rfl, ends⟩ := ends
  refine ⟨⟨scheme ++ ("://".toList ++ (host ++ ("/v2/".toList ++ repository))), after, ?_, ends⟩,
    nonempty, noQuery⟩
  simp only [List.append_assoc]

theorem Digest.extract_eq_some {kind url digest}
    (extracted : extract (referenceUrl kind) url = some digest) :
    ∃ reference, ReferenceIn kind url.toList reference ∧ fromStr reference = .ok digest := by
  obtain ⟨reference, matched, parsed⟩ := Option.bind_eq_some_iff.mp extracted
  refine ⟨reference, referenceUrl_eq_some matched, ?_⟩
  cases result : fromStr reference with
  | error error => simp [result, Except.toOption] at parsed
  | ok found =>
    simp only [result, Except.toOption, Option.some.injEq] at parsed
    rw [parsed]

example : Digest.extractFromBlobUrl "https://r/v2/x/blobs/crc32:abc?a=b" =
    some ⟨.crc32, "abc"⟩ := by
  decide

end DragonflyClient.Util
