import DragonflyClient.Library.PercentEncoding
import DragonflyClient.Library.StableSort
import DragonflyClient.Util.Url
import Mathlib.Data.String.Basic

/-!
`filter_query_params` gives a normal form of web urls.

The `url` crate is a parameter with the laws of its documentation; `form_urlencoded` is defined
after the url standard.
-/

namespace DragonflyClient.Util

open Rendezvous Library List
open String hiding intercalate_cons_cons map_map

section Form

/-- A plus stands for a blank, then the escapes are decoded. -/
def formDecode (text : List Char) : String :=
  let bytes := percentDecode ((utf8 (ofList text)).map fun byte =>
    if byte = 0x2B then 0x20 else byte)
  (ofUtf8 bytes).getD (ofList (decodeUtf8Lossy bytes))

/-- The name of a segment ends at its first equals sign. -/
def formPair (segment : List Char) : String × String :=
  (formDecode (segment.takeWhile (· ≠ '=')), formDecode ((segment.dropWhile (· ≠ '=')).drop 1))

/-- `form_urlencoded::parse`. -/
def formUrlencoded (text : String) : List (String × String) :=
  ((text.toList.splitOn '&').filter (· ≠ [])).map formPair

def decodesTo (byte : UInt8) : List UInt8 → Bool
  | [single] => single = byte && byte ≠ 0x25
  | [0x25, high, low] =>
    match hexValue high, hexValue low with
    | some high, some low => high * 16 + low = byte
    | _, _ => false
  | _ => false

def escapedBytes (byte : UInt8) : List UInt8 :=
  ((queryEscapeByte byte).flatMap utf8EncodeChar).map fun byte =>
    if byte = 0x2B then 0x20 else byte

theorem forall_byte (property : UInt8 → Prop)
    (each : ∀ number : Fin 256, property (UInt8.ofNat number)) (byte : UInt8) : property byte := by
  have here := each ⟨byte.toNat, byte.toNat_lt⟩
  rwa [UInt8.ofNat_toNat] at here

theorem decodesTo_escapedBytes (byte : UInt8) : decodesTo byte (escapedBytes byte) = true :=
  forall_byte (fun byte => decodesTo byte (escapedBytes byte) = true)
    (by decide +kernel) byte

theorem percentDecode_append {byte bytes} (decodes : decodesTo byte bytes = true)
    (rest : List UInt8) :
    percentDecode (bytes ++ rest) = byte :: percentDecode rest := by
  unfold decodesTo at decodes
  split at decodes
  next single =>
    rw [singleton_append, percentDecode.eq_def]
    split
    · simp_all
    · simp_all
    · simp_all
  next high low =>
    split at decodes
    next upper lower one two =>
      simp only [cons_append, nil_append, percentDecode, one, two]
      rw [of_decide_eq_true decodes]
    next => cases decodes
  next => cases decodes

theorem utf8_ofList (chars : List Char) :
    utf8 (ofList chars) = chars.flatMap utf8EncodeChar := by
  simp [utf8, List.utf8Encode]

theorem formDecode_queryEscape (text : String) : formDecode (queryEscape text).toList = text := by
  have decoded : ∀ bytes : List UInt8, percentDecode (bytes.flatMap escapedBytes) = bytes := by
    intro bytes
    induction bytes with
    | nil => rfl
    | cons byte bytes ih =>
      rw [flatMap_cons, percentDecode_append (decodesTo_escapedBytes byte), ih]
  have bytes : (utf8 (queryEscape text)).map (fun byte => if byte = 0x2B then 0x20 else byte) =
      (utf8 text).flatMap escapedBytes := by
    rw [queryEscape, utf8_ofList, flatMap_assoc, map_flatMap]
    rfl
  simp only [formDecode, ofList_toList, bytes, decoded, ofUtf8_eq_some.mpr rfl,
    Option.getD_some]

def isEscaped (char : Char) : Bool := unreserved char || char = '+' || char = '%'

/-- Text that the query state of the url parser takes over as it is. -/
def isPlainQuery (text : String) : Bool :=
  text.toList.all fun char => isEscaped char || char = '=' || char = '&'

variable {char : Char}

theorem isEscaped_of_mem_queryEscape {text} (here : char ∈ (queryEscape text).toList) :
    isEscaped char = true := by
  have each (byte : UInt8) : (queryEscapeByte byte).all isEscaped = true :=
    forall_byte (fun byte => (queryEscapeByte byte).all isEscaped = true) (by decide +kernel) byte
  rw [queryEscape, toList_ofList] at here
  obtain ⟨byte, -, inside⟩ := mem_flatMap.mp here
  exact all_eq_true.mp (each byte) char inside

def segmentOf (pair : String × String) : List Char :=
  (queryEscape pair.1).toList ++ '=' :: (queryEscape pair.2).toList

theorem mem_segmentOf {pair} (here : char ∈ segmentOf pair) :
    isEscaped char = true ∨ char = '=' := by
  rcases mem_append.mp here with name | value
  · exact .inl (isEscaped_of_mem_queryEscape name)
  · rcases mem_cons.mp value with equals | value
    · exact .inr equals
    · exact .inl (isEscaped_of_mem_queryEscape value)

theorem not_mem_segmentOf {pair} (other : isEscaped char = false ∧ char ≠ '=') :
    char ∉ segmentOf pair := by
  intro here
  rcases mem_segmentOf here with escaped | equals
  · cases other.1.symm.trans escaped
  · exact other.2 equals

theorem formPair_segmentOf (pair : String × String) : formPair (segmentOf pair) = pair := by
  have before : ∀ char ∈ (queryEscape pair.1).toList, decide (char ≠ '=') = true := by
    rintro _ here
    refine decide_eq_true ?_
    rintro rfl
    cases isEscaped_of_mem_queryEscape here
  rw [formPair, segmentOf, takeWhile_append_of_pos before, dropWhile_append_of_pos before]
  simp [formDecode_queryEscape]

theorem toList_joinQuery (pairs : List (String × String)) :
    (joinQuery pairs).toList = ['&'].intercalate (pairs.map segmentOf) := by
  rw [joinQuery, toList_intercalate, map_map]
  congr 1
  refine map_congr_left fun pair _ => ?_
  simp [segmentOf]

theorem splitOn_joinQuery {pairs} (some : pairs ≠ []) :
    (joinQuery pairs).toList.splitOn '&' = pairs.map segmentOf := by
  rw [toList_joinQuery]
  refine splitOn_intercalate '&' ?_ (by simpa using some)
  intro segment here
  obtain ⟨pair, -, rfl⟩ := mem_map.mp here
  exact not_mem_segmentOf (by decide)

theorem formUrlencoded_joinQuery {pairs} (some : pairs ≠ []) :
    formUrlencoded (joinQuery pairs) = pairs := by
  rw [formUrlencoded, splitOn_joinQuery some, filter_eq_self.mpr, map_map]
  · exact (map_congr_left fun pair _ => formPair_segmentOf pair).trans pairs.map_id
  · intro segment here
    obtain ⟨pair, -, rfl⟩ := mem_map.mp here
    simp [segmentOf]

end Form

/-- The parts of a `Url` that `filter_query_params` leaves alone. -/
structure UrlCrate extends UrlLibrary where
  scheme : Url → String
  host : Url → Option String
  port : Url → Option Nat
  fragment : Url → Option String

namespace UrlCrate

variable (crate : UrlCrate)

/-- A parsed http or https url without a fragment. -/
structure Web (url : crate.Url) : Prop where
  parsed : ∃ text, crate.parse text = .ok url
  scheme : crate.scheme url = "http" ∨ crate.scheme url = "https"
  fragment : crate.fragment url = none

/-- The parts that `set_query` keeps. -/
def parts (url : crate.Url) : String × Option String × Option Nat × String × Option String :=
  (crate.scheme url, crate.host url, crate.port url, crate.path url, crate.fragment url)

/-- The documented behaviour of the crates. -/
structure Lawful : Prop where
  formParse : ∀ text, crate.formParse text = formUrlencoded text
  query_setQuery : ∀ url, crate.Web url → ∀ query, query.all isPlainQuery = true →
    crate.query (crate.setQuery url query) = query
  parts_setQuery : ∀ url, crate.Web url → ∀ query,
    crate.parts (crate.setQuery url query) = crate.parts url
  setQuery_setQuery : ∀ url, crate.Web url → ∀ first second,
    crate.setQuery (crate.setQuery url first) second = crate.setQuery url second
  -- The serialization of a url parses to it.
  parse_toString : ∀ url, crate.Web url → ∀ query, query.all isPlainQuery = true →
    crate.parse (crate.toString (crate.setQuery url query)) = .ok (crate.setQuery url query)
  toString_query : ∀ url, crate.Web url → ∀ query, isPlainQuery query = true →
    crate.toString (crate.setQuery url (some query)) =
      crate.toString (crate.setQuery url none) ++ "?" ++ query
  -- The path follows the authority; an empty path is parsed as the root.
  toString_path : ∀ url, crate.Web url → ∃ origin : String,
    crate.toString (crate.setQuery url none) = origin ++ crate.path url ∧
      origin.toList.getLast? ≠ some '/' ∧
      (crate.path url = "/" → crate.parse origin = .ok (crate.setQuery url none))

/-- The decoded parameters of a url, without the segments that have a semicolon. -/
def parameters (url : crate.Url) : List (String × String) :=
  let segments := (((crate.query url).getD "").toList.splitOn '&').filter (!·.contains ';')
  (segments.map ofList).flatMap crate.formParse

end UrlCrate

def queryOf (pairs : List (String × String)) : Option String :=
  if pairs = [] then none else some (joinQuery pairs)

/-- The end of `filter_query_params`. -/
def canonicalText (urls : UrlLibrary) (url : urls.Url) (pairs : List (String × String)) : String :=
  let changed := urls.setQuery url (queryOf pairs)
  let filtered := urls.toString changed
  if urls.path changed = "/" ∧ filtered.endsWith "/" then trimEndSlashes filtered else filtered

def remaining (crate : UrlCrate) (url : crate.Url) (filteredQueryParams : List String) :
    List (String × String) :=
  (crate.parameters url).filter (!filteredQueryParams.contains ·.1)

def canonicalPairs (crate : UrlCrate) (url : crate.Url) (filteredQueryParams : List String) :
    List (String × String) :=
  (remaining crate url filteredQueryParams).mergeSort
    fun first second => decide (first.1 ≤ second.1)

theorem stableSort_canonicalPairs (crate : UrlCrate) (url : crate.Url)
    (filteredQueryParams : List String) :
    StableSort Prod.fst (remaining crate url filteredQueryParams)
      (canonicalPairs crate url filteredQueryParams) :=
  stableSort_mergeSort Prod.fst _

variable {text : String}

theorem filterQueryParams_eq {crate url filteredQueryParams} (filters : filteredQueryParams ≠ [])
    (parsed : crate.parse text = .ok url) :
    filterQueryParams crate.toUrlLibrary text filteredQueryParams =
      .ok (canonicalText crate.toUrlLibrary url
        (canonicalPairs crate url filteredQueryParams)) := by
  simp only [filterQueryParams, if_neg filters, parsed, canonicalText]
  exact (apply_ite Except.ok _ _ _).symm

theorem isPlainQuery_joinQuery (pairs : List (String × String)) :
    isPlainQuery (joinQuery pairs) = true := by
  rw [isPlainQuery, toList_joinQuery, all_eq_true]
  have segment (pair : String × String) : ∀ char ∈ segmentOf pair,
      (isEscaped char || char = '=' || char = '&') = true := by
    intro char here
    rcases mem_segmentOf here with escaped | rfl
    · simp [escaped]
    · rfl
  induction pairs with
  | nil => exact nofun
  | cons pair pairs ih =>
    cases pairs with
    | nil => simpa using segment pair
    | cons next pairs =>
      rw [map_cons, map_cons, intercalate_cons_cons, ← map_cons]
      intro char here
      rcases mem_append.mp here with front | rest
      · rcases mem_append.mp front with inside | separator
        · exact segment pair char inside
        · rw [mem_singleton.mp separator]
          rfl
      · exact ih char rest

theorem isPlainQuery_queryOf (pairs : List (String × String)) :
    (queryOf pairs).all isPlainQuery = true := by
  unfold queryOf
  split
  · rfl
  · exact isPlainQuery_joinQuery pairs

theorem endsWith_slash :
    text.endsWith "/" = true ↔ text.toList.getLast? = some '/' := by
  rw [endsWith_eq_endsWith_toSlice, Slice.endsWith_string_iff, getLast?_eq_some_iff]
  simp [List.IsSuffix, eq_comm]

theorem not_endsWith_slash {front query} (plain : isPlainQuery query = true) :
    ¬ (front ++ "?" ++ query).endsWith "/" = true := by
  rw [endsWith_slash]
  intro ends
  have last : (['?'] ++ query.toList).getLast? = some '/' := by
    simpa [getLast?_append] using ends
  rcases mem_append.mp (mem_of_getLast? last) with mark | inside
  · exact absurd (mem_singleton.mp mark) (by decide)
  · exact absurd (all_eq_true.mp plain '/' inside) (by decide)

theorem trimEndSlashes_concat (ends : text.toList.getLast? ≠ some '/') :
    trimEndSlashes (text ++ "/") = text := by
  rw [trimEndSlashes, toList_append]
  have slash : "/".toList = ['/'] := rfl
  rw [slash, rdropWhile_concat_pos _ _ _ (by simp), rdropWhile_eq_self_iff.mpr,
    ofList_toList]
  intro some last
  exact ends (getLast?_eq_some_getLast some ▸ congrArg _ (of_decide_eq_true last))

theorem formUrlencoded_queryOf (pairs : List (String × String)) :
    formUrlencoded ((queryOf pairs).getD "") = pairs := by
  unfold queryOf
  split
  next none => rw [none]; rfl
  next some => exact formUrlencoded_joinQuery some

section Laws

variable {crate : UrlCrate} (lawful : crate.Lawful) {url : crate.Url} (web : crate.Web url)
include lawful web

theorem parameters_setQuery (pairs : List (String × String)) :
    crate.parameters (crate.setQuery url (queryOf pairs)) = pairs := by
  simp only [UrlCrate.parameters, lawful.query_setQuery url web _ (isPlainQuery_queryOf pairs)]
  unfold queryOf
  split
  next none =>
    rw [none]
    simp [lawful.formParse, formUrlencoded]
  next some =>
    rw [Option.getD_some, splitOn_joinQuery some, filter_eq_self.mpr, map_map, flatMap_map]
    · have single (pair : String × String) :
          crate.formParse (ofList (segmentOf pair)) = [pair] := by
        have same : ofList (segmentOf pair) = joinQuery [pair] := by
          rw [← toList_inj, toList_joinQuery]
          simp
        rw [same, lawful.formParse, formUrlencoded_joinQuery (cons_ne_nil _ _)]
      simp [single]
    · intro segment here
      obtain ⟨pair, -, rfl⟩ := mem_map.mp here
      simpa using not_mem_segmentOf (by decide)

/-- The canonical text is the serialization of the changed url, without the slash of a bare
root. -/
theorem canonicalText_spec (pairs : List (String × String)) :
    let changed := crate.setQuery url (queryOf pairs)
    let result := canonicalText crate.toUrlLibrary url pairs
    crate.parse result = .ok changed ∧
      (if crate.path url = "/" ∧ pairs = [] then result ++ "/" else result) =
        crate.toString changed := by
  have path : crate.path (crate.setQuery url (queryOf pairs)) = crate.path url :=
    congrArg (·.2.2.2.1) (lawful.parts_setQuery url web (queryOf pairs))
  simp only [canonicalText, path]
  by_cases none : pairs = []
  · subst none
    obtain ⟨origin, text, ends, root⟩ := lawful.toString_path url web
    by_cases bare : crate.path url = "/"
    · have slash : (origin ++ "/").endsWith "/" = true := endsWith_slash.mpr (by simp)
      simp only [queryOf, bare, if_true, text, slash, and_self, trimEndSlashes_concat ends]
      exact ⟨root bare, trivial⟩
    · simp only [bare, false_and, if_false]
      exact ⟨lawful.parse_toString url web _ rfl, trivial⟩
  · have plain := isPlainQuery_joinQuery pairs
    have ends : ¬ (crate.toString (crate.setQuery url (some (joinQuery pairs)))).endsWith "/" := by
      rw [lawful.toString_query url web (joinQuery pairs) plain]
      exact not_endsWith_slash plain
    simp only [queryOf, none, ends, Bool.false_eq_true, and_false, if_false]
    exact ⟨lawful.parse_toString url web (some _) plain, trivial⟩

end Laws

theorem queryOf_eq_none {pairs} : queryOf pairs = none ↔ pairs = [] := by
  simp [queryOf]

theorem canonicalText_congr {urls url other pairs}
    (same : urls.setQuery other (queryOf pairs) = urls.setQuery url (queryOf pairs)) :
    canonicalText urls other pairs = canonicalText urls url pairs := by
  simp only [canonicalText, same]

theorem filter_remaining {crate url filteredQueryParams} (key : String) :
    (remaining crate url filteredQueryParams).filter (·.1 = key) =
      if key ∈ filteredQueryParams then [] else (crate.parameters url).filter (·.1 = key) := by
  rw [remaining, filter_filter]
  split
  next filtered =>
    refine filter_eq_nil_iff.mpr fun pair _ => ?_
    simp only [Bool.and_eq_true, decide_eq_true_eq, not_and]
    rintro rfl
    simpa using filtered
  next kept =>
    refine filter_congr fun pair _ => ?_
    by_cases same : pair.1 = key
    · simp [same, kept]
    · simp [same]

/-- For an http or https url without a fragment the result parses to the same url with another
query, which decodes to the stable sort by key of the parameters that stay; only the slash of a bare
root is dropped.  Filtering once more changes nothing, and neither does a query that has the same
parameters for each key that is not filtered: filtered ones may be added and removed anywhere, and
parameters with different keys may be reordered. -/
theorem filterQueryParams_normal_form {crate : UrlCrate} (lawful : crate.Lawful)
    {filteredQueryParams : List String} (filters : filteredQueryParams ≠ []) {text : String}
    {url : crate.Url} (parsed : crate.parse text = .ok url) (web : crate.Web url) :
    ∃ result changed,
      filterQueryParams crate.toUrlLibrary text filteredQueryParams = .ok result ∧
      crate.parse result = .ok changed ∧ crate.parts changed = crate.parts url ∧
      StableSort Prod.fst (remaining crate url filteredQueryParams)
        (formUrlencoded ((crate.query changed).getD "")) ∧
      (if crate.path url = "/" ∧ crate.query changed = none then result ++ "/" else result) =
        crate.toString changed ∧
      filterQueryParams crate.toUrlLibrary result filteredQueryParams = .ok result ∧
      ∀ other otherUrl, crate.parse other = .ok otherUrl → crate.Web otherUrl →
        crate.setQuery otherUrl none = crate.setQuery url none →
        (∀ key ∉ filteredQueryParams, (crate.parameters otherUrl).filter (·.1 = key) =
          (crate.parameters url).filter (·.1 = key)) →
        filterQueryParams crate.toUrlLibrary other filteredQueryParams = .ok result := by
  have sorted := stableSort_canonicalPairs crate url filteredQueryParams
  obtain ⟨reparsed, text⟩ := canonicalText_spec lawful web
    (canonicalPairs crate url filteredQueryParams)
  generalize pairsOf : canonicalPairs crate url filteredQueryParams = pairs at sorted reparsed text
  have query := lawful.query_setQuery url web _ (isPlainQuery_queryOf pairs)
  refine ⟨_, _, pairsOf ▸ filterQueryParams_eq filters parsed, reparsed,
    lawful.parts_setQuery url web _, ?_, ?_, ?_, ?_⟩
  · rw [query, formUrlencoded_queryOf]
    exact sorted
  · simpa only [query, queryOf_eq_none] using text
  · rw [filterQueryParams_eq filters reparsed]
    have kept :
        remaining crate (crate.setQuery url (queryOf pairs)) filteredQueryParams = pairs := by
      rw [remaining, parameters_setQuery lawful web]
      exact filter_eq_self.mpr fun pair here => (mem_filter.mp (sorted.mem here)).2
    have again := stableSort_canonicalPairs crate (crate.setQuery url (queryOf pairs))
      filteredQueryParams
    rw [kept] at again
    rw [again.eq_of_ordered sorted.ordered,
      canonicalText_congr (lawful.setQuery_setQuery url web _ _)]
  · intro other otherUrl parsedOther webOther apart same
    rw [filterQueryParams_eq filters parsedOther]
    have also := stableSort_canonicalPairs crate otherUrl filteredQueryParams
    have equal : canonicalPairs crate otherUrl filteredQueryParams = pairs := by
      refine sorted.unique (also.of_same fun key => ?_)
      rw [filter_remaining, filter_remaining]
      split
      · rfl
      next kept => exact same key kept
    rw [equal]
    refine congrArg Except.ok (canonicalText_congr ?_)
    rw [← lawful.setQuery_setQuery otherUrl webOther none, apart,
      lawful.setQuery_setQuery url web none]

namespace Small

/-- The root of one host, with any query. -/
def crate : UrlCrate where
  Url := Option String
  parse text :=
    if "http://h/?".toList.isPrefixOf text.toList then
      .ok (some (ofList (text.toList.drop 10)))
    else if text = "http://h" ∨ text = "http://h/" then .ok none
    else .error "relative URL without a base"
  query := id
  setQuery _ query := query
  path _ := "/"
  toString
    | none => "http://h/"
    | some query => "http://h/?" ++ query
  formParse := formUrlencoded
  scheme _ := "http"
  host _ := some "h"
  port _ := none
  fragment _ := none

theorem parse_crate (query : String) : crate.parse ("http://h/?" ++ query) = .ok (some query) := by
  have begins : "http://h/?".toList.isPrefixOf ("http://h/?" ++ query).toList = true := by
    rw [toList_append, isPrefixOf_iff_prefix]
    exact prefix_append _ _
  have rest : ofList (("http://h/?" ++ query).toList.drop 10) = query := by
    simp
  exact (if_pos begins).trans (congrArg (fun query => Except.ok (some query)) rest)

theorem lawful_crate : crate.Lawful where
  formParse _ := rfl
  query_setQuery _ _ _ _ := rfl
  parts_setQuery _ _ _ := rfl
  setQuery_setQuery _ _ _ _ := rfl
  parse_toString
    | _, _, none, _ => (rfl : crate.parse "http://h/" = .ok none)
    | _, _, some query, _ => parse_crate query
  toString_query _ _ query _ :=
    congrArg (· ++ query) (by decide : "http://h/?" = "http://h/" ++ "?")
  toString_path _ _ := ⟨"http://h", rfl, by decide, fun _ => rfl⟩

end Small

/-- Two parameters out of order and a filtered one. -/
theorem filterQueryParams_normal_form_root :
    ∃ result, filterQueryParams Small.crate.toUrlLibrary "http://h/?b=2&x=1&a=3" ["x"] =
        .ok result ∧
      filterQueryParams Small.crate.toUrlLibrary result ["x"] = .ok result ∧
      filterQueryParams Small.crate.toUrlLibrary "http://h/?a=3&b=2" ["x"] = .ok result := by
  have web (query : String) : Small.crate.Web (some query) :=
    ⟨⟨_, Small.parse_crate query⟩, .inl rfl, rfl⟩
  obtain ⟨result, changed, filtered, -, -, -, -, again, same⟩ := filterQueryParams_normal_form
    Small.lawful_crate (cons_ne_nil "x" []) (Small.parse_crate "b=2&x=1&a=3") (web _)
  refine ⟨result, filtered, again,
    same _ _ (Small.parse_crate "a=3&b=2") (web _) rfl fun key kept => ?_⟩
  have decoded :
      Small.crate.parameters (some "b=2&x=1&a=3") = [("b", "2"), ("x", "1"), ("a", "3")] ∧
      Small.crate.parameters (some "a=3&b=2") = [("a", "3"), ("b", "2")] := by decide +kernel
  have other : key ≠ "x" := by simpa using kept
  rw [decoded.1, decoded.2]
  by_cases a : "a" = key
  · subst a
    decide
  · simp [filter_cons, a, other.symm]

end DragonflyClient.Util
