import DragonflyClient.Storage.Codec
import Mathlib.Data.List.DropRight

/-!
The canonical form of a url (`dragonfly-client-util/src/url/mod.rs`): the query without the
filtered parameters, sorted by key and escaped.
-/

namespace DragonflyClient.Util

open Rendezvous

/-- The functions of the `url` and `form_urlencoded` crates. -/
structure UrlLibrary where
  Url : Type
  parse : String → Except String Url
  query : Url → Option String
  setQuery : Url → Option String → Url
  path : Url → String
  toString : Url → String
  formParse : String → List (String × String)

def hexByte (byte : UInt8) : List Char :=
  [Nat.digitChar (byte.toNat / 16), Nat.digitChar (byte.toNat % 16)]

def percentEncodeByte (byte : UInt8) : List Char := '%' :: (hexByte byte).map Char.toUpper

/-- Bytes of a query that are not escaped. -/
def unreserved (char : Char) : Bool :=
  char.isAlphanum || char = '-' || char = '.' || char = '_' || char = '~'

def queryEscapeByte (byte : UInt8) : List Char :=
  let char := Char.ofNat byte.toNat
  if unreserved char then [char]
  else if char = ' ' then ['+']
  else percentEncodeByte byte

def queryEscape (text : String) : String := String.ofList ((utf8 text).flatMap queryEscapeByte)

/-- `trim_end_matches('/')`. -/
def trimEndSlashes (text : String) : String :=
  String.ofList (text.toList.rdropWhile (· = '/'))

/-- The pairs of a query that are kept, in the order of their keys.  A segment with a semicolon
is dropped whole. -/
def queryPairs (urls : UrlLibrary) (query : String) (filteredQueryParams : List String) :
    List (String × String) :=
  let segments := ((query.toList.splitOn '&').filter (!·.contains ';')).map String.ofList
  let kept := (segments.flatMap urls.formParse).filter (!filteredQueryParams.contains ·.1)
  kept.mergeSort (fun first second => decide (first.1 ≤ second.1))

def joinQuery (pairs : List (String × String)) : String :=
  "&".intercalate (pairs.map fun pair => queryEscape pair.1 ++ "=" ++ queryEscape pair.2)

def filterQueryParams (urls : UrlLibrary) (url : String) (filteredQueryParams : List String) :
    ClientResult String :=
  if filteredQueryParams = [] then .ok url
  else
    match urls.parse url with
    | .error cause => .error (.externalError "ParseError" cause)
    | .ok parsed =>
      let pairs := queryPairs urls ((urls.query parsed).getD "") filteredQueryParams
      let changed := urls.setQuery parsed (if pairs = [] then none else some (joinQuery pairs))
      let filtered := urls.toString changed
      if urls.path changed = "/" ∧ filtered.endsWith "/" then .ok (trimEndSlashes filtered)
      else .ok filtered

-- The escapes of the source's own test.
example : queryEscape "a b" = "a+b" ∧ queryEscape "x*y" = "x%2Ay" ∧ queryEscape "c~d" = "c~d" := by
  decide +kernel

end DragonflyClient.Util
