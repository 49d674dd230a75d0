import DragonflyClient.Library.Descent
import Mathlib.Data.List.DropRight

/-!
The basic url parser of the WHATWG URL standard, without state override.  The states are
functions of the text that is left; host parsing (IDNA, IP addresses) is a parameter.  A result
about a program that parses with the `url` crate assumes that the crate follows the standard.
-/

namespace DragonflyClient.Library

inductive UrlPath where
  /-- The path of a url such as `mailto:`, which has no hierarchy. -/
  | text (value : List Char)
  | segments (values : List (List Char))
  deriving DecidableEq, Repr

structure UrlRecord where
  scheme : List Char
  username : List Char
  password : List Char
  host : Option (List Char)
  port : Option Nat
  path : UrlPath
  query : Option (List Char)
  fragment : Option (List Char)
  deriving DecidableEq, Repr

/-- The host parser: whether the host is kept as it is, and the text; its result is the
serialized host. -/
def HostParser : Type := Bool → List Char → Option (List Char)

namespace UrlRecord

def blank (scheme : List Char) : UrlRecord :=
  { scheme, username := [], password := [], host := none, port := none, path := .segments []
    query := none, fragment := none }

def segments (url : UrlRecord) : List (List Char) :=
  match url.path with
  | .segments values => values
  | .text _ => []

def pathText (url : UrlRecord) : List Char :=
  match url.path with
  | .segments values => values.flatMap ('/' :: ·)
  | .text value => value

end UrlRecord

section Schemes

def fileScheme : List Char := ['f', 'i', 'l', 'e']

def defaultPorts : List (List Char × Option Nat) :=
  [(['f', 't', 'p'], some 21), (fileScheme, none), (['h', 't', 't', 'p'], some 80),
    (['h', 't', 't', 'p', 's'], some 443), (['w', 's'], some 80), (['w', 's', 's'], some 443)]

def isSpecial (scheme : List Char) : Bool := (defaultPorts.map Prod.fst).contains scheme

def defaultPort (scheme : List Char) : Option Nat := (defaultPorts.lookup scheme).join

def isSchemeChar (char : Char) : Bool :=
  char.isAlphanum || char = '+' || char = '-' || char = '.'

/-- The scheme in lower case, and what follows its colon. -/
def splitScheme (text : List Char) : Option (List Char × List Char) :=
  match text.head? with
  | none => none
  | some first =>
    if first.isAlpha then
      match text.dropWhile isSchemeChar with
      | ':' :: rest => some ((text.takeWhile isSchemeChar).map Char.toLower, rest)
      | _ => none
    else none

end Schemes

section Encoding

def hexDigit (value : Nat) : Char :=
  Char.ofNat (if value < 10 then 0x30 + value else 0x37 + value)

def escapeByte (byte : UInt8) : List Char :=
  ['%', hexDigit (byte.toNat / 16), hexDigit (byte.toNat % 16)]

/-- Every percent-encode set contains the C0 controls and what is not ASCII. -/
def escapes (others : String) (char : Char) : Bool :=
  char.toNat ≤ 0x1F || 0x7E < char.toNat || others.toList.contains char

def escape (others : String) (text : List Char) : List Char :=
  text.flatMap fun char =>
    if escapes others char then (String.utf8EncodeChar char).flatMap escapeByte else [char]

def fragmentSet : String := " \"<>`"
def pathSet : String := " \"#<>?^`\x7b\x7d"
def userinfoSet : String := " \"#<>?^`\x7b\x7d/:;=@[\\]|"

def querySet (scheme : List Char) : String :=
  if isSpecial scheme then " \"#<>'" else " \"#<>"

end Encoding

section Paths

def isBlank (char : Char) : Bool := char.toNat ≤ 0x20

/-- The parser trims the text and drops tabs and line ends anywhere in it. -/
def clean (text : List Char) : List Char :=
  ((text.dropWhile isBlank).rdropWhile isBlank).filter fun char =>
    char ≠ '\t' && char ≠ '\n' && char ≠ '\r'

def lowered (segment : List Char) : List Char := segment.map Char.toLower

/-- Dots count as dots when they are escaped, too. -/
def dotMove (segment : List Char) : Move :=
  if lowered segment ∈ [['.'], ['%', '2', 'e']] then .stay
  else if lowered segment ∈ [['.', '.'], ['.', '%', '2', 'e'], ['%', '2', 'e', '.'],
      ['%', '2', 'e', '%', '2', 'e']] then .up
  else .down

def isDriveLetter : List Char → Bool
  | [letter, colon] => letter.isAlpha && (colon = ':' || colon = '|')
  | _ => false

def isNormalizedDriveLetter : List Char → Bool
  | [letter, colon] => letter.isAlpha && colon = ':'
  | _ => false

def startsWithDriveLetter (text : List Char) : Bool :=
  isDriveLetter (text.take 2) && (text.drop 2).head?.all fun char =>
    char = '/' || char = '\\' || char = '?' || char = '#'

/-- A url of the file scheme keeps its drive. -/
def shorten (scheme : List Char) (path : List (List Char)) : List (List Char) :=
  if scheme = fileScheme ∧ path.length = 1 ∧ path.any isNormalizedDriveLetter then path
  else path.dropLast

def normalizeDrive (scheme : List Char) (path : List (List Char)) (segment : List Char) :
    List Char :=
  if scheme = fileScheme ∧ path = [] ∧ isDriveLetter segment then segment.take 1 ++ [':']
  else segment

/-- A segment that a slash ends. -/
def pathStep (scheme : List Char) (path : List (List Char)) (segment : List Char) :
    List (List Char) :=
  match dotMove segment with
  | .stay => path
  | .up => shorten scheme path
  | .down => path ++ [normalizeDrive scheme path segment]

/-- The last segment; dots leave an empty one. -/
def pathEnd (scheme : List Char) (path : List (List Char)) (segment : List Char) :
    List (List Char) :=
  match dotMove segment with
  | .stay => path ++ [[]]
  | .up => shorten scheme path ++ [[]]
  | .down => path ++ [normalizeDrive scheme path segment]

def appendSegments (scheme : List Char) : List (List Char) → List (List Char) → List (List Char)
  | path, [] => path
  | path, [last] => pathEnd scheme path last
  | path, segment :: next :: rest =>
    appendSegments scheme (pathStep scheme path segment) (next :: rest)

def isSeparator (special : Bool) (char : Char) : Bool := char = '/' || (special && char = '\\')

def endsPath (char : Char) : Bool := char = '?' || char = '#'

/-- The segments of a text up to its query or fragment, escaped. -/
def splitSegments (special : Bool) (text : List Char) : List (List Char) :=
  ((text.takeWhile (!endsPath ·)).splitOnP (isSeparator special)).map (escape pathSet)

end Paths

namespace UrlRecord

/-- The query and fragment states: the text is at a question mark, at a hash or at its
end. -/
def withTail (url : UrlRecord) : List Char → UrlRecord
  | '?' :: rest =>
    { url with
      query := some (escape (querySet url.scheme) (rest.takeWhile (· ≠ '#')))
      fragment := match rest.dropWhile (· ≠ '#') with
        | [] => none
        | _ :: fragment => some (escape fragmentSet fragment) }
  | '#' :: rest => { url with fragment := some (escape fragmentSet rest) }
  | _ => url

def pathState (url : UrlRecord) (path : List (List Char)) (text : List Char) : UrlRecord :=
  { url with
    path := .segments
      (appendSegments url.scheme path (splitSegments (isSpecial url.scheme) text)) }.withTail
    (text.dropWhile (!endsPath ·))

def pathStartState (url : UrlRecord) : List Char → UrlRecord
  | [] => if isSpecial url.scheme then url.pathState [] [] else url
  | first :: rest =>
    if isSeparator (isSpecial url.scheme) first then url.pathState [] rest
    else if endsPath first ∧ ¬ isSpecial url.scheme then url.withTail (first :: rest)
    else url.pathState [] (first :: rest)

def textPathState (url : UrlRecord) (text : List Char) : UrlRecord :=
  let path := text.takeWhile (!endsPath ·)
  let escaped := escape "" path
  { url with
    path := .text
      (if path.getLast? = some ' ' then escaped.dropLast ++ ['%', '2', '0'] else escaped) }.withTail
    (text.dropWhile (!endsPath ·))

end UrlRecord

section Authority

/-- The host and the text after the first colon outside brackets. -/
def splitPort : Bool → List Char → List Char × Option (List Char)
  | _, [] => ([], none)
  | inside, char :: rest =>
    if char = ':' ∧ ¬ inside then ([], some rest)
    else
      let split := splitPort (char = '[' || (inside && char ≠ ']')) rest
      (char :: split.1, split.2)

def portValue (digits : List Char) : Nat :=
  digits.foldl (fun value digit => value * 10 + (digit.toNat - '0'.toNat)) 0

/-- A default port is not kept. -/
def parsePort (scheme : List Char) : Option (List Char) → Option (Option Nat)
  | none | some [] => some none
  | some digits =>
    if digits.all Char.isDigit ∧ portValue digits ≤ 65535 then
      some (if defaultPort scheme = some (portValue digits) then none
        else some (portValue digits))
    else none

namespace UrlRecord

def hostState (hosts : HostParser) (url : UrlRecord) (hostText rest : List Char) :
    Option UrlRecord :=
  let split := splitPort false hostText
  if split.1 = [] ∧ (split.2.isSome ∨ isSpecial url.scheme) then none
  else
    match hosts (!isSpecial url.scheme) split.1, parsePort url.scheme split.2 with
    | some host, some port => some ({ url with host := some host, port }.pathStartState rest)
    | _, _ => none

/-- The credentials end at the last at sign. -/
def authorityState (hosts : HostParser) (url : UrlRecord) (text : List Char) : Option UrlRecord :=
  let ends := fun char => isSeparator (isSpecial url.scheme) char || endsPath char
  let authority := text.takeWhile (!ends ·)
  let rest := text.dropWhile (!ends ·)
  if '@' ∈ authority then
    let credentials := (authority.rdropWhile (· ≠ '@')).dropLast
    let hostText := authority.rtakeWhile (· ≠ '@')
    if hostText = [] then none
    else
      { url with
        username := escape userinfoSet (credentials.takeWhile (· ≠ ':'))
        password := escape userinfoSet (credentials.dropWhile (· ≠ ':')).tail }.hostState
        hosts hostText rest
  else url.hostState hosts authority rest

def slashesState (hosts : HostParser) (url : UrlRecord) (text : List Char) : Option UrlRecord :=
  url.authorityState hosts (text.dropWhile (isSeparator true))

end UrlRecord

end Authority

section Relative

variable (hosts : HostParser)

namespace UrlRecord

def sameAuthority (base : UrlRecord) : UrlRecord :=
  { base with path := .segments [], query := none, fragment := none }

def relativeSlashState (base : UrlRecord) (text : List Char) : Option UrlRecord :=
  match text with
  | '/' :: rest =>
    if isSpecial base.scheme then (blank base.scheme).slashesState hosts rest
    else (blank base.scheme).authorityState hosts rest
  | '\\' :: rest =>
    if isSpecial base.scheme then (blank base.scheme).slashesState hosts rest
    else some (base.sameAuthority.pathState [] text)
  | _ => some (base.sameAuthority.pathState [] text)

def relativeState (base : UrlRecord) (text : List Char) : Option UrlRecord :=
  match text with
  | [] => some { base with fragment := none }
  | first :: rest =>
    if isSeparator (isSpecial base.scheme) first then base.relativeSlashState hosts rest
    else if endsPath first then some ({ base with fragment := none }.withTail text)
    else some (base.sameAuthority.pathState (shorten base.scheme base.segments) text)

def fileHostState (text : List Char) : Option UrlRecord :=
  let ends := fun char => isSeparator true char || endsPath char
  let buffer := text.takeWhile (!ends ·)
  let rest := text.dropWhile (!ends ·)
  let url := { blank fileScheme with host := some [] }
  -- The drive letter is left in the buffer for the path state.
  if isDriveLetter buffer then some (url.pathState [] text)
  else if buffer = [] then some (url.pathStartState rest)
  else
    match hosts false buffer with
    | none => none
    | some host =>
      let kept := if host = "localhost".toList then [] else host
      some ({ url with host := some kept }.pathStartState rest)

def isFile : Option UrlRecord → Option UrlRecord
  | some base => if base.scheme = fileScheme then some base else none
  | none => none

def fileSlashState (base : Option UrlRecord) (text : List Char) : Option UrlRecord :=
  let url := { blank fileScheme with host := some [] }
  match text.head?.map (isSeparator true), isFile base with
  | some true, _ => fileHostState hosts text.tail
  | _, none => some (url.pathState [] text)
  | _, some base =>
    let drive := base.segments.take 1
    let kept := if !startsWithDriveLetter text && drive.any isNormalizedDriveLetter then drive
      else []
    some ({ url with host := base.host }.pathState kept text)

def fileState (base : Option UrlRecord) (text : List Char) : Option UrlRecord :=
  let url := { blank fileScheme with host := some [] }
  match text, isFile base with
  | [], some base =>
    some { url with host := base.host, path := base.path, query := base.query }
  | [], none => some (url.pathState [] [])
  | first :: rest, file =>
    if isSeparator true first then fileSlashState hosts base rest
    else
      match file with
      | none => some (url.pathState [] text)
      | some base =>
        if endsPath first then
          some ({ url with host := base.host, path := base.path, query := base.query }.withTail
            text)
        else
          let path := if startsWithDriveLetter text then []
            else shorten fileScheme base.segments
          some ({ url with host := base.host }.pathState path text)

def schemeState (base : Option UrlRecord) (scheme text : List Char) : Option UrlRecord :=
  if scheme = fileScheme then fileState hosts base text
  else if isSpecial scheme then
    match base with
    | none => (blank scheme).slashesState hosts text
    | some base =>
      if base.scheme = scheme ∧ ¬ ['/', '/'].isPrefixOf text then base.relativeState hosts text
      else (blank scheme).slashesState hosts text
  else
    match text with
    | '/' :: '/' :: rest => (blank scheme).authorityState hosts rest
    | '/' :: rest => some ((blank scheme).pathState [] rest)
    | _ => some ((blank scheme).textPathState text)

def noSchemeState (base : Option UrlRecord) (text : List Char) : Option UrlRecord :=
  match base with
  | none => none
  | some base =>
    match base.path with
    | .text _ =>
      if text.head? = some '#' then some ({ base with fragment := none }.withTail text)
      else none
    | .segments _ =>
      if base.scheme = fileScheme then fileState hosts (some base) text
      else base.relativeState hosts text

def basicParse (base : Option UrlRecord) (text : List Char) : Option UrlRecord :=
  match splitScheme (clean text) with
  | some (scheme, rest) => schemeState hosts base scheme rest
  | none => noSchemeState hosts base (clean text)

def parse (text : List Char) : Option UrlRecord := basicParse hosts none text

def join (base : UrlRecord) (text : List Char) : Option UrlRecord :=
  basicParse hosts (some base) text

end UrlRecord

end Relative

end DragonflyClient.Library
