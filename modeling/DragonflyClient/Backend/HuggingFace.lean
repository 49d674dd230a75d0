import DragonflyClient.Core.Error
import DragonflyClient.Library.UrlPath

/-!
The urls of the Hugging Face backend (`backend/hugging_face.rs`), and those that a listing makes of
the files of a repository.
-/

namespace DragonflyClient.Backend.HuggingFace

open Library List UrlRecord

inductive RepositoryType where
  | model
  | dataset
  | space
  deriving DecidableEq, Repr

structure ParsedUrl where
  url : UrlRecord
  repositoryId : List Char
  repositoryType : RepositoryType
  filePath : Option (List Char)
  deriving DecidableEq, Repr

/-- The type that the first segment names, and how many segments that takes. -/
def typeOf : List (List Char) → RepositoryType × Nat
  | ['d', 'a', 't', 'a', 's', 'e', 't', 's'] :: _ => (.dataset, 1)
  | ['s', 'p', 'a', 'c', 'e', 's'] :: _ => (.space, 1)
  | ['m', 'o', 'd', 'e', 'l', 's'] :: _ => (.model, 1)
  | _ => (.model, 0)

def parseSegments (url : UrlRecord) (segments : List (List Char)) : ClientResult ParsedUrl :=
  match segments.drop (typeOf segments).2 with
  | owner :: repository :: rest =>
    .ok
      { url
        repositoryId := owner ++ '/' :: repository
        repositoryType := (typeOf segments).1
        filePath := if rest = [] then none else some (['/'].intercalate rest) }
  | _ => .error .invalidParameter

def tryFrom (url : UrlRecord) : ClientResult ParsedUrl :=
  match url.hostStr with
  | none => .error (.invalidURI url.serialize)
  | some host =>
    let rawPath := host ++ url.pathText.rdropWhile (· = '/')
    parseSegments url (((rawPath.dropWhile (· = '/')).rdropWhile (· = '/')).splitOn '/')

def scheme : List Char := ['h', 'f']

def datasets : List Char := "datasets".toList

def spaces : List Char := "spaces".toList

/-- The url that the listing returns for a file; `none` is an error of the url parser. -/
def buildHfUrl (hosts : HostParser) (parsed : ParsedUrl) (filename : List Char) :
    Option UrlRecord :=
  let path := parsed.repositoryId ++ '/' :: filename
  parse hosts (scheme ++ "://".toList ++
    match parsed.repositoryType with
    | .model => path
    | .dataset => datasets ++ '/' :: path
    | .space => spaces ++ '/' :: path)

def owner (parsed : ParsedUrl) : List Char := parsed.repositoryId.takeWhile (· ≠ '/')

def repository (parsed : ParsedUrl) : List Char :=
  (parsed.repositoryId.dropWhile (· ≠ '/')).tail

/-- What the url parser takes over as it is written; the owner of a model stands in the place of the
host, where it must not look like a type. -/
def Rebuilt (hosts : HostParser) (parsed : ParsedUrl) (filename : List Char) : Prop :=
  match parsed.repositoryType with
  | .model =>
    owner parsed ≠ [] ∧ hosts true (owner parsed) = some (owner parsed) ∧
      typeOf [owner parsed] = (.model, 0) ∧
      isKeptPath (repository parsed ++ '/' :: filename) = true
  | .dataset | .space => isKeptPath (parsed.repositoryId ++ '/' :: filename) = true

/-- The host parser returns no part of another component, and takes over the types that stand in the
place of a host. -/
structure LawfulHosts (hosts : HostParser) : Prop where
  plain : hosts.Lawful
  types : ∀ name ∈ [datasets, spaces], hosts true name = some name

section Rebuilding

variable {hosts : HostParser} {host path filename : List Char} {url built : UrlRecord}
  {parsed : ParsedUrl}

theorem notMem_of_mem_splitOn {text part : List Char} (listed : part ∈ text.splitOn '/') :
    '/' ∉ part := by
  induction text generalizing part with
  | nil => simp_all
  | cons char rest ih =>
    rw [List.splitOn, splitOnP_cons_eq_if_modifyHead] at listed
    split at listed
    · rcases mem_cons.mp listed with rfl | later
      · exact not_mem_nil
      · exact ih later
    next other =>
      cases parts : rest.splitOnP (· == '/') with
      | nil => exact absurd parts (splitOnP_ne_nil _ rest)
      | cons head tail =>
        rw [List.splitOn, parts] at ih
        rw [parts, modifyHead_cons] at listed
        rcases mem_cons.mp listed with rfl | later
        · have rest := ih mem_cons_self
          intro slash
          rcases mem_cons.mp slash with rfl | inHead
          · exact other rfl
          · exact rest inHead
        · exact ih (mem_cons_of_mem _ later)

theorem of_tryFrom_ok (from_url : tryFrom url = .ok parsed) :
    ∃ owner repository, '/' ∉ owner ∧ '/' ∉ repository ∧
      parsed.repositoryId = owner ++ '/' :: repository := by
  unfold tryFrom at from_url
  split at from_url
  next => cases from_url
  next =>
    dsimp only at from_url
    generalize split : List.splitOn '/' _ = segments at from_url
    unfold parseSegments at from_url
    split at from_url
    next owner repository rest remaining =>
      obtain rfl := Except.ok.inj from_url
      have listed (part : List Char) (here : part ∈ owner :: repository :: rest) : '/' ∉ part := by
        rw [← remaining, ← split] at here
        exact notMem_of_mem_splitOn (mem_of_mem_drop here)
      exact ⟨owner, repository, listed owner (by simp), listed repository (by simp), rfl⟩
    next => cases from_url

theorem getLast?_of_named (named : [] ∉ filename.splitOn '/')
    (before : List Char) : (before ++ '/' :: filename).getLast? ≠ some '/' := by
  cases filename using List.reverseRecOn with
  | nil => simp at named
  | append_singleton start last =>
    rw [← cons_append, ← append_assoc, getLast?_concat]
    intro slash
    cases slash
    rw [splitOn_append_cons_self] at named
    simp at named

theorem parseSegments_named {segments owner repository repositoryType offset}
    (type : typeOf segments = (repositoryType, offset))
    (remaining : segments.drop offset = owner :: repository :: filename.splitOn '/') :
    parseSegments url segments =
      .ok { url, repositoryType
            repositoryId := owner ++ '/' :: repository
            filePath := some filename } := by
  have some : filename.splitOn '/' ≠ [] := splitOn_ne_nil _ _
  simp only [parseSegments, type, remaining, some, if_false, intercalate_splitOn]

theorem typeOf_cons (first : List Char) (rest : List (List Char)) :
    typeOf (first :: rest) = typeOf [first] := by
  unfold typeOf
  split <;> simp_all

theorem typeOf_cases (name : List Char) :
    (typeOf [name]).2 = 1 ∨ typeOf [name] = (.model, 0) := by
  unfold typeOf
  split <;> simp

theorem parse_eq (hosts : HostParser) (host path : List Char) :
    parse hosts (scheme ++ "://".toList ++ (host ++ '/' :: path)) =
      (blank scheme).authorityState hosts
        (host.filter (fun char => char ≠ '\t' && char ≠ '\n' && char ≠ '\r') ++
          '/' :: trimmed path) := by
  rw [parse, basicParse, ← append_assoc, clean_append_slash rfl, filter_append]
  rfl

theorem notMem_slash_of_plain (plain : isPlainHost host = true) : '/' ∉ host := by
  intro slash
  have here := all_eq_true.mp (Bool.and_eq_true_iff.mp plain).1 '/' slash
  cases here

theorem parse_of_plain (hosts : HostParser) (plain : isPlainHost host = true) (path : List Char) :
    parse hosts (scheme ++ "://".toList ++ (host ++ '/' :: path)) =
      (hosts true host).map fun name =>
        { blank scheme with host := some name }.pathState [] (trimmed path) := by
  have visible : ∀ char ∈ host, isBlank char = false := by
    intro char here
    have seen := all_eq_true.mp (Bool.and_eq_true_iff.mp plain).1 char here
    simpa using (Bool.and_eq_true_iff.mp seen).2
  rw [parse_eq, filter_of_visible visible, authorityState_of_plain rfl plain]

theorem tryFrom_of_host (known : url.hostStr = some host) (noSlash : '/' ∉ host) :
    tryFrom url =
      parseSegments url ((host ++ url.pathText.rdropWhile (· = '/')).splitOn '/') := by
  have nonempty : host ≠ [] := by simpa using (Option.filter_eq_some_iff.mp known).2
  have first (rest : List Char) : (host ++ rest).dropWhile (· = '/') = host ++ rest := by
    cases host with
    | nil => exact absurd rfl nonempty
    | cons char others =>
      refine dropWhile_cons_of_neg fun slash => ?_
      exact noSlash (of_decide_eq_true slash ▸ mem_cons_self)
  have last : (host ++ url.pathText.rdropWhile (· = '/')).rdropWhile (· = '/') =
      host ++ url.pathText.rdropWhile (· = '/') := by
    refine rdropWhile_eq_self_iff.mpr fun some slash => ?_
    by_cases left : url.pathText.rdropWhile (· = '/') = []
    · simp only [left, append_nil] at slash
      exact noSlash (of_decide_eq_true slash ▸ getLast_mem nonempty)
    · rw [getLast_append_of_ne_nil _ left] at slash
      exact rdropWhile_last_not _ _ left slash
  simp only [tryFrom, known, first, last]

/-- A path that is kept is read back, with the host before it. -/
theorem tryFrom_parse (plain : isPlainHost host = true) (nonempty : host ≠ [])
    (taken : hosts true host = some host) (kept : isKeptPath path = true)
    (ends : ('/' :: path).getLast? ≠ some '/') :
    ∃ built, parse hosts (scheme ++ "://".toList ++ (host ++ '/' :: path)) = some built ∧
      tryFrom built = parseSegments built (host :: path.splitOn '/') := by
  obtain ⟨unescaped, plainly⟩ := isKeptPath_iff.mp kept
  rw [parse_of_plain hosts plain, taken, trimmed_of_kept unescaped]
  refine ⟨_, rfl, ?_⟩
  have found := pathState_host_path { blank scheme with host := some host } [] path
  have text : (pathState { blank scheme with host := some host } [] path).pathText
      = '/' :: path := by
    rw [pathText, found.2]
    have read := flatMap_appendSegments_of_kept (by decide : scheme ≠ fileScheme) unescaped
    rwa [plainly, if_neg (by decide)] at read
  have whole : ('/' :: path).rdropWhile (· = '/') = '/' :: path := by
    refine rdropWhile_eq_self_iff.mpr fun some slash => ends ?_
    exact (getLast?_eq_some_getLast _).trans (congrArg _ (of_decide_eq_true slash))
  have known : (pathState { blank scheme with host := some host } []
      path).hostStr = some host := by
    rw [hostStr, found.1]
    simp [nonempty]
  rw [tryFrom_of_host known (notMem_slash_of_plain plain), text, whole,
    splitOn_append_cons_self_of_not_mem (notMem_slash_of_plain plain)]

theorem of_parseSegments_file {text}
    (ok : parseSegments url (host :: text.splitOn '/') = .ok parsed)
    (file : parsed.filePath = some filename) :
    parsed.repositoryType = (typeOf [host]).1 ∧
      (if (typeOf [host]).2 = 0 then host ++ '/' :: text else text) =
        parsed.repositoryId ++ '/' :: filename := by
  have joined (first next : List Char) (rest : List (List Char)) :
      ['/'].intercalate (first :: next :: rest) =
        first ++ '/' :: ['/'].intercalate (next :: rest) := by simp [intercalate]
  have read (segments : List (List Char)) {owner repository : List Char}
      {rest : List (List Char)} (same : segments = owner :: repository :: rest)
      (named : rest ≠ []) :
      ['/'].intercalate segments =
        owner ++ '/' :: repository ++ '/' :: ['/'].intercalate rest := by
    obtain ⟨next, others, rfl⟩ := exists_cons_of_ne_nil named
    rw [same, joined, joined, append_assoc, cons_append]
  unfold parseSegments at ok
  rw [typeOf_cons] at ok
  split at ok
  next owner repository rest remaining =>
    obtain rfl := Except.ok.inj ok
    have named : rest ≠ [] := by
      rintro rfl
      cases file
    simp only [named, if_false, Option.some.injEq] at file
    subst file
    refine ⟨rfl, (read _ remaining named).symm.trans ?_ |>.symm⟩
    rcases typeOf_cases host with typed | plain
    · rw [typed, drop_one, tail_cons, intercalate_splitOn, if_neg (by decide)]
    · obtain ⟨first, others, parts⟩ := exists_cons_of_ne_nil (splitOn_ne_nil '/' text)
      rw [plain, drop_zero, parts, joined, ← parts, intercalate_splitOn, if_pos rfl]
  next => cases ok

/-- What the url that was built is read as: a host, and a text that holds the path only if the path
was kept. -/
theorem of_read (lawful : hosts.Lawful) (noSlash : '/' ∉ host)
    (parses : parse hosts (scheme ++ "://".toList ++ (host ++ '/' :: path)) = some built)
    (ok : tryFrom built = .ok parsed) (file : parsed.filePath = some filename) :
    ∃ name text, name ≠ [] ∧ '/' ∉ name ∧ (name = host → hosts true host = some host) ∧
      parsed.repositoryType = (typeOf [name]).1 ∧
      (if (typeOf [name]).2 = 0 then name ++ '/' :: text else text) =
        parsed.repositoryId ++ '/' :: filename ∧
      ∀ front, text = front ++ path → front = [] ∧ isKeptPath path = true := by
  have authority := parses
  rw [parse_eq] at authority
  obtain ⟨_, name, taken, known, path⟩ := of_authorityState rfl
    (fun slash => noSlash (mem_of_mem_filter slash)) authority
  have plain := lawful _ _ taken
  have nameSlash := notMem_slash_of_plain plain
  have nonempty : name ≠ [] := by
    rintro rfl
    have none : built.hostStr = none := by rw [hostStr, known]; rfl
    rw [tryFrom, none] at ok
    cases ok
  have found : built.hostStr = some name := by simp [hostStr, known, nonempty]
  rw [tryFrom_of_host found nameSlash] at ok
  have kept : name = host → hosts true host = some host := by
    rintro rfl
    rw [parse_of_plain hosts plain] at parses
    obtain ⟨other, parsed, rfl⟩ := Option.map_eq_some_iff.mp parses
    rw [(pathState_host_path ..).1] at known
    exact parsed.trans known
  cases left : built.pathText.rdropWhile (· = '/') with
  | nil =>
    rw [left, append_nil, splitOn_eq_singleton nameSlash] at ok
    unfold parseSegments at ok
    rcases typeOf_cases name with typed | untyped
    · simp [typed] at ok
    · simp [untyped] at ok
  | cons first text =>
    rcases path with none | path
    · simp [pathText, none] at left
    · rw [left] at ok
      rw [pathText, path] at left
      have slash : first = '/' := by
        generalize appendSegments _ _ _ = segments at left
        have before := left ▸ rdropWhile_prefix (· = '/') (segments.flatMap ('/' :: ·))
        cases segments with
        | nil => simp at before
        | cons => exact (cons_prefix_cons.mp before).1
      subst slash
      rw [splitOn_append_cons_self_of_not_mem nameSlash] at ok
      obtain ⟨type, read⟩ := of_parseSegments_file ok file
      refine ⟨name, text, nonempty, nameSlash, kept, type, read, ?_⟩
      rintro front rfl
      exact isKeptPath_of_read (by decide) left

/-- The url that a listing makes of a file leads back to it exactly if the url parser changes
nothing of it. -/
theorem listing_round_trip_hf (lawful : LawfulHosts hosts) (from_url : tryFrom url = .ok parsed)
    (named : [] ∉ filename.splitOn '/') :
    (∃ built, buildHfUrl hosts parsed filename = some built ∧
      tryFrom built = .ok { parsed with url := built, filePath := some filename }) ↔
      Rebuilt hosts parsed filename := by
  obtain ⟨_, id, type, _⟩ := parsed
  obtain ⟨name, project, noOwner, noProject, rfl⟩ := of_tryFrom_ok from_url
  have file : (project ++ '/' :: filename).splitOn '/' = project :: filename.splitOn '/' :=
    splitOn_append_cons_self_of_not_mem noProject filename
  have whole : (name ++ '/' :: project ++ '/' :: filename).splitOn '/' =
      name :: project :: filename.splitOn '/' := by
    rw [append_assoc, cons_append, splitOn_append_cons_self_of_not_mem noOwner, file]
  have others : ∀ char ∈ name, decide (char ≠ '/') = true := fun char here =>
    decide_eq_true fun slash => noOwner (slash ▸ here)
  have first : (name ++ '/' :: project).takeWhile (· ≠ '/') = name := by
    rw [takeWhile_append_of_pos others, takeWhile_cons_of_neg (by simp), append_nil]
  have second : ((name ++ '/' :: project).dropWhile (· ≠ '/')).tail = project := by
    rw [dropWhile_append_of_pos others, dropWhile_cons_of_neg (by simp), tail_cons]
  have ends (before : List Char) := getLast?_of_named named ('/' :: before)
  -- A type in the place of the host.
  have typed (host : List Char) (listed : host ∈ [datasets, spaces])
      (type : RepositoryType) (named : typeOf [host] = (type, 1)) (other : type ≠ .model) :
      (∃ built, parse hosts (scheme ++ "://".toList ++
          (host ++ '/' :: (name ++ '/' :: project ++ '/' :: filename))) = some built ∧
        tryFrom built = .ok ⟨built, name ++ '/' :: project, type, some filename⟩) ↔
        isKeptPath (name ++ '/' :: project ++ '/' :: filename) = true := by
    have taken := lawful.types host listed
    have plain := lawful.plain _ _ taken
    constructor
    · rintro ⟨built, parses, tried⟩
      obtain ⟨found, text, -, -, -, same, read, kept⟩ :=
        of_read lawful.plain (notMem_slash_of_plain plain) parses tried rfl
      rcases typeOf_cases found with one | untyped
      · rw [one, if_neg (by decide)] at read
        exact (kept [] read).2
      · rw [untyped] at same
        exact absurd same other
    · intro kept
      have nonempty : host ≠ [] := by
        rintro rfl
        cases named
      obtain ⟨built, parses, tried⟩ := tryFrom_parse plain nonempty taken kept (ends _)
      rw [whole] at tried
      exact ⟨built, parses, tried.trans (parseSegments_named ((typeOf_cons _ _).trans named) rfl)⟩
  cases type with
  | model =>
    simp only [buildHfUrl, Rebuilt, owner, repository, first, second, append_assoc name,
      cons_append]
    constructor
    · rintro ⟨built, parses, tried⟩
      obtain ⟨found, text, nonempty, noSlash, taken, same, read, kept⟩ :=
        of_read lawful.plain noOwner parses tried rfl
      dsimp only at read
      rw [append_assoc, cons_append] at read
      rcases typeOf_cases found with one | untyped
      · rw [one, if_neg (by decide)] at read
        have none := (kept (name ++ ['/']) (by simpa using read)).1
        simp at none
      · rw [untyped, if_pos rfl] at read
        have parts := congrArg (splitOn '/') read
        rw [splitOn_append_cons_self_of_not_mem noSlash,
          splitOn_append_cons_self_of_not_mem noOwner, cons.injEq] at parts
        obtain ⟨rfl, -⟩ := parts
        exact ⟨nonempty, taken rfl, untyped, (kept [] (by simpa using read)).2⟩
    · rintro ⟨nonempty, taken, untyped, kept⟩
      obtain ⟨built, parses, tried⟩ :=
        tryFrom_parse (lawful.plain _ _ taken) nonempty taken kept (ends _)
      rw [file] at tried
      exact ⟨built, parses, tried.trans (parseSegments_named ((typeOf_cons _ _).trans untyped) rfl)⟩
  | dataset => exact typed datasets (by simp) .dataset rfl (by simp)
  | space => exact typed spaces (by simp) .space rfl (by simp)

end Rebuilding

namespace Small

/-- Every host that is plain is taken over as it is written. -/
def hosts : HostParser := fun _ text => if isPlainHost text then some text else none

def url (host : String) (segments : List String) : UrlRecord :=
  { blank scheme with
    host := some host.toList, path := .segments (segments.map String.toList) }

def parsed (url : UrlRecord) (repositoryType : RepositoryType) (repositoryId : String)
    (filePath : Option String) : ParsedUrl :=
  { url, repositoryId := repositoryId.toList, repositoryType
    filePath := filePath.map String.toList }

end Small

section Small

open HuggingFace.Small

theorem lawfulHosts : LawfulHosts hosts where
  plain := by
    intro text host found
    obtain ⟨plain, same⟩ := Option.ite_none_right_eq_some.mp found
    exact Option.some.inj same ▸ plain
  types := by decide

/-- A file with an escape in its name, of a model whose owner holds a character that a path cannot
hold. -/
theorem listing_round_trip_hf_model :
    let directory := url "a\x7bb" ["c"]
    let model := parsed directory .model "a\x7bb/c" none
    tryFrom directory = .ok model ∧
      ∃ built, buildHfUrl hosts model "d/x%20".toList = some built ∧
        tryFrom built = .ok { model with url := built, filePath := some "d/x%20".toList } := by
  intro directory model
  have from_url : tryFrom directory = .ok model := by decide +kernel
  refine ⟨from_url, (listing_round_trip_hf lawfulHosts from_url (by decide +kernel)).mpr ?_⟩
  exact ⟨by decide +kernel, by decide +kernel, by decide +kernel, by decide +kernel⟩

/-- The file `f` of the model `datasets/x` becomes the dataset `x/f`, and a question mark in the
name of a file ends the path. -/
theorem listed_file_lost :
    let directory := url "models" ["datasets", "x"]
    let model := parsed directory .model "datasets/x" none
    let other := parsed (url "a" ["b"]) .model "a/b" none
    let cut := { url "a" ["b", "f"] with query := some ['g'] }
    parse hosts "hf://models/datasets/x".toList = some directory ∧
      tryFrom directory = .ok model ∧
      buildHfUrl hosts model ['f'] = some (url "datasets" ["x", "f"]) ∧
      tryFrom (url "datasets" ["x", "f"]) =
        .ok (parsed (url "datasets" ["x", "f"]) .dataset "x/f" none) ∧
      tryFrom other.url = .ok other ∧ buildHfUrl hosts other "f?g".toList = some cut ∧
      tryFrom cut = .ok (parsed cut .model "a/b" (some "f")) := by
  decide +kernel

end Small

end DragonflyClient.Backend.HuggingFace
