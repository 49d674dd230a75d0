import DragonflyClient.Library.UrlJoin

/-!
The url crate around the standard parser: the setter of a path, the host and the text of a url;
and the paths that are kept as they are written.
-/

namespace DragonflyClient.Library

open List hiding beq_eq_decide

theorem flatMap_splitOnP_slash (text : List Char) :
    (text.splitOnP (isSeparator false)).flatMap ('/' :: ·) = '/' :: text := by
  have joined : ∀ parts : List (List Char), parts ≠ [] →
      parts.flatMap ('/' :: ·) = '/' :: ['/'].intercalate parts := by
    intro parts nonempty
    induction parts with
    | nil => exact absurd rfl nonempty
    | cons part parts ih =>
      cases parts with
      | nil => simp
      | cons next rest =>
        rw [flatMap_cons, ih (by simp)]
        simp [intercalate]
  have separator : isSeparator false = (· == '/') := by
    funext char
    simp [isSeparator, beq_eq_decide]
  rw [joined _ (splitOnP_ne_nil _ _), separator]
  exact congrArg _ (intercalate_splitOn '/')

namespace UrlRecord

/-- `host_str`; an empty host is none. -/
def hostStr (url : UrlRecord) : Option (List Char) := url.host.filter (· ≠ [])

/-- `to_string`. -/
def serialize (url : UrlRecord) : String :=
  let credentials := url.username ++
    (if url.password = [] then [] else ':' :: url.password) ++
    (if url.username = [] ∧ url.password = [] then [] else ['@'])
  let port := (url.port.map fun port => s!":{port}".toList).getD []
  let authority := match url.host with
    | some host => "//".toList ++ credentials ++ host ++ port
    | none => if ['/', '/'].isPrefixOf url.pathText then "/.".toList else []
  String.ofList (url.scheme ++ ':' :: (authority ++ url.pathText) ++
    (url.query.map ('?' :: ·)).getD [] ++ (url.fragment.map ('#' :: ·)).getD [])

/-- `set_path` of a url with a host whose scheme is not special.  Question marks and hashes are
escaped, but a text that begins with one leaves an empty path. -/
def setPath (url : UrlRecord) (text : List Char) : UrlRecord :=
  let kept := text.filter fun char => char ≠ '\t' && char ≠ '\n' && char ≠ '\r'
  let append := fun text : List Char => UrlPath.segments
    (appendSegments url.scheme [] ((text.splitOnP (isSeparator false)).map (escape pathSet)))
  { url with
    path := match kept with
      | [] => .segments []
      | first :: rest =>
        if endsPath first then .segments []
        else if first = '/' then append rest
        else append kept }

end UrlRecord

def isDots (written : List Char → List Char) (part : List Char) : Bool :=
  dotMove (written part) ≠ .down

/-- One of the segments is a dot segment once it is escaped. -/
def hasDots (text : List Char) : Bool :=
  (text.splitOnP (isSeparator false)).any (isDots (escape pathSet))

section Shortening

/-- The length of the segments with a slash before each. -/
def segmentsLength (parts : List (List Char)) : Nat := (parts.flatMap ('/' :: ·)).length

theorem segmentsLength_append (front back : List (List Char)) :
    segmentsLength (front ++ back) = segmentsLength front + segmentsLength back := by
  simp [segmentsLength]

theorem segmentsLength_singleton (part : List Char) : segmentsLength [part] = part.length + 1 := by
  simp [segmentsLength]

theorem segmentsLength_dropLast (parts : List (List Char)) :
    segmentsLength parts.dropLast ≤ segmentsLength parts := by
  rcases parts.eq_nil_or_concat with rfl | ⟨front, last, rfl⟩
  · exact Nat.le_refl _
  · rw [concat_eq_append, dropLast_concat, segmentsLength_append]
    exact Nat.le_add_right _ _

variable {scheme : List Char} (other : scheme ≠ fileScheme) {written : List Char → List Char}
  (empty : written [] = [])

theorem pathEnd_eq (scheme : List Char) (path : List (List Char)) (segment : List Char) :
    pathEnd scheme path segment =
      pathStep scheme path segment ++ if dotMove segment = .down then [] else [[]] := by
  unfold pathEnd pathStep
  cases dotMove segment <;> simp

include other

theorem pathStep_of_down {part} (down : dotMove part = .down) (path : List (List Char)) :
    pathStep scheme path part = path ++ [part] := by
  rw [pathStep, down]
  exact congrArg (path ++ [·]) (if_neg fun drive => other drive.1)

include empty

/-- Dots only take segments away. -/
theorem pathStep_of_dots {part} (dots : dotMove (written part) ≠ .down) (path : List (List Char)) :
    ∃ kept : List (List Char),
      pathStep scheme (path.map written) (written part) = kept.map written ∧
        segmentsLength kept ≤ segmentsLength path ∧ 0 < part.length := by
  have long : 0 < part.length := by
    cases part with
    | nil => exact absurd (congrArg dotMove empty) dots
    | cons => exact Nat.succ_pos _
  rw [pathStep]
  cases move : dotMove (written part) with
  | down => exact absurd move dots
  | stay => exact ⟨path, rfl, Nat.le_refl _, long⟩
  | up =>
    refine ⟨path.dropLast, ?_, segmentsLength_dropLast path, long⟩
    rw [map_dropLast]
    exact shorten_of_ne other _

theorem appendSegments_map (parts path : List (List Char)) (some : parts ≠ []) :
    ∃ kept : List (List Char), kept ≠ [] ∧
      appendSegments scheme (path.map written) (parts.map written) = kept.map written ∧
      if parts.any (isDots written) then
        segmentsLength kept < segmentsLength path + segmentsLength parts
      else kept = path ++ parts := by
  induction parts generalizing path with
  | nil => exact absurd rfl some
  | cons part parts ih =>
    have split : segmentsLength (part :: parts) = part.length + 1 + segmentsLength parts := by
      rw [← singleton_append, segmentsLength_append, segmentsLength_singleton]
    have none : segmentsLength [] = 0 := rfl
    rw [any_cons, split]
    by_cases down : dotMove (written part) = .down
    · have step : pathStep scheme (path.map written) (written part) =
          (path ++ [part]).map written := by simp [pathStep_of_down other down]
      rw [isDots, decide_eq_false (not_not_intro down), Bool.false_or]
      cases parts with
      | nil => exact ⟨path ++ [part], by simp, by simp [appendSegments, pathEnd_eq, down, step]⟩
      | cons next rest =>
        obtain ⟨kept, nonempty, appended, bound⟩ := ih (path ++ [part]) (by simp)
        refine ⟨kept, nonempty, ?_, ?_⟩
        · rw [map_cons, map_cons, appendSegments, step, ← appended, map_cons]
        · rwa [segmentsLength_append, segmentsLength_singleton, append_assoc, Nat.add_assoc]
            at bound
    · obtain ⟨front, step, shorter, long⟩ := pathStep_of_dots other empty down path
      rw [isDots, decide_eq_true down, Bool.true_or]
      simp only [if_true]
      cases parts with
      | nil =>
        refine ⟨front ++ [[]], by simp, by simp [appendSegments, pathEnd_eq, down, step, empty], ?_⟩
        rw [segmentsLength_append, segmentsLength_singleton, length_nil]
        omega
      | cons next rest =>
        obtain ⟨kept, nonempty, appended, bound⟩ := ih front (by simp)
        refine ⟨kept, nonempty, ?_, ?_⟩
        · rw [map_cons, map_cons, appendSegments, step, ← appended, map_cons]
        · split at bound
          · omega
          · rw [bound, segmentsLength_append]
            omega

/-- The path of a text is that of the segments that are left of it. -/
theorem exists_kept (text : List Char) :
    let parts := text.splitOnP (isSeparator false)
    ∃ kept : List (List Char), kept ≠ [] ∧
      appendSegments scheme [] (parts.map written) = kept.map written ∧
      if parts.any (isDots written) then
        (kept.flatMap ('/' :: ·)).length < text.length + 1
      else kept.flatMap ('/' :: ·) = '/' :: text := by
  obtain ⟨kept, nonempty, appended, bound⟩ := appendSegments_map other empty
    (text.splitOnP (isSeparator false)) [] (splitOnP_ne_nil _ _)
  refine ⟨kept, nonempty, appended, ?_⟩
  split at bound
  next dots =>
    simpa only [dots, if_true, segmentsLength, flatMap_splitOnP_slash, flatMap_nil, length_nil,
      Nat.zero_add, length_cons] using bound
  next none => rw [if_neg none, bound, nil_append, flatMap_splitOnP_slash]

omit empty

theorem exists_key (text : List Char) :
    ∃ key, (appendSegments scheme []
        ((text.splitOnP (isSeparator false)).map (escape pathSet))).flatMap ('/' :: ·) =
          '/' :: escape pathSet key ∧
      if hasDots text then key.length < text.length else key = text := by
  obtain ⟨kept, nonempty, appended, bound⟩ := @exists_kept _ other (escape pathSet) rfl text
  have escaped : (kept.map (escape pathSet)).flatMap ('/' :: ·) =
      escape pathSet (kept.flatMap ('/' :: ·)) := by
    rw [flatMap_map, escape, flatMap_assoc]
    rfl
  obtain ⟨first, rest, rfl⟩ := exists_cons_of_ne_nil nonempty
  refine ⟨first ++ rest.flatMap ('/' :: ·), (congrArg _ appended).trans (escaped.trans rfl), ?_⟩
  rw [flatMap_cons, cons_append, length_cons, Nat.add_lt_add_iff_right, cons.injEq] at bound
  rw [eq_self, true_and] at bound
  exact bound

end Shortening

/-- A text that is set as a path is not changed, but for its escapes. -/
def isSettable (text : List Char) : Bool :=
  text.head?.any (fun first => first ≠ '/' && !endsPath first) &&
    text.all (fun char => char ≠ '\t' && char ≠ '\n' && char ≠ '\r') && !hasDots text

/-- The setter leaves the whole text, or no path or a shorter one. -/
theorem UrlRecord.pathText_setPath {url : UrlRecord} (other : url.scheme ≠ fileScheme)
    (text : List Char) :
    if isSettable text then (url.setPath text).pathText = '/' :: escape pathSet text
    else (url.setPath text).pathText = [] ∨
      ∃ key, (url.setPath text).pathText = '/' :: escape pathSet key ∧
        key.length < text.length := by
  let unbroken := fun char : Char => char ≠ '\t' && char ≠ '\n' && char ≠ '\r'
  have shorter : (text.filter unbroken).length ≤ text.length := length_filter_le ..
  split
  next settable =>
    simp only [isSettable, Bool.and_eq_true, Bool.not_eq_true'] at settable
    obtain ⟨⟨starts, whole⟩, plain⟩ := settable
    have same : text.filter unbroken = text := filter_eq_self.mpr (all_eq_true.mp whole)
    obtain ⟨key, path, rest⟩ := exists_key other text
    obtain rfl : key = text := by simpa [plain] using rest
    cases key with
    | nil => cases starts
    | cons first rest =>
      simp only [head?_cons, Option.any_some, Bool.and_eq_true, decide_eq_true_eq,
        Bool.not_eq_true'] at starts
      unfold setPath
      dsimp only
      rw [same]
      simp [starts, pathText, path]
  next refused =>
    unfold setPath
    dsimp only
    split
    · exact .inl rfl
    next first rest kept =>
    change text.filter unbroken = first :: rest at kept
    rw [kept, length_cons] at shorter
    split
    · exact .inl rfl
    next goes =>
    split
    · obtain ⟨key, path, bound⟩ := exists_key other rest
      refine .inr ⟨key, path, ?_⟩
      split at bound
      · omega
      · rw [bound]
        omega
    next plain =>
      obtain ⟨key, path, bound⟩ := exists_key other (text.filter unbroken)
      refine .inr ⟨key, path, ?_⟩
      have total : (text.filter unbroken).length = rest.length + 1 := by rw [kept]; rfl
      split at bound
      · omega
      next noDots =>
        subst bound
        refine Nat.lt_of_not_le fun long => refused ?_
        have same : text.filter unbroken = text := filter_sublist.eq_of_length_le long
        rw [same] at kept noDots
        have whole := all_eq_true.mpr (filter_eq_self.mp same)
        simp only [isSettable, Bool.and_eq_true, Bool.not_eq_true']
        exact ⟨⟨by simp [kept, plain, goes], whole⟩, Bool.eq_false_iff.mpr noDots⟩

/-- A path that the parser takes over as it is written. -/
def isKeptPath (path : List Char) : Bool := path.all (!escapes pathSet ·) && !hasDots path

theorem isKeptPath_iff {path} : isKeptPath path = true ↔
    (∀ char ∈ path, escapes pathSet char = false) ∧ hasDots path = false := by
  simp [isKeptPath]

theorem escapes_of_mem_escape {text char} (here : char ∈ escape pathSet text) :
    escapes pathSet char = false := by
  have digit : ∀ value < 16, escapes pathSet (hexDigit value) = false := by decide
  obtain ⟨raw, -, written⟩ := mem_flatMap.mp here
  split at written
  · obtain ⟨byte, -, digits⟩ := mem_flatMap.mp written
    simp only [escapeByte, mem_cons, not_mem_nil, or_false] at digits
    rcases digits with rfl | rfl | rfl
    · rfl
    · exact digit _ (by have := byte.toNat_lt; omega)
    · exact digit _ (Nat.mod_lt _ (by decide))
  next plain =>
    obtain rfl := mem_singleton.mp written
    exact Bool.eq_false_iff.mpr plain

theorem isBlank_of_kept {char} (kept : escapes pathSet char = false) :
    isBlank char = false := by
  rw [Bool.eq_false_iff]
  intro blank
  have above : ¬ char.toNat ≤ 0x1F := by
    intro control
    simp [escapes, control] at kept
  have space : char = ' ' := Char.toNat_inj.mp
    (Nat.le_antisymm (of_decide_eq_true blank) (Nat.lt_of_not_le above))
  rw [space] at kept
  cases kept

/-- What the parser reads of a path behind a host: blanks are dropped at its end, tabs and line ends
everywhere. -/
def trimmed (path : List Char) : List Char :=
  (path.rdropWhile isBlank).filter fun char => char ≠ '\t' && char ≠ '\n' && char ≠ '\r'

theorem filter_of_visible {text : List Char} (visible : ∀ char ∈ text, isBlank char = false) :
    text.filter (fun char => char ≠ '\t' && char ≠ '\n' && char ≠ '\r') = text := by
  refine filter_eq_self.mpr fun char here => ?_
  have apart (other : Char) (blank : isBlank other = true) : char ≠ other := by
    rintro rfl
    exact absurd blank (by simp [visible char here])
  simp [apart '\t' rfl, apart '\n' rfl, apart '\r' rfl]

theorem clean_append_slash {text} (starts : text.head?.all (!isBlank ·) = true) (path : List Char) :
    clean (text ++ '/' :: path) =
      text.filter (fun char => char ≠ '\t' && char ≠ '\n' && char ≠ '\r') ++
        '/' :: trimmed path := by
  have start : (text ++ '/' :: path).dropWhile isBlank = text ++ '/' :: path := by
    cases text with
    | nil => exact dropWhile_cons_of_neg (by decide)
    | cons first rest => exact dropWhile_cons_of_neg (by simpa using starts)
  have finish : (text ++ '/' :: path).rdropWhile isBlank =
      text ++ '/' :: path.rdropWhile isBlank := by
    clear start
    induction path using reverseRecOn with
    | nil =>
      rw [rdropWhile_concat_neg isBlank text '/' (by decide)]
      rfl
    | append_singleton path last ih =>
      rw [← cons_append, ← append_assoc, rdropWhile_concat, rdropWhile_concat]
      split
      · exact ih
      · simp
  rw [clean, start, finish, filter_append, filter_cons_of_pos (by decide), trimmed]

section Kept

variable {scheme path : List Char} (other : scheme ≠ fileScheme)
  (kept : ∀ char ∈ path, escapes pathSet char = false)
include kept

theorem trimmed_of_kept : trimmed path = path := by
  have visible : ∀ char ∈ path, isBlank char = false := fun char here =>
    isBlank_of_kept (kept char here)
  have finish : path.rdropWhile isBlank = path := by
    refine rdropWhile_eq_self_iff.mpr fun nonempty => ?_
    simp [visible _ (getLast_mem nonempty)]
  rw [trimmed, finish, filter_of_visible visible]

theorem escape_of_kept : escape pathSet path = path := by
  induction path with
  | nil => rfl
  | cons char rest ih =>
    obtain ⟨first, others⟩ := forall_mem_cons.mp kept
    rw [escape, flatMap_cons, if_neg (by simp [first])]
    exact congrArg _ (ih others)

theorem map_escape_of_kept :
    (path.splitOnP (isSeparator false)).map (escape pathSet) =
      path.splitOnP (isSeparator false) := by
  refine (map_congr_left fun part listed => escape_of_kept ?_).trans (map_id _)
  exact fun char here => kept char (mem_of_mem_splitOnP listed char here)

theorem splitSegments_of_kept : splitSegments false path = path.splitOnP (isSeparator false) := by
  have unended : ∀ char ∈ path, (!endsPath char) = true := by
    intro char here
    have unescaped := kept char here
    rw [Bool.not_eq_true', Bool.eq_false_iff, endsPath]
    simp only [ne_eq, Bool.or_eq_true, decide_eq_true_eq]
    rintro (rfl | rfl) <;> cases unescaped
  rw [splitSegments, takeWhile_eq_self_iff.mpr unended, map_escape_of_kept kept]

include other

/-- The path of a text without escapes is the text, or shorter if it has dots. -/
theorem flatMap_appendSegments_of_kept :
    let read := (appendSegments scheme [] (splitSegments false path)).flatMap ('/' :: ·)
    if hasDots path then read.length < path.length + 1 else read = '/' :: path := by
  obtain ⟨parts, -, appended, bound⟩ := @exists_kept _ other id rfl path
  have dots : (path.splitOnP (isSeparator false)).any (isDots id) = hasDots path := by
    rw [hasDots, ← map_escape_of_kept kept, any_map, map_escape_of_kept kept]
    rfl
  rw [map_id, map_id] at appended
  rw [dots] at bound
  rwa [splitSegments_of_kept kept, appended]

end Kept

/-- A path that can be read back is kept as it is written, and nothing is read before it. -/
theorem isKeptPath_of_read {scheme path front} (other : scheme ≠ fileScheme)
    (read : ((appendSegments scheme [] (splitSegments false (trimmed path))).flatMap
      ('/' :: ·)).rdropWhile (· = '/') = '/' :: (front ++ path)) :
    front = [] ∧ isKeptPath path = true := by
  have kept : ∀ char ∈ path, escapes pathSet char = false := by
    obtain ⟨key, escaped, -⟩ := exists_key other ((trimmed path).takeWhile (!endsPath ·))
    intro char here
    have listed : char ∈ '/' :: escape pathSet key := by
      rw [← escaped]
      apply List.IsPrefix.subset <| rdropWhile_prefix (· = '/') _
      rw [← splitSegments, read]
      simp [here]
    rcases mem_cons.mp listed with rfl | inKey
    · decide
    · exact escapes_of_mem_escape inKey
  have whole := flatMap_appendSegments_of_kept other kept
  rw [trimmed_of_kept kept] at read
  have short := List.IsPrefix.length_le <| rdropWhile_prefix (· = '/') <|
    (appendSegments scheme [] (splitSegments false path)).flatMap ('/' :: ·)
  rw [read, length_cons, length_append] at short
  split at whole
  next dots => omega
  next plain =>
    rw [whole, length_cons] at short
    exact ⟨length_eq_zero_iff.mp (by omega),
      isKeptPath_iff.mpr ⟨kept, Bool.eq_false_iff.mpr plain⟩⟩

/-- Nothing of the host ends it, is dropped or belongs to another part of a url. -/
def isPlainHost (host : List Char) : Bool :=
  host.all (fun char => char ≠ '/' && char ≠ '@' && !endsPath char && !isBlank char) &&
    splitPort false host = (host, none)

/-- What every host that the parser returns for an ordinary scheme is. -/
def HostParser.Lawful (hosts : HostParser) : Prop :=
  ∀ text host, hosts true text = some host → isPlainHost host = true

namespace UrlRecord

variable {hosts : HostParser} {scheme host path : List Char}

theorem withTail_host_path (url : UrlRecord) (text : List Char) :
    (url.withTail text).host = url.host ∧ (url.withTail text).path = url.path := by
  unfold withTail
  split <;> exact ⟨rfl, rfl⟩

theorem pathState_host_path (url : UrlRecord) (path : List (List Char)) (text : List Char) :
    (url.pathState path text).host = url.host ∧
      (url.pathState path text).path = .segments
        (appendSegments url.scheme path (splitSegments (isSpecial url.scheme) text)) :=
  withTail_host_path _ _

/-- A host is followed by a path, or by a query or fragment and then by no path. -/
theorem pathStartState_host_path (url : UrlRecord) (ordinary : isSpecial url.scheme = false)
    (blank : url.path = .segments []) {first}
    (ended : (isSeparator false first || endsPath first) = true) (rest : List Char) :
    (url.pathStartState (first :: rest)).host = url.host ∧
      ((url.pathStartState (first :: rest)).path = .segments [] ∨ first = '/' ∧
        (url.pathStartState (first :: rest)).path =
          .segments (appendSegments url.scheme [] (splitSegments false rest))) := by
  unfold pathStartState
  dsimp only
  by_cases separator : isSeparator false first = true
  · have slash : first = '/' := by simpa [isSeparator] using separator
    rw [ordinary, if_pos separator, ← ordinary]
    exact ⟨(pathState_host_path ..).1, .inr ⟨slash, (pathState_host_path ..).2⟩⟩
  · have ends : endsPath first = true := by simpa [separator] using ended
    rw [ordinary, if_neg separator, if_pos ⟨ends, by simp⟩]
    exact ⟨(withTail_host_path ..).1, .inl ((withTail_host_path ..).2.trans blank)⟩

theorem of_hostState {url built : UrlRecord} {hostText rest}
    (parsed : url.hostState hosts hostText rest = some built) :
    ∃ text name port, hosts (!isSpecial url.scheme) text = some name ∧
      built = { url with host := some name, port }.pathStartState rest := by
  unfold hostState at parsed
  dsimp only at parsed
  split at parsed
  · cases parsed
  · split at parsed
    next name port known _ => exact ⟨_, name, port, known, (Option.some.inj parsed).symm⟩
    · cases parsed

theorem exists_dropWhile_ends (noSlash : '/' ∉ host) (path : List Char) :
    ∃ first rest, (host ++ '/' :: path).dropWhile
        (fun char => !(isSeparator false char || endsPath char)) = first :: rest ∧
      (isSeparator false first || endsPath first) = true ∧ (first = '/' → rest = path) := by
  induction host with
  | nil => exact ⟨'/', path, dropWhile_cons_of_neg (by decide), rfl, fun _ => rfl⟩
  | cons char rest ih =>
    by_cases ends : (isSeparator false char || endsPath char) = true
    · refine ⟨char, _, dropWhile_cons_of_neg (by simp [ends]), ends, fun slash => ?_⟩
      exact absurd (slash ▸ mem_cons_self) noSlash
    · rw [cons_append, dropWhile_cons_of_pos (by simpa using ends)]
      exact ih fun later => noSlash (mem_cons_of_mem _ later)

theorem of_authorityState {built : UrlRecord} (ordinary : isSpecial scheme = false)
    (noSlash : '/' ∉ host)
    (parsed : (blank scheme).authorityState hosts (host ++ '/' :: path) = some built) :
    ∃ text name, hosts true text = some name ∧ built.host = some name ∧
      (built.path = .segments [] ∨
        built.path = .segments (appendSegments scheme [] (splitSegments false path))) := by
  have special : isSpecial (blank scheme).scheme = false := ordinary
  obtain ⟨first, rest, left, ended, after⟩ := exists_dropWhile_ends noSlash path
  have found {url : UrlRecord} (same : url.scheme = scheme) (empty : url.path = .segments [])
      {hostText : List Char} (parsed : url.hostState hosts hostText (first :: rest) = some built) :
      ∃ text name, hosts true text = some name ∧ built.host = some name ∧
        (built.path = .segments [] ∨
          built.path = .segments (appendSegments scheme [] (splitSegments false path))) := by
    obtain ⟨text, name, port, known, rfl⟩ := of_hostState parsed
    rw [same, ordinary] at known
    obtain ⟨kept, found⟩ := pathStartState_host_path { url with host := some name, port }
      (same ▸ ordinary) empty ended rest
    refine ⟨text, name, known, kept, found.imp_right fun behind => ?_⟩
    rw [behind.2, same, after behind.1]
  unfold authorityState at parsed
  simp only [special] at parsed
  rw [left] at parsed
  split at parsed
  · split at parsed
    · cases parsed
    · exact found rfl rfl parsed
  · exact found rfl rfl parsed

theorem authorityState_of_plain (ordinary : isSpecial scheme = false)
    (plain : isPlainHost host = true) (path : List Char) :
    (blank scheme).authorityState hosts (host ++ '/' :: path) =
      (hosts true host).map fun name =>
        { blank scheme with host := some name }.pathState [] path := by
  simp only [isPlainHost, Bool.and_eq_true, all_eq_true, decide_eq_true_eq,
    Bool.not_eq_true', ne_eq, decide_not] at plain
  have authority : ∀ char ∈ host, (!(isSeparator false char || endsPath char)) = true := by
    intro char here
    simp [isSeparator, plain.1 char here]
  have starts : isSeparator false '/' = true := rfl
  have taken : (host ++ '/' :: path).takeWhile
      (fun char => !(isSeparator false char || endsPath char)) = host := by
    rw [takeWhile_append_of_pos authority, takeWhile_cons_of_neg (by simp [starts]),
      append_nil]
  have left : (host ++ '/' :: path).dropWhile
      (fun char => !(isSeparator false char || endsPath char)) = '/' :: path := by
    rw [dropWhile_append_of_pos authority, dropWhile_cons_of_neg (by simp [starts])]
  have special : isSpecial (blank scheme).scheme = false := ordinary
  have noCredentials : '@' ∉ host := fun at_sign => by simpa using plain.1 '@' at_sign
  simp only [authorityState, special, taken, left, noCredentials, if_false, hostState,
    plain.2, Option.isSome_none, Bool.false_eq_true, or_self, and_false, Bool.not_false, parsePort]
  cases hosts true host with
  | none => rfl
  | some name => simp only [Option.map_some, pathStartState, blank, ordinary, starts, if_true]

end UrlRecord

end DragonflyClient.Library
