import DragonflyClient.Library.UrlStandard

/-!
Joining a reference to the url of a directory: which references lead to a url under that
directory, whatever the directory is.
-/

namespace DragonflyClient.Library

open List hiding beq_eq_decide

section Segments

variable {scheme last : List Char} {names below parts path : List (List Char)}

theorem pathEnd_ne_nil (scheme : List Char) (path : List (List Char)) (segment : List Char) :
    pathEnd scheme path segment ≠ [] := by
  rw [pathEnd]
  cases dotMove segment <;> simp

theorem appendSegments_ne_nil (scheme : List Char) (nonempty : parts ≠ [])
    (path : List (List Char)) : appendSegments scheme path parts ≠ [] := by
  induction parts generalizing path with
  | nil => exact absurd rfl nonempty
  | cons part rest ih =>
    cases rest with
    | nil => exact pathEnd_ne_nil scheme path part
    | cons next rest => exact ih (by simp) (pathStep scheme path part)

theorem shorten_append_concat (scheme : List Char) (named : names ≠ [])
    (below : List (List Char)) (last : List Char) :
    shorten scheme (names ++ (below ++ [last])) = names ++ below := by
  have long : ¬ (names ++ (below ++ [last])).length = 1 := by
    have positive := length_pos_iff.mpr named
    simp only [length_append, length_singleton]
    omega
  rw [shorten, if_neg (fun kept => long kept.2.1), ← append_assoc, dropLast_concat]

theorem shorten_of_ne (other : scheme ≠ fileScheme) (path : List (List Char)) :
    shorten scheme path = path.dropLast :=
  if_neg fun kept => other kept.1

theorem shorten_directory (scheme : List Char) (names : List (List Char)) :
    shorten scheme (names ++ [[]]) = names := by
  rw [shorten, if_neg, dropLast_concat]
  rintro ⟨-, single, drive⟩
  have root : names = [] := by simpa using single
  simp [root, isNormalizedDriveLetter] at drive

theorem appendSegments_extends (scheme : List Char) (nonempty : parts ≠ [])
    (stays : staysBelow dotMove below.length parts = true) :
    ∃ rest, rest ≠ [] ∧ appendSegments scheme (names ++ below) parts = names ++ rest := by
  by_cases named : names = []
  · refine ⟨_, appendSegments_ne_nil scheme nonempty (names ++ below), ?_⟩
    simp [named]
  · induction parts generalizing below with
    | nil => exact absurd rfl nonempty
    | cons part parts ih =>
      rw [staysBelow] at stays
      -- What one segment leaves below the directory, whether it is the last or not.
      have stepped : ∃ left, staysBelow dotMove left.length parts = true ∧
          pathStep scheme (names ++ below) part = names ++ left ∧
          ∃ rest, rest ≠ [] ∧ pathEnd scheme (names ++ below) part = names ++ rest := by
        rw [pathStep, pathEnd]
        cases moved : dotMove part with
        | stay =>
          rw [moved] at stays
          exact ⟨below, stays, rfl, below ++ [[]], by simp, by simp⟩
        | down =>
          rw [moved] at stays
          refine ⟨below ++ [normalizeDrive scheme (names ++ below) part], ?_, by simp,
            below ++ [normalizeDrive scheme (names ++ below) part], by simp, by simp⟩
          simpa using stays
        | up =>
          rw [moved] at stays
          cases below using reverseRecOn with
          | nil => simp at stays
          | append_singleton below last =>
            simp only [shorten_append_concat scheme named below last]
            exact ⟨below, by simpa using stays, rfl, below ++ [[]], by simp, by simp⟩
      obtain ⟨left, staysLeft, step, finish⟩ := stepped
      cases parts with
      | nil => exact finish
      | cons next rest =>
        rw [appendSegments, step]
        exact ih (by simp) staysLeft

theorem pathStep_of_ne (other : scheme ≠ fileScheme) (path : List (List Char))
    (segment : List Char) : pathStep scheme path segment = descend dotMove path segment := by
  have kept : normalizeDrive scheme path segment = segment := if_neg fun drive => other drive.1
  cases moved : dotMove segment <;> simp only [pathStep, descend, shorten_of_ne other, kept, moved]

/-- Outside the file scheme the path is a walk, and after dots there is an empty segment. -/
theorem appendSegments_of_ne (other : scheme ≠ fileScheme) (nonempty : parts ≠ [])
    (path : List (List Char)) :
    appendSegments scheme path parts = walk dotMove path parts ∨
      appendSegments scheme path parts = walk dotMove path parts ++ [[]] := by
  induction parts generalizing path with
  | nil => exact absurd rfl nonempty
  | cons part rest ih =>
    cases rest with
    | nil =>
      have step := pathStep_of_ne other path part
      rw [appendSegments, pathEnd, walk_cons, walk_nil, ← step, pathStep]
      cases dotMove part with
      | stay => exact .inr rfl
      | up => exact .inr rfl
      | down => exact .inl rfl
    | cons next rest =>
      rw [appendSegments, pathStep_of_ne other, walk_cons]
      exact ih (by simp) (descend dotMove path part)

theorem appendSegments_climbs (other : scheme ≠ fileScheme) {name} (nonempty : name ≠ [])
    (absent : name ∉ parts) (climbs : staysBelow dotMove 0 parts = false)
    (rest : List (List Char)) : appendSegments scheme [name] parts ≠ name :: rest := by
  have some_part : parts ≠ [] := by
    rintro rfl
    simp [staysBelow] at climbs
  have lost := not_prefix_walk_singleton absent climbs
  intro found
  rcases appendSegments_of_ne other some_part [name] with same | dotted
  · exact lost ⟨rest, by simpa [same] using found.symm⟩
  · rw [dotted] at found
    have start : [name] <+: walk dotMove [name] parts ++ [[]] := ⟨rest, found.symm⟩
    rcases prefix_concat_iff.mp start with whole | shorter
    · cases walked : walk dotMove [name] parts with
      | nil =>
        rw [walked] at whole
        exact nonempty (singleton_inj.mp whole)
      | cons => simp [walked] at whole
    · exact lost shorter

theorem splitSegments_ne_nil (special : Bool) (text : List Char) :
    splitSegments special text ≠ [] := by
  simp [splitSegments, splitOnP_ne_nil]

end Segments

namespace UrlRecord

section Frames

variable {hosts : HostParser} {url result : UrlRecord} {base : Option UrlRecord}

theorem withTail_eq (url : UrlRecord) (text : List Char) :
    ∃ query fragment, url.withTail text = { url with query, fragment } := by
  unfold withTail
  split
  · exact ⟨_, _, rfl⟩
  · exact ⟨url.query, _, rfl⟩
  · exact ⟨url.query, url.fragment, rfl⟩

@[simp]
theorem withTail_scheme (url : UrlRecord) (text : List Char) :
    (url.withTail text).scheme = url.scheme := by
  obtain ⟨query, fragment, tail⟩ := withTail_eq url text
  rw [tail]

@[simp]
theorem withTail_host (url : UrlRecord) (text : List Char) :
    (url.withTail text).host = url.host := by
  obtain ⟨query, fragment, tail⟩ := withTail_eq url text
  rw [tail]

@[simp]
theorem withTail_port (url : UrlRecord) (text : List Char) :
    (url.withTail text).port = url.port := by
  obtain ⟨query, fragment, tail⟩ := withTail_eq url text
  rw [tail]

@[simp]
theorem withTail_path (url : UrlRecord) (text : List Char) :
    (url.withTail text).path = url.path := by
  obtain ⟨query, fragment, tail⟩ := withTail_eq url text
  rw [tail]

@[simp]
theorem pathState_scheme (url : UrlRecord) (path : List (List Char)) (text : List Char) :
    (url.pathState path text).scheme = url.scheme := by
  simp [pathState]

@[simp]
theorem pathState_host (url : UrlRecord) (path : List (List Char)) (text : List Char) :
    (url.pathState path text).host = url.host := by
  simp [pathState]

@[simp]
theorem pathState_port (url : UrlRecord) (path : List (List Char)) (text : List Char) :
    (url.pathState path text).port = url.port := by
  simp [pathState]

@[simp]
theorem pathState_path (url : UrlRecord) (path : List (List Char)) (text : List Char) :
    (url.pathState path text).path = .segments
      (appendSegments url.scheme path (splitSegments (isSpecial url.scheme) text)) := by
  simp [pathState]

@[simp]
theorem pathStartState_scheme (url : UrlRecord) (text : List Char) :
    (url.pathStartState text).scheme = url.scheme := by
  unfold pathStartState
  repeat' split
  all_goals simp

@[simp]
theorem pathStartState_port (url : UrlRecord) (text : List Char) :
    (url.pathStartState text).port = url.port := by
  unfold pathStartState
  repeat' split
  all_goals simp

theorem hostState_scheme {hostText rest}
    (parsed : url.hostState hosts hostText rest = some result) : result.scheme = url.scheme := by
  unfold hostState at parsed
  dsimp only at parsed
  repeat' split at parsed
  case h_1 =>
    cases parsed
    simp
  all_goals cases parsed

variable {text : List Char}

theorem authorityState_scheme
    (parsed : url.authorityState hosts text = some result) : result.scheme = url.scheme := by
  unfold authorityState at parsed
  dsimp only at parsed
  repeat' split at parsed
  · cases parsed
  · have kept := hostState_scheme parsed
    exact kept
  · exact hostState_scheme parsed

theorem fileHostState_scheme (parsed : fileHostState hosts text = some result) :
    result.scheme = fileScheme ∧ result.port = none := by
  unfold fileHostState at parsed
  dsimp only at parsed
  repeat' split at parsed
  all_goals cases parsed
  all_goals simp [blank]

theorem fileSlashState_scheme (parsed : fileSlashState hosts base text = some result) :
    result.scheme = fileScheme ∧ result.port = none := by
  unfold fileSlashState at parsed
  split at parsed
  · exact fileHostState_scheme parsed
  all_goals cases parsed
  all_goals simp [blank]

theorem fileState_scheme (parsed : fileState hosts base text = some result) :
    result.scheme = fileScheme ∧ result.port = none := by
  unfold fileState at parsed
  repeat' split at parsed
  case h_3.isTrue => exact fileSlashState_scheme parsed
  all_goals cases parsed
  all_goals simp [blank]

theorem schemeState_scheme {scheme}
    (differs : ∀ record, base = some record → record.scheme ≠ scheme)
    (parsed : schemeState hosts base scheme text = some result) : result.scheme = scheme := by
  unfold schemeState at parsed
  split at parsed
  case isTrue file => exact file ▸ (fileState_scheme parsed).1
  case isFalse =>
    split at parsed
    case isTrue =>
      cases base with
      | none => exact authorityState_scheme parsed
      | some record =>
        dsimp only at parsed
        rw [if_neg (fun same => differs record rfl same.1)] at parsed
        exact authorityState_scheme parsed
    case isFalse =>
      split at parsed
      · exact authorityState_scheme parsed
      · cases parsed
        simp [blank]
      · cases parsed
        simp [blank, textPathState]

end Frames

/-- The url of a directory: its path ends with a slash.  A file url never has a port. -/
structure Directory (base : UrlRecord) : Prop where
  path : ∃ names, base.path = .segments (names ++ [[]])
  filePort : base.scheme = fileScheme → base.port = none

structure Extends (base url : UrlRecord) : Prop where
  scheme : url.scheme = base.scheme
  host : url.host = base.host
  port : url.port = base.port
  path : ∃ rest, rest ≠ [] ∧ url.path = .segments (base.segments.dropLast ++ rest)

/-- A relative reference that stays below the place it starts from, in the eyes of the url
parser: dots may be escaped, and for special schemes a backslash is a slash. -/
structure PlainReference (text : List Char) : Prop where
  noScheme : splitScheme (clean text) = none
  relative : (clean text).head?.any (isSeparator true) = false
  noDrive : startsWithDriveLetter (clean text) = false
  below : ∀ special, staysBelow dotMove 0 (splitSegments special (clean text)) = true

section Joining

variable {hosts : HostParser} {base : UrlRecord} {text : List Char}

theorem isSeparator_mono {special char} (plain : isSeparator true char = false) :
    isSeparator special char = false := by
  cases special with
  | true => exact plain
  | false =>
    simp only [isSeparator, Bool.or_eq_false_iff] at plain ⊢
    simp [plain.1]

theorem Directory.refl (directory : Directory base) {url} (scheme : url.scheme = base.scheme)
    (host : url.host = base.host) (port : url.port = base.port) (path : url.path = base.path) :
    Extends base url := by
  obtain ⟨names, ends⟩ := directory.path
  refine ⟨scheme, host, port, [[]], by simp, ?_⟩
  rw [path, ends, segments, ends, dropLast_concat]

theorem Directory.pathState (directory : Directory base) {url : UrlRecord} {text}
    (scheme : url.scheme = base.scheme) (host : url.host = base.host) (port : url.port = base.port)
    (below : ∀ special, staysBelow dotMove 0 (splitSegments special text) = true) :
    Extends base (url.pathState (shorten base.scheme base.segments) text) := by
  obtain ⟨names, ends⟩ := directory.path
  have listed : base.segments = names ++ [[]] := by rw [segments, ends]
  refine ⟨by simpa using scheme, by simpa using host, by simpa using port, ?_⟩
  rw [listed, shorten_directory, dropLast_concat, pathState_path]
  let parts := splitSegments (isSpecial url.scheme) text
  have appended : ∃ rest, rest ≠ [] ∧
      appendSegments url.scheme (names ++ []) parts = names ++ rest :=
    appendSegments_extends url.scheme (splitSegments_ne_nil _ text) (below _)
  obtain ⟨rest, nonempty, extended⟩ := appended
  rw [append_nil] at extended
  exact ⟨rest, nonempty, by rw [extended]⟩

theorem PlainReference.relativeState (plain : PlainReference text) (directory : Directory base) :
    ∃ url, base.relativeState hosts (clean text) = some url ∧ Extends base url := by
  unfold UrlRecord.relativeState
  have relative := plain.relative
  have below := plain.below
  cases cleaned : clean text with
  | nil => exact ⟨_, rfl, directory.refl rfl rfl rfl rfl⟩
  | cons first rest =>
    rw [cleaned] at relative below
    dsimp only
    rw [if_neg (by simp [isSeparator_mono relative])]
    split
    · exact ⟨_, rfl, directory.refl (by simp) (by simp) (by simp) (by simp)⟩
    · exact ⟨_, rfl, directory.pathState rfl rfl rfl below⟩

theorem PlainReference.fileState (plain : PlainReference text) (directory : Directory base)
    (file : base.scheme = fileScheme) :
    ∃ url, UrlRecord.fileState hosts (some base) (clean text) = some url ∧ Extends base url := by
  have relative := plain.relative
  have noDrive := plain.noDrive
  have below := plain.below
  have port := (directory.filePort file).symm
  unfold UrlRecord.fileState
  rw [isFile, if_pos file]
  cases cleaned : clean text with
  | nil => exact ⟨_, rfl, directory.refl file.symm rfl port rfl⟩
  | cons first rest =>
    rw [cleaned] at relative noDrive below
    rw [head?_cons, Option.any_some] at relative
    dsimp only
    rw [if_neg (by simp [relative])]
    split
    · refine ⟨_, rfl, directory.refl ?_ ?_ ?_ ?_⟩
      · rw [withTail_scheme]
        exact file.symm
      · rw [withTail_host]
      · rw [withTail_port]
        exact port
      · rw [withTail_path]
    · rw [if_neg (by simp [noDrive]), ← file]
      exact ⟨_, rfl, directory.pathState rfl rfl port below⟩

theorem PlainReference.join_extends (plain : PlainReference text) (directory : Directory base) :
    ∃ url, base.join hosts text = some url ∧ Extends base url := by
  obtain ⟨names, ends⟩ := directory.path
  unfold join basicParse
  rw [plain.noScheme]
  unfold noSchemeState
  simp only [ends]
  split
  case isTrue file => exact plain.fileState directory file
  case isFalse => exact plain.relativeState directory

def directoryUrl (scheme : List Char) (names : List (List Char)) : UrlRecord :=
  { blank scheme with host := some ['h'], path := .segments (names ++ [[]]) }

theorem directory_directoryUrl (scheme : List Char) (names : List (List Char)) :
    Directory (directoryUrl scheme names) :=
  ⟨⟨names, rfl⟩, fun _ => rfl⟩

def httpScheme : List Char := ['h', 't', 't', 'p']

/-- The reference leads to a url under the base, whichever the base is. -/
def ExtendsAll (hosts : HostParser) (text : List Char) : Prop :=
  ∀ base, Directory base → ∃ url, base.join hosts text = some url ∧ Extends base url

theorem ExtendsAll.depends (under : ExtendsAll hosts text) (scheme : List Char) :
    ¬ ∀ names, (directoryUrl scheme names).join hosts text =
      (directoryUrl scheme []).join hosts text := by
  intro same
  obtain ⟨url, joined, -⟩ := under _ (directory_directoryUrl scheme [])
  obtain ⟨length, fresh⟩ := exists_fresh_name url.segments
  obtain ⟨other, joinedOther, extended⟩ :=
    under _ (directory_directoryUrl scheme [replicate (length + 1) 'a'])
  rw [same, joined, Option.some.injEq] at joinedOther
  subst other
  obtain ⟨rest, -, path⟩ := extended.path
  apply fresh
  rw [segments, path]
  simp [segments, directoryUrl]

theorem ExtendsAll.noScheme (under : ExtendsAll hosts text) : splitScheme (clean text) = none := by
  cases split : splitScheme (clean text) with
  | none => rfl
  | some found =>
    -- A base of another scheme.
    obtain ⟨other, differs⟩ : ∃ other : List Char, other ≠ found.1 := ⟨'x' :: found.1, by simp⟩
    obtain ⟨url, joined, extended⟩ := under _ (directory_directoryUrl other [])
    unfold join basicParse at joined
    rw [split] at joined
    have scheme : url.scheme = found.1 := by
      refine schemeState_scheme ?_ joined
      intro record same
      cases same
      exact differs
    exact absurd (extended.scheme.symm.trans scheme) differs

theorem join_of_noScheme (noScheme : splitScheme (clean text) = none) (scheme : List Char)
    (names : List (List Char)) :
    (directoryUrl scheme names).join hosts text =
      if scheme = fileScheme then
        fileState hosts (some (directoryUrl scheme names)) (clean text)
      else (directoryUrl scheme names).relativeState hosts (clean text) := by
  unfold join basicParse
  rw [noScheme]
  rfl

theorem ExtendsAll.relative (under : ExtendsAll hosts text) :
    (clean text).head?.any (isSeparator true) = false := by
  by_contra rooted
  rw [Bool.not_eq_false] at rooted
  apply under.depends httpScheme
  intro names
  rw [join_of_noScheme under.noScheme, join_of_noScheme under.noScheme]
  cases cleaned : clean text with
  | nil => simp [cleaned] at rooted
  | cons first rest =>
    rw [cleaned, head?_cons, Option.any_some] at rooted
    have slash : ∀ names, relativeState hosts (directoryUrl httpScheme names) (first :: rest) =
        relativeSlashState hosts (directoryUrl httpScheme names) rest :=
      fun names => if_pos rooted
    have other : httpScheme ≠ fileScheme := by decide
    rw [if_neg other, if_neg other, slash, slash]
    rfl

theorem ExtendsAll.noDrive (under : ExtendsAll hosts text) :
    startsWithDriveLetter (clean text) = false := by
  by_contra drive
  apply under.depends fileScheme
  intro names
  have relative := under.relative
  rw [join_of_noScheme under.noScheme, join_of_noScheme under.noScheme, if_pos rfl, if_pos rfl]
  cases cleaned : clean text with
  | nil => simp [cleaned, startsWithDriveLetter, isDriveLetter] at drive
  | cons first rest =>
    rw [cleaned] at drive relative
    rw [head?_cons, Option.any_some] at relative
    have notEnd : endsPath first = false := by
      by_contra ends
      rw [Bool.not_eq_false, endsPath, Bool.or_eq_true, decide_eq_true_eq,
        decide_eq_true_eq] at ends
      rcases ends with rfl | rfl <;>
        cases rest <;> simp [startsWithDriveLetter, isDriveLetter] at drive
    -- The drive letter takes the place of the whole path of the base.
    have dropped : ∀ names, fileState hosts (some (directoryUrl fileScheme names))
        (first :: rest) =
          some ({ blank fileScheme with host := some ['h'] }.pathState [] (first :: rest)) := by
      intro names
      simp [fileState, isFile, directoryUrl, blank, relative, notEnd, drive]
    rw [dropped, dropped]

theorem ExtendsAll.below (under : ExtendsAll hosts text) (special : Bool) :
    staysBelow dotMove 0 (splitSegments special (clean text)) = true := by
  by_contra climbs
  rw [Bool.not_eq_true] at climbs
  obtain ⟨scheme, other, same⟩ : ∃ scheme, scheme ≠ fileScheme ∧ isSpecial scheme = special := by
    cases special with
    | true => exact ⟨httpScheme, by decide, by decide⟩
    | false => exact ⟨['x'], by decide, by decide⟩
  obtain ⟨length, fresh⟩ := exists_fresh_name (splitSegments special (clean text))
  obtain ⟨url, joined, extended⟩ :=
    under _ (directory_directoryUrl scheme [replicate (length + 1) 'a'])
  rw [join_of_noScheme under.noScheme, if_neg other] at joined
  have relative := under.relative
  cases cleaned : clean text with
  | nil =>
    rw [cleaned] at climbs
    cases special <;> exact absurd climbs (by decide)
  | cons first rest =>
    rw [cleaned, head?_cons, Option.any_some] at relative
    have notEnd : endsPath first = false := by
      by_contra ends
      rw [cleaned, splitSegments, takeWhile_cons_of_neg (by simp [ends])] at climbs
      cases special <;> exact absurd climbs (by decide)
    rw [cleaned, UrlRecord.relativeState, if_neg (by simp [isSeparator_mono relative]),
      if_neg (by simp [notEnd]), Option.some.injEq] at joined
    obtain ⟨more, -, path⟩ := extended.path
    have shortened : shorten scheme [replicate (length + 1) 'a', []] =
        [replicate (length + 1) 'a'] :=
      shorten_directory scheme [replicate (length + 1) 'a']
    rw [← joined, pathState_path, UrlPath.segments.injEq] at path
    rw [cleaned] at fresh climbs
    apply appendSegments_climbs other (by simp) fresh climbs more
    rw [← same]
    simpa [directoryUrl, segments, sameAuthority, blank, shortened] using path

end Joining

theorem join_extends_iff (hosts : HostParser) (text : List Char) :
    ExtendsAll hosts text ↔ PlainReference text := by
  constructor
  · intro under
    exact ⟨under.noScheme, under.relative, under.noDrive, under.below⟩
  · intro plain base directory
    exact plain.join_extends directory

end UrlRecord

section Splitting

variable {Item : Type} {first second : Item → Bool} {items : List Item}

theorem splitOnP_congr (agree : ∀ item ∈ items, first item = second item) :
    items.splitOnP first = items.splitOnP second := by
  induction items with
  | nil => simp
  | cons item rest ih =>
    obtain ⟨same, later⟩ := forall_mem_cons.mp agree
    rw [splitOnP_cons_eq_if_modifyHead, splitOnP_cons_eq_if_modifyHead, same, ih later]

theorem mem_of_mem_splitOnP {part} (member : part ∈ items.splitOnP first) :
    ∀ item ∈ part, item ∈ items := by
  induction items generalizing part with
  | nil => simp_all
  | cons item rest ih =>
    rw [splitOnP_cons_eq_if_modifyHead] at member
    split at member
    · rcases mem_cons.mp member with rfl | later
      · simp
      · exact fun other found => mem_cons_of_mem item (ih later other found)
    · cases parts : rest.splitOnP first with
      | nil => exact absurd parts (splitOnP_ne_nil first rest)
      | cons head tail =>
        rw [parts, modifyHead_cons] at member
        rw [parts] at ih
        intro other found
        rcases mem_cons.mp member with rfl | later
        · rcases mem_cons.mp found with rfl | inHead
          · exact mem_cons_self
          · exact mem_cons_of_mem item
              (ih mem_cons_self other inHead)
        · exact mem_cons_of_mem item
            (ih (mem_cons_of_mem head later) other found)

end Splitting

section Unreserved

/-- Characters that mean nothing in a path of a url, and the slash. -/
def isUnreserved (char : Char) : Bool :=
  char.isAlphanum || char = '-' || char = '.' || char = '_' || char = '~' || char = '/'

variable {char : Char} {text : List Char}

theorem ne_of_isUnreserved {other} (plain : isUnreserved char = true)
    (reserved : isUnreserved other = false) : char ≠ other := by
  rintro rfl
  rw [plain] at reserved
  cases reserved

theorem isUnreserved_bounds (plain : isUnreserved char = true) :
    0x20 < char.toNat ∧ char.toNat ≤ 0x7E := by
  have codes : char.isAlphanum =
      (decide (char.val ≥ 'A'.val ∧ char.val ≤ 'Z'.val) ||
        (decide (char.val ≥ 'a'.val) && decide (char.val ≤ 'z'.val)) ||
        (decide (char.val ≥ '0'.val) && decide (char.val ≤ '9'.val))) := rfl
  simp only [isUnreserved, codes, Bool.or_eq_true, Bool.and_eq_true, decide_eq_true_eq, ge_iff_le,
    UInt32.le_iff_toNat_le] at plain
  have value : char.val.toNat = char.toNat := rfl
  rcases plain with ((((letter | rfl) | rfl) | rfl) | rfl) | rfl
  · -- The codes of the six bounds.
    have upper : 'A'.val.toNat = 65 ∧ 'Z'.val.toNat = 90 := ⟨rfl, rfl⟩
    have lower : 'a'.val.toNat = 97 ∧ 'z'.val.toNat = 122 := ⟨rfl, rfl⟩
    have digit : '0'.val.toNat = 48 ∧ '9'.val.toNat = 57 := ⟨rfl, rfl⟩
    omega
  all_goals decide

theorem escapes_of_isUnreserved (plain : isUnreserved char = true) :
    escapes pathSet char = false := by
  obtain ⟨low, high⟩ := isUnreserved_bounds plain
  have reserved : (pathSet.toList.all fun other => !isUnreserved other) = true := by decide
  have absent : pathSet.toList.contains char = false := by
    rw [contains_eq_mem, decide_eq_false_iff_not]
    intro member
    have listed := all_eq_true.mp reserved char member
    exact ne_of_isUnreserved plain (by simpa using listed) rfl
  rw [escapes, absent, Bool.or_false, Bool.or_eq_false_iff, decide_eq_false_iff_not,
    decide_eq_false_iff_not]
  omega

theorem escape_of_isUnreserved (plain : ∀ char ∈ text, isUnreserved char = true) :
    escape pathSet text = text := by
  induction text with
  | nil => rfl
  | cons char rest ih =>
    obtain ⟨first, later⟩ := forall_mem_cons.mp plain
    have same := ih later
    rw [escape] at same ⊢
    rw [flatMap_cons, same, escapes_of_isUnreserved first]
    rfl

theorem clean_of_isUnreserved (plain : ∀ char ∈ text, isUnreserved char = true) :
    clean text = text := by
  have visible : ∀ char ∈ text, ¬ isBlank char = true := by
    intro char member
    have bounds := isUnreserved_bounds (plain char member)
    rw [isBlank, decide_eq_true_eq]
    omega
  have start : text.dropWhile isBlank = text :=
    dropWhile_eq_self_iff.mpr fun long => visible _ (getElem_mem long)
  have finish : text.rdropWhile isBlank = text :=
    rdropWhile_eq_self_iff.mpr fun nonempty => visible _ (getLast_mem nonempty)
  rw [clean, start, finish, filter_eq_self]
  intro char member
  have tab := ne_of_isUnreserved (plain char member) (by decide : isUnreserved '\t' = false)
  have line := ne_of_isUnreserved (plain char member) (by decide : isUnreserved '\n' = false)
  have carriage := ne_of_isUnreserved (plain char member) (by decide : isUnreserved '\r' = false)
  simp [tab, line, carriage]

theorem eq_of_toLower_eq {lower} (same : char.toLower = lower) (caseless : lower.isLower = false) :
    char = lower := by
  unfold Char.toLower at same
  split at same
  case isFalse => exact same
  case isTrue upper =>
    exfalso
    subst same
    have low : (65 : Nat) ≤ char.val.toNat := upper.1
    have high : char.val.toNat ≤ 90 := upper.2
    have moved : (char.val + ('a'.val - 'A'.val)).toNat = char.val.toNat + 32 := by
      rw [UInt32.toNat_add, show ('a'.val - 'A'.val).toNat = 32 by decide]
      omega
    rcases Bool.and_eq_false_iff.mp caseless with below | above
    · apply of_decide_eq_false below
      show 97 ≤ (char.val + ('a'.val - 'A'.val)).toNat
      omega
    · apply of_decide_eq_false above
      show (char.val + ('a'.val - 'A'.val)).toNat ≤ 122
      omega

theorem eq_of_dotMove_up {segment} (plain : '%' ∉ segment) (up : dotMove segment = .up) :
    segment = ['.', '.'] := by
  have caseless : ∀ char ∈ lowered segment, char ≠ '%' := by
    intro char member
    obtain ⟨original, inSegment, same⟩ := mem_map.mp member
    rintro rfl
    exact plain (eq_of_toLower_eq same (by decide) ▸ inSegment)
  unfold dotMove at up
  split at up
  · cases up
  · split at up
    case isFalse => cases up
    case isTrue dots =>
      simp only [mem_cons, not_mem_nil, or_false] at dots
      rcases dots with dots | escaped | escaped | escaped
      · obtain ⟨first, rest, rfl, one, others⟩ := map_eq_cons_iff.mp dots
        obtain ⟨second, last, rfl, two, none⟩ := map_eq_cons_iff.mp others
        rw [eq_of_toLower_eq one (by decide), eq_of_toLower_eq two (by decide),
          map_eq_nil_iff.mp none]
      all_goals exact absurd rfl (caseless '%' (by simp [escaped]))

theorem splitSegments_of_isUnreserved (plain : ∀ char ∈ text, isUnreserved char = true)
    (special : Bool) : splitSegments special text = text.splitOn '/' := by
  have whole : text.takeWhile (!endsPath ·) = text := by
    apply takeWhile_eq_self_iff.mpr
    intro char member
    have query := ne_of_isUnreserved (plain char member) (by decide : isUnreserved '?' = false)
    have hash := ne_of_isUnreserved (plain char member) (by decide : isUnreserved '#' = false)
    simp [endsPath, query, hash]
  have slashes : text.splitOnP (isSeparator special) = text.splitOn '/' := by
    apply splitOnP_congr
    intro char member
    have backslash := ne_of_isUnreserved (plain char member)
      (by decide : isUnreserved '\\' = false)
    simp [isSeparator, backslash, beq_eq_decide]
  rw [splitSegments, whole, slashes]
  have same : ∀ segment ∈ text.splitOn '/', escape pathSet segment = segment := by
    intro segment member
    apply escape_of_isUnreserved
    exact fun char inSegment => plain char (mem_of_mem_splitOnP member char inSegment)
  rw [map_congr_left same, map_id']

theorem splitScheme_of_notMem (absent : ':' ∉ text) : splitScheme text = none := by
  unfold splitScheme
  split
  case h_1 => rfl
  case h_2 first _ =>
    split
    case isFalse => rfl
    case isTrue =>
      split
      case h_2 => rfl
      case h_1 rest colon =>
        have later : text.dropWhile isSchemeChar ⊆ text :=
          (dropWhile_suffix isSchemeChar).subset
        rw [colon] at later
        exact absurd (later mem_cons_self) absent

/-- A relative path of unreserved characters without double dots. -/
theorem UrlRecord.PlainReference.of_isUnreserved
    (plain : ∀ char ∈ text, isUnreserved char = true) (relative : text.head? ≠ some '/')
    (noParent : ['.', '.'] ∉ text.splitOn '/') : UrlRecord.PlainReference text := by
  have cleaned := clean_of_isUnreserved plain
  refine ⟨?_, ?_, ?_, ?_⟩
  all_goals rw [cleaned]
  · apply splitScheme_of_notMem
    exact fun colon => absurd (plain ':' colon) (by decide)
  · cases text with
    | nil => rfl
    | cons first rest =>
      have backslash := ne_of_isUnreserved (plain first mem_cons_self)
        (by decide : isUnreserved '\\' = false)
      rw [head?_cons, ne_eq, Option.some.injEq] at relative
      simp [isSeparator, relative, backslash]
  · match text with
    | [] => rfl
    | [_] => rfl
    | first :: second :: rest =>
      have inText : second ∈ first :: second :: rest := by simp
      have colon := ne_of_isUnreserved (plain second inText)
        (by decide : isUnreserved ':' = false)
      have bar := ne_of_isUnreserved (plain second inText)
        (by decide : isUnreserved '|' = false)
      simp [startsWithDriveLetter, isDriveLetter, colon, bar]
  · intro special
    rw [splitSegments_of_isUnreserved plain]
    apply staysBelow_of_forall_ne_up
    intro segment member up
    have inText := mem_of_mem_splitOnP member
    have unescaped : '%' ∉ segment := by
      intro percent
      have found := plain '%' (inText '%' percent)
      exact absurd found (by decide)
    exact noParent (eq_of_dotMove_up unescaped up ▸ member)

end Unreserved

end DragonflyClient.Library
