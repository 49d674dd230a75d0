import DragonflyClient.Core.Error
import DragonflyClient.Library.PercentEncoding
import DragonflyClient.Library.UrlStandard

/-!
Where `dfget` writes the entries of a directory (`make_output_by_entry` and the entry loop of
`download_dir` in `bin/dfget/main.rs`): the part of the decoded entry path that equals the path
of the download url is replaced by the output directory.
-/

namespace DragonflyClient.Dfget

open Library List UrlRecord

/-- The `url` crate: the hosts it accepts, and the texts of its errors. -/
structure UrlCrate where
  hosts : HostParser
  failure : List Char → String

/-- `parse().or_err(ErrorType::ParseError)`. -/
def UrlCrate.parse (crate : UrlCrate) (text : List Char) : ClientResult UrlRecord :=
  match UrlRecord.parse crate.hosts text with
  | none => .error (.externalError "ParseError" (crate.failure text))
  | some url => .ok url

structure DirEntry where
  url : List Char
  isDir : Bool
  deriving DecidableEq, Repr

/-- `replacen(pattern, replacement, 1)`. -/
def replaceFirst (pattern replacement : List Char) : List Char → List Char
  | [] => if pattern = [] then replacement else []
  | char :: text =>
    if pattern.isPrefixOf (char :: text) then replacement ++ (char :: text).drop pattern.length
    else char :: replaceFirst pattern replacement text

def outputRootDir (output : List Char) : List Char :=
  if output.getLast? = some '/' then output else output ++ ['/']

/-- `percent_decode_str(url.path()).decode_utf8_lossy()`. -/
def decodedPath (url : UrlRecord) : List Char :=
  decodeUtf8Lossy (percentDecode (url.pathText.flatMap String.utf8EncodeChar))

/-- The output is the text of a Unicode path. -/
def makeOutputByEntry (crate : UrlCrate) (url : UrlRecord) (output : List Char)
    (entry : DirEntry) : ClientResult (List Char) :=
  let rootDir := url.pathText
  match crate.parse entry.url with
  | .error error => .error error
  | .ok entryUrl => .ok (replaceFirst rootDir (outputRootDir output) (decodedPath entryUrl))

inductive EntryAction where
  | createDirAll (output : List Char)
  | download (url : UrlRecord) (output : List Char)
  deriving DecidableEq, Repr

def EntryAction.output : EntryAction → List Char
  | .createDirAll output | .download _ output => output

def entryAction (crate : UrlCrate) (url : UrlRecord) (output : List Char) (entry : DirEntry) :
    ClientResult EntryAction :=
  match crate.parse entry.url, makeOutputByEntry crate url output entry with
  | .error error, _ | .ok _, .error error => .error error
  | .ok entryUrl, .ok path =>
    .ok (if entry.isDir then .createDirAll path else .download entryUrl path)

/-- What the loop starts while `create_dir_all` succeeds; that it fails, which ends the loop there,
is not modelled. -/
def entryLoop (crate : UrlCrate) (url : UrlRecord) (output : List Char) :
    List DirEntry → List EntryAction × ClientResult Unit
  | [] => ([], .ok ())
  | entry :: rest =>
    match entryAction crate url output entry with
    | .error error => ([], .error error)
    | .ok action =>
      let later := entryLoop crate url output rest
      (action :: later.1, later.2)

section Replacing

variable {pattern text : List Char}

theorem replaceFirst_append (replacement rest : List Char) :
    replaceFirst pattern replacement (pattern ++ rest) = replacement ++ rest := by
  cases found : pattern ++ rest with
  | nil =>
    obtain ⟨rfl, rfl⟩ := append_eq_nil_iff.mp found
    simp [replaceFirst]
  | cons char others =>
    have starts : pattern.isPrefixOf (char :: others) = true := by
      apply isPrefixOf_iff_prefix.mpr
      exact ⟨rest, found⟩
    rw [replaceFirst, if_pos starts, ← found, drop_left]

theorem replaceFirst_cases (pattern text : List Char) :
    (∀ replacement, replaceFirst pattern replacement text = text) ∨
      ∃ before after, text = before ++ pattern ++ after ∧
        ∀ replacement, replaceFirst pattern replacement text = before ++ replacement ++ after := by
  induction text with
  | nil =>
    by_cases empty : pattern = []
    · exact .inr ⟨[], [], by simp [empty], by simp [replaceFirst, empty]⟩
    · exact .inl (by simp [replaceFirst, empty])
  | cons char text ih =>
    by_cases starts : pattern <+: char :: text
    · obtain ⟨after, found⟩ := starts
      refine .inr ⟨[], after, found.symm, fun replacement => ?_⟩
      rw [← found]
      exact replaceFirst_append replacement after
    · have later : ∀ replacement, replaceFirst pattern replacement (char :: text) =
          char :: replaceFirst pattern replacement text := by
        intro replacement
        have differs := mt isPrefixOf_iff_prefix.mp starts
        rw [replaceFirst, if_neg differs]
      rcases ih with same | ⟨before, after, split, replaced⟩
      · exact .inl fun replacement => by rw [later, same]
      · refine .inr ⟨char :: before, after, by simp [split], fun replacement => ?_⟩
        rw [later, replaced]
        rfl

end Replacing

theorem resolve_outputRootDir (directory : List (List Char)) {output} (nonempty : output ≠ [])
    (rest : List Char) :
    resolve directory (outputRootDir output ++ rest) =
      walk posixMove (resolve directory output) (components rest) := by
  rw [outputRootDir]
  split
  case isTrue slash =>
    obtain ⟨stem, rfl⟩ := getLast?_eq_some_iff.mp slash
    rw [append_assoc]
    exact resolve_append_slash stem rest
  case isFalse =>
    rw [append_assoc]
    exact (resolve_append_slash output rest).trans (by rw [resolve_concat_slash nonempty])

/-- The decoded entry path starts with the path of the download url as it is written, and
what follows never climbs above its start. -/
structure EntryInside (url entryUrl : UrlRecord) : Prop where
  starts : url.pathText <+: decodedPath entryUrl
  below : staysBelow posixMove 0
    (components ((decodedPath entryUrl).drop url.pathText.length)) = true

/-- The output is inside the output directory, whichever that is. -/
def KeptInside (crate : UrlCrate) (url : UrlRecord) (entry : DirEntry) : Prop :=
  ∀ (directory : List (List Char)) (output path : List Char), output ≠ [] →
    makeOutputByEntry crate url output entry = .ok path → Within directory output path

/-- Domain names of letters, digits, dots and hyphens. -/
def plainCrate : UrlCrate where
  hosts := fun _ text =>
    if text.all fun char => char.isAlphanum || char = '.' || char = '-' then
      some (text.map Char.toLower)
    else none
  failure := fun _ => "relative URL without a base"

section Inside

variable {crate : UrlCrate} {url entryUrl : UrlRecord} {entry : DirEntry}

theorem makeOutputByEntry_of_parse (parsed : UrlRecord.parse crate.hosts entry.url = some entryUrl)
    (output : List Char) :
    makeOutputByEntry crate url output entry =
      .ok (replaceFirst url.pathText (outputRootDir output) (decodedPath entryUrl)) := by
  simp [makeOutputByEntry, UrlCrate.parse, parsed]

theorem parse_of_makeOutputByEntry {output path}
    (made : makeOutputByEntry crate url output entry = .ok path) :
    ∃ entryUrl, UrlRecord.parse crate.hosts entry.url = some entryUrl := by
  cases parsed : UrlRecord.parse crate.hosts entry.url with
  | none => simp [makeOutputByEntry, UrlCrate.parse, parsed] at made
  | some entryUrl => exact ⟨entryUrl, rfl⟩

theorem EntryInside.within (inside : EntryInside url entryUrl) (directory : List (List Char))
    {output} (nonempty : output ≠ []) :
    Within directory output
      (replaceFirst url.pathText (outputRootDir output) (decodedPath entryUrl)) := by
  obtain ⟨rest, split⟩ := inside.starts
  have below := inside.below
  rw [← split, drop_left] at below
  rw [← split, replaceFirst_append, Within, resolve_outputRootDir directory nonempty]
  exact prefix_walk (resolve directory output) below

theorem resolve_rooted (directory : List (List Char)) (length : Nat) :
    resolve directory ('/' :: List.replicate (length + 1) 'a') =
      [List.replicate (length + 1) 'a'] := by
  have parts : components ('/' :: List.replicate (length + 1) 'a') =
      [List.replicate (length + 1) 'a'] := by
    have split := components_append_slash [] (List.replicate (length + 1) 'a')
    rwa [components_nil, components_replicate, nil_append, nil_append] at split
  simp [resolve, parts, descend, posixMove_replicate]

/-- A text that is the same for every output directory leaves one of them. -/
theorem exists_not_within (path : List Char) : ∃ output, output ≠ [] ∧ ¬ Within [] output path := by
  obtain ⟨length, fresh⟩ := exists_fresh_name (components path)
  refine ⟨'/' :: List.replicate (length + 1) 'a', by simp, ?_⟩
  rw [Within, resolve_rooted, resolve, ite_self]
  exact not_prefix_walk_root fresh

/-- A text in front of the output directory either makes a relative one absolute, or an
absolute one relative. -/
theorem exists_not_within_of_before {before} (nonempty : before ≠ []) (after : List Char) :
    ∃ directory output, output ≠ [] ∧
      ¬ Within directory output (before ++ outputRootDir output ++ after) := by
  by_cases rooted : before.head? = some '/'
  · obtain ⟨length, fresh⟩ := exists_fresh_name
      (components (before ++ outputRootDir ['o'] ++ after))
    refine ⟨[List.replicate (length + 1) 'a'], ['o'], by simp, fun within => ?_⟩
    have absolute : (before ++ outputRootDir ['o'] ++ after).head? = some '/' := by
      simp [head?_append, rooted]
    have named : [List.replicate (length + 1) 'a'] <+:
        resolve [List.replicate (length + 1) 'a'] ['o'] := ⟨[['o']], rfl⟩
    have found := List.IsPrefix.trans named within
    rw [resolve, if_pos absolute] at found
    exact not_prefix_walk_root fresh found
  · let parts := components (before ++ outputRootDir ['/', 'a'] ++ after)
    refine ⟨['b'] :: List.replicate parts.length ['b'], ['/', 'a'], by simp, fun within => ?_⟩
    have relative : (before ++ outputRootDir ['/', 'a'] ++ after).head? ≠ some '/' := by
      cases before with
      | nil => exact absurd rfl nonempty
      | cons => exact rooted
    have below : [['b']] <+: walk posixMove ([['b']] ++ List.replicate parts.length ['b']) parts :=
      prefix_walk_of_staysBelow (staysBelow_of_length_le (by simp))
    have rootedOutput : resolve (['b'] :: List.replicate parts.length ['b']) ['/', 'a'] =
        [['a']] := resolve_rooted _ 0
    rw [Within, rootedOutput, resolve, if_neg relative] at within
    have same := prefix_of_prefix_length_le within below (by simp)
    simp at same

theorem EntryInside.of_keptInside (kept : KeptInside crate url entry)
    (parsed : parse crate.hosts entry.url = some entryUrl) :
    EntryInside url entryUrl := by
  have within : ∀ directory output, output ≠ [] → Within directory output
      (replaceFirst url.pathText (outputRootDir output) (decodedPath entryUrl)) :=
    fun directory output nonempty =>
      kept directory output _ nonempty (makeOutputByEntry_of_parse parsed output)
  have starts : url.pathText <+: decodedPath entryUrl := by
    rcases replaceFirst_cases url.pathText (decodedPath entryUrl) with
      same | ⟨before, after, split, replaced⟩
    · obtain ⟨output, nonempty, outside⟩ := exists_not_within (decodedPath entryUrl)
      exact absurd (same _ ▸ within [] output nonempty) outside
    · by_cases first : before = []
      · exact ⟨after, by simp [split, first]⟩
      · obtain ⟨directory, output, nonempty, outside⟩ := exists_not_within_of_before first after
        exact absurd (replaced _ ▸ within directory output nonempty) outside
  refine ⟨starts, ?_⟩
  obtain ⟨rest, split⟩ := starts
  rw [← split, drop_left]
  by_contra climbs
  obtain ⟨length, fresh⟩ := exists_fresh_name (components rest)
  have inside := within [] ('/' :: List.replicate (length + 1) 'a') (by simp)
  rw [← split, replaceFirst_append, Within, resolve_outputRootDir [] (by simp),
    resolve_rooted] at inside
  rw [Bool.not_eq_true] at climbs
  exact not_prefix_walk_singleton fresh climbs inside

theorem entryAction_output {output action}
    (acted : entryAction crate url output entry = .ok action) :
    makeOutputByEntry crate url output entry = .ok action.output := by
  unfold entryAction at acted
  split at acted
  case h_1 => cases acted
  case h_2 => cases acted
  case h_3 path _ made =>
    cases acted
    rw [made]
    split <;> rfl

theorem entryLoop_inside {output : List Char} (nonempty : output ≠ [])
    (directory : List (List Char)) {entries : List DirEntry}
    (inside : ∀ entry ∈ entries, ∀ entryUrl,
      parse crate.hosts entry.url = some entryUrl → EntryInside url entryUrl) :
    ∀ action ∈ (entryLoop crate url output entries).1, Within directory output action.output := by
  induction entries with
  | nil => simp [entryLoop]
  | cons entry rest ih =>
    obtain ⟨first, later⟩ := forall_mem_cons.mp inside
    rw [entryLoop]
    cases acted : entryAction crate url output entry with
    | error => simp
    | ok action =>
      refine forall_mem_cons.mpr ⟨?_, ih later⟩
      have made := entryAction_output acted
      obtain ⟨entryUrl, parsed⟩ := parse_of_makeOutputByEntry made
      rw [makeOutputByEntry_of_parse parsed, Except.ok.injEq] at made
      rw [← made]
      exact (first entryUrl parsed).within directory nonempty

/-- A directory and a file in it whose name is escaped. -/
theorem entryLoop_inside_two :
    ∃ root, parse plainCrate.hosts "http://h/d/".toList = some root ∧
      ∀ action ∈ (entryLoop plainCrate root ['o']
          [⟨"http://h/d/e/".toList, true⟩, ⟨"http://h/d/e/a%20b".toList, false⟩]).1,
        Within [] ['o'] action.output := by
  obtain ⟨root, sub, file, parsedRoot, parsedSub, parsedFile, holds, inside⟩ : ∃ root sub file,
      parse plainCrate.hosts "http://h/d/".toList = some root ∧
      parse plainCrate.hosts "http://h/d/e/".toList = some sub ∧
      parse plainCrate.hosts "http://h/d/e/a%20b".toList = some file ∧
      EntryInside root sub ∧ EntryInside root file :=
    ⟨_, _, _, rfl, rfl, rfl, ⟨by decide +kernel, by decide +kernel⟩, by decide +kernel,
      by decide +kernel⟩
  refine ⟨root, parsedRoot, entryLoop_inside (by decide) [] fun entry listed entryUrl parsed => ?_⟩
  rcases mem_pair.mp listed with rfl | rfl
  · rw [parsedSub] at parsed
    cases parsed
    exact holds
  · rw [parsedFile] at parsed
    cases parsed
    exact inside

/-- An entry is written inside every output directory exactly when its decoded path starts
with the path of the download url and does not climb from there. -/
theorem make_output_by_entry_inside_iff (crate : UrlCrate) (url : UrlRecord) (entry : DirEntry) :
    KeptInside crate url entry ↔
      ∀ entryUrl, parse crate.hosts entry.url = some entryUrl →
        EntryInside url entryUrl := by
  constructor
  · intro kept entryUrl parsed
    exact EntryInside.of_keptInside kept parsed
  · intro inside directory output path nonempty made
    obtain ⟨entryUrl, parsed⟩ := parse_of_makeOutputByEntry made
    rw [makeOutputByEntry_of_parse parsed] at made
    cases made
    exact (inside entryUrl parsed).within directory nonempty

/-- Both an escaped separator in an entry and an escaped character in the download url lead
out of the output directory. -/
theorem make_output_by_entry_escapes :
    ∃ root entryUrl spaced spacedEntry,
      UrlRecord.parse plainCrate.hosts "http://example.com/root/".toList = some root ∧
      UrlRecord.parse plainCrate.hosts "http://example.com/root/..%2F..%2Fetc/passwd".toList =
        some entryUrl ∧
      UrlRecord.parse plainCrate.hosts "http://example.com/my%20data/".toList = some spaced ∧
      UrlRecord.parse plainCrate.hosts "http://example.com/my%20data/file".toList =
        some spacedEntry ∧
      root.pathText <+: entryUrl.pathText ∧ spaced.pathText <+: spacedEntry.pathText ∧
      makeOutputByEntry plainCrate root "/srv/out".toList
          ⟨"http://example.com/root/..%2F..%2Fetc/passwd".toList, false⟩ =
        .ok "/srv/out/../../etc/passwd".toList ∧
      ¬ Within [] "/srv/out".toList "/srv/out/../../etc/passwd".toList ∧
      makeOutputByEntry plainCrate spaced "/srv/out".toList
          ⟨"http://example.com/my%20data/file".toList, false⟩ = .ok "/my data/file".toList ∧
      ¬ Within [] "/srv/out".toList "/my data/file".toList := by
  refine ⟨_, _, _, _, rfl, rfl, rfl, rfl, ?_⟩
  decide +kernel

end Inside

end DragonflyClient.Dfget
