import DragonflyClient.Library.Fields
import DragonflyClient.Util.TaskId

/-!
Which downloads an id tells apart.

An id is computed from the identity of a download: its fields, written one after the other.  Two
downloads are told apart exactly when their identities are not two ways to cut one text.
-/

namespace DragonflyClient.Util

open Library Rendezvous Option Function PersistentTaskIDParameter

section Encodings

theorem digitChar_injective {first second} (small : first < 16) (smallToo : second < 16)
    (same : Nat.digitChar first = Nat.digitChar second) : first = second := by
  have all : ∀ one other : Fin 16, Nat.digitChar one = Nat.digitChar other → one = other := by
    decide
  exact Fin.mk.inj (all ⟨first, small⟩ ⟨second, smallToo⟩ same)

theorem hexByte_injective : Injective hexByte := by
  intro byte other same
  have bound := byte.toNat_lt
  have boundToo := other.toNat_lt
  simp only [hexByte, List.cons.injEq] at same
  have high := digitChar_injective (by omega) (by omega) same.1
  have low := digitChar_injective (by omega) (by omega) same.2.1
  exact UInt8.toNat_inj.mp (by omega)

theorem hexEncode_injective : Injective hexEncode := by
  intro bytes others same
  replace same := String.ofList_inj.mp same
  induction bytes generalizing others with
  | nil =>
    cases others with
    | nil => rfl
    | cons other others => simp [hexByte] at same
  | cons byte bytes ih =>
    cases others with
    | nil => simp [hexByte] at same
    | cons other others =>
      -- Every byte has two digits, so the first byte's digits end at the same place.
      obtain ⟨head, tail⟩ := List.append_inj same rfl
      rw [hexByte_injective head, ih tail]

theorem utf8_injective : Injective utf8 := by
  intro text other same
  apply some.inj
  rw [← ofUtf8_eq_some.mpr rfl, same, ofUtf8_eq_some.mpr rfl]

theorem decimal_injective : Injective decimal := by
  intro pieceLength other same
  have digits : Nat.toDigits 10 pieceLength.toNat = Nat.toDigits 10 other.toNat := by
    rw [← Nat.toList_repr, ← Nat.toList_repr]
    exact congrArg String.toList same
  have numbers := congrArg (Nat.ofDigitChars 10 · 0) digits
  simp only [Nat.ofDigitChars_toDigits (by decide : 1 < 10) (Nat.le_refl 10)] at numbers
  exact UInt64.toNat_inj.mp numbers

theorem map_utf8_injective : Injective (Option.map utf8) :=
  map_injective utf8_injective

end Encodings

section Identities

structure UrlIdentity where
  url : String
  tag : Option String
  application : Option String
  revision : Option String
  pieceLength : Option UInt64
  deriving DecidableEq

def UrlIdentity.fields (identity : UrlIdentity) : Fields UInt8 :=
  [some (utf8 identity.url), identity.tag.map utf8, identity.application.map utf8,
    identity.revision.map utf8, (identity.pieceLength.map decimal).map utf8,
    some (utf8 TaskType.standard.asStrName)]

def UrlBased.identity (urls : UrlLibrary) (parameter : UrlBased) : ClientResult UrlIdentity :=
  (filterQueryParams urls parameter.url parameter.filteredQueryParams).map fun finalUrl =>
    { url := finalUrl, tag := parameter.tag, application := parameter.application
      revision := parameter.revision, pieceLength := parameter.pieceLength }

def PersistentTaskIDParameter.fields (parameter : PersistentTaskIDParameter) : Fields UInt8 :=
  [some (utf8 parameter.url), some (utf8 parameter.region), some (utf8 parameter.endpoint),
    some (utf8 TaskType.persistent.asStrName)]

structure FileIdentity where
  content : List UInt8
  tag : Option String
  application : Option String
  pieceLength : Option UInt64
  deriving DecidableEq

def FileIdentity.fields (identity : FileIdentity) : Fields UInt8 :=
  [some identity.content, identity.tag.map utf8, identity.application.map utf8,
    (identity.pieceLength.map decimal).map utf8, some (utf8 TaskType.persistentCache.asStrName)]

def fileContent : List FileRead → ClientResult (List UInt8)
  | [] => .ok []
  | .bytes bytes :: reads => (fileContent reads).map (bytes ++ ·)
  | .interrupted :: reads => fileContent reads
  | .failed message :: _ => .error (.io message)

def FileContentBased.identity (parameter : FileContentBased) : ClientResult FileIdentity :=
  (parameter.file.bind fileContent).map fun content =>
    { content := content, tag := parameter.tag, application := parameter.application
      pieceLength := parameter.pieceLength }

theorem UrlIdentity.fields_injective : Injective UrlIdentity.fields := by
  rintro ⟨url, tag, application, revision, pieceLength⟩ ⟨_, _, _, _, _⟩ same
  simp only [fields, List.cons.injEq, some.injEq, and_true] at same
  obtain ⟨sameUrl, sameTag, sameApplication, sameRevision, samePiece⟩ := same
  rw [utf8_injective sameUrl, map_utf8_injective sameTag, map_utf8_injective sameApplication,
    map_utf8_injective sameRevision,
    map_injective decimal_injective (map_utf8_injective samePiece)]

theorem PersistentTaskIDParameter.fields_injective :
    Injective fields := by
  rintro ⟨url, region, endpoint⟩ ⟨_, _, _⟩ same
  simp only [fields, List.cons.injEq, some.injEq, and_true] at same
  obtain ⟨sameUrl, sameRegion, sameEndpoint⟩ := same
  rw [utf8_injective sameUrl, utf8_injective sameRegion, utf8_injective sameEndpoint]

theorem FileIdentity.fields_injective : Injective FileIdentity.fields := by
  rintro ⟨content, tag, application, pieceLength⟩ ⟨_, _, _, _⟩ same
  simp only [fields, List.cons.injEq, some.injEq, and_true] at same
  obtain ⟨sameContent, sameTag, sameApplication, samePiece⟩ := same
  rw [sameContent, map_utf8_injective sameTag, map_utf8_injective sameApplication,
    map_injective decimal_injective (map_utf8_injective samePiece)]

end Identities

section Ids

variable {urls : UrlLibrary} {sha256 : List UInt8 → List UInt8}

def fieldsId (sha256 : List UInt8 → List UInt8) (fields : Fields UInt8) : String :=
  hexEncode (sha256 fields.written)

@[simp]
theorem Hasher.fed_new : Hasher.new.fed = [] := rfl

@[simp]
theorem Hasher.fed_update (hasher : Hasher) (bytes : List UInt8) :
    (hasher.update bytes).fed = hasher.fed ++ bytes := rfl

@[simp]
theorem Hasher.fed_updateSome (hasher : Hasher) (text : Option String) :
    (hasher.updateSome text).fed = hasher.fed ++ (text.map utf8).getD [] := by
  cases text with
  | none => simp [updateSome]
  | some text => rfl

theorem hashReads_eq (hasher : Hasher) (reads : List FileRead) :
    hashReads hasher reads = (fileContent reads).map hasher.update := by
  induction reads generalizing hasher with
  | nil => simp [hashReads, fileContent, Except.map, Hasher.update]
  | cons read reads ih =>
    cases read with
    | bytes bytes =>
      rw [hashReads, ih, fileContent]
      cases fileContent reads with
      | error error => rfl
      | ok content => simp [Except.map, Hasher.update]
    | interrupted => exact ih hasher
    | failed message => rfl

theorem taskId_urlBased (parameter : UrlBased) :
    taskId urls sha256 (.urlBased parameter) =
      (parameter.identity urls).map fun identity => fieldsId sha256 identity.fields := by
  rw [taskId, UrlBased.identity]
  cases filterQueryParams urls parameter.url parameter.filteredQueryParams with
  | error error => rfl
  | ok finalUrl =>
    simp [Except.map, bind, Except.bind, Hasher.finalizeHex, fieldsId, UrlIdentity.fields,
      Fields.written]

theorem persistentTaskId_eq (parameter : PersistentTaskIDParameter) :
    persistentTaskId sha256 parameter = .ok (fieldsId sha256 parameter.fields) := by
  simp [persistentTaskId, Hasher.finalizeHex, fieldsId, fields,
    Fields.written]

theorem persistentCacheTaskId_fileContentBased (parameter : FileContentBased) :
    persistentCacheTaskId sha256 (.fileContentBased parameter) =
      parameter.identity.map fun identity => fieldsId sha256 identity.fields := by
  rw [persistentCacheTaskId, FileContentBased.identity]
  cases parameter.file with
  | error error => rfl
  | ok reads =>
    simp only [bind, Except.bind, hashReads_eq]
    cases fileContent reads with
    | error error => rfl
    | ok content =>
      simp [Except.map, Hasher.finalizeHex, fieldsId, FileIdentity.fields, Fields.written]

def Separates {Parameter Identity : Type} (id : Parameter → ClientResult String)
    (identity : Parameter → ClientResult Identity) (first second : Parameter) : Prop :=
  ∀ text, id first = .ok text → id second = .ok text → identity first = identity second

/-- The identities of two parameters, where both have one, are not written alike unless they are
the same. -/
def Unambiguous {Parameter Identity : Type} (identity : Parameter → ClientResult Identity)
    (fields : Identity → Fields UInt8) (first second : Parameter) : Prop :=
  ∀ one other, identity first = .ok one → identity second = .ok other →
    ¬ Fields.Ambiguous (fields one) (fields other)

theorem fieldsId_eq_iff (injective : Injective sha256) {one other} :
    fieldsId sha256 one = fieldsId sha256 other ↔ one.written = other.written := by
  constructor
  · intro same
    exact injective (hexEncode_injective same)
  · intro same
    simp only [fieldsId, same]

/-- Identities that are written alike get the same id, whatever the hash is. -/
theorem not_separates {Parameter Identity : Type} {id : Parameter → ClientResult String} {identity}
    {fields : Identity → Fields UInt8} (computed : ∀ parameter,
      id parameter = (identity parameter).map fun identity => fieldsId sha256 (fields identity))
    {first second one other} (found : identity first = .ok one)
    (foundToo : identity second = .ok other) (differ : one ≠ other)
    (same : (fields one).written = (fields other).written) :
    ¬ Separates id identity first second := by
  intro separates
  have sameId : fieldsId sha256 (fields one) = fieldsId sha256 (fields other) := by
    simp only [fieldsId, same]
  have equal : identity first = identity second := by
    apply separates (fieldsId sha256 (fields one))
    · rw [computed, found]
      rfl
    · rw [computed, foundToo, sameId]
      rfl
  rw [found, foundToo] at equal
  exact differ (Except.ok.inj equal)

theorem separates_iff {Parameter Identity : Type} {id : Parameter → ClientResult String} {identity}
    {fields : Identity → Fields UInt8} (injective : Injective sha256)
    (fieldsInjective : Injective fields) (computed : ∀ parameter,
      id parameter = (identity parameter).map fun identity => fieldsId sha256 (fields identity))
    (first second : Parameter) :
    Separates id identity first second ↔ Unambiguous identity fields first second := by
  constructor
  · intro separates one other found foundToo ambiguous
    have differ : one ≠ other := fun same => ambiguous.1 (congrArg fields same)
    exact not_separates computed found foundToo differ ambiguous.2 separates
  · intro unambiguous text isFirst isSecond
    rw [computed] at isFirst isSecond
    cases found : identity first with
    | error error => simp [found, Except.map] at isFirst
    | ok one =>
      cases foundToo : identity second with
      | error error => simp [foundToo, Except.map] at isSecond
      | ok other =>
        simp only [found, foundToo, Except.map, Except.ok.injEq] at isFirst isSecond
        by_contra differ
        apply unambiguous one other found foundToo
        refine ⟨fun same => differ (congrArg Except.ok (fieldsInjective same)), ?_⟩
        exact (fieldsId_eq_iff injective).mp (isFirst.trans isSecond.symm)

/-- An id tells two downloads apart exactly when the fields of their identities are not two ways
to cut one text; where both have the same fields, of the same lengths, they are not. -/
theorem ids_separate_iff (urls : UrlLibrary) (sha256 : List UInt8 → List UInt8)
    (injective : Injective sha256) :
    (∀ first second : UrlBased,
      Separates (fun parameter => taskId urls sha256 (.urlBased parameter))
          (UrlBased.identity urls) first second ↔
        Unambiguous (UrlBased.identity urls) UrlIdentity.fields first second) ∧
    (∀ first second : PersistentTaskIDParameter,
      Separates (persistentTaskId sha256) Except.ok first second ↔
        Unambiguous Except.ok fields first second) ∧
    (∀ first second : FileContentBased,
      Separates (fun parameter => persistentCacheTaskId sha256 (.fileContentBased parameter))
          FileContentBased.identity first second ↔
        Unambiguous FileContentBased.identity FileIdentity.fields first second) ∧
    (∀ first second : Fields UInt8,
      Fields.Aligned first second → ¬ Fields.Ambiguous first second) := by
  refine ⟨fun first second => ?_, fun first second => ?_, fun first second => ?_,
    fun first second aligned => aligned.not_ambiguous⟩
  · exact separates_iff injective UrlIdentity.fields_injective taskId_urlBased first second
  · exact separates_iff injective fields_injective
      persistentTaskId_eq first second
  · exact separates_iff injective FileIdentity.fields_injective
      persistentCacheTaskId_fileContentBased first second

/-- A library whose urls are their texts; none of the functions but the text's is consulted where
no parameter is filtered. -/
def plainUrls : UrlLibrary where
  Url := String
  parse := .ok
  query _ := none
  setQuery url _ := url
  path url := url
  toString url := url
  formParse _ := []

theorem ids_separate_of_regions :
    Injective (fun bytes : List UInt8 => bytes) ∧
      Separates (persistentTaskId fun bytes => bytes) Except.ok
        ⟨"s3://bucket/key", "a", "e"⟩ ⟨"s3://bucket/key", "b", "e"⟩ := by
  have separate := ids_separate_iff plainUrls (fun bytes => bytes) injective_id
  refine ⟨injective_id, (separate.2.1 _ _).mpr ?_⟩
  rintro one other ⟨⟩ ⟨⟩
  exact separate.2.2.2 _ _ rfl

/-- A tag and an application that are written like a longer tag, a region that ends where the
endpoint begins, and a file that ends like a tag. -/
theorem ids_of_shifted_fields :
    ¬ Separates (fun parameter => taskId plainUrls (fun bytes => bytes) (.urlBased parameter))
        (UrlBased.identity plainUrls)
        ⟨"http://host/file", none, some "a", some "b", [], none⟩
        ⟨"http://host/file", none, some "ab", none, [], none⟩ ∧
    ¬ Separates (persistentTaskId fun bytes => bytes) Except.ok
        ⟨"s3://bucket/key", "a", "bc"⟩ ⟨"s3://bucket/key", "ab", "c"⟩ ∧
    ¬ Separates (fun parameter =>
          persistentCacheTaskId (fun bytes => bytes) (.fileContentBased parameter))
        FileContentBased.identity
        ⟨.ok [.bytes (utf8 "ab")], none, none, none⟩
        ⟨.ok [.bytes (utf8 "a")], none, some "b", none⟩ := by
  refine ⟨?_, ?_, ?_⟩
  · apply not_separates taskId_urlBased rfl rfl (by decide)
    rfl
  · apply not_separates persistentTaskId_eq rfl rfl (by simp)
    rfl
  · apply not_separates persistentCacheTaskId_fileContentBased rfl rfl (by simp)
    rfl

end Ids

end DragonflyClient.Util
