import DragonflyClient.Dfget.Output
import DragonflyClient.Library.Sequence
import DragonflyClient.Library.UrlJoin

/-!
The include files of a directory download (`validate_args`, `is_normal_relative_path` and the
first half of `get_all_entries` in `bin/dfget/main.rs`): they are checked as paths of a file
system and then joined to a url.
-/

namespace DragonflyClient.Dfget

open Library UrlRecord List

inductive Component where
  | rootDir
  | curDir
  | parentDir
  | normal (name : List Char)
  deriving DecidableEq, Repr

def Component.isNormal : Component → Bool
  | .normal _ => true
  | _ => false

def Component.ofName (name : List Char) : Option Component :=
  if name = ['.'] then none
  else if name = ['.', '.'] then some .parentDir
  else some (.normal name)

/-- `Path::components`: a dot counts only at the start. -/
def pathComponents (path : List Char) : List Component :=
  let start : List Component :=
    if path.head? = some '/' then [.rootDir]
    else if (path.splitOn '/').head? = some ['.'] then [.curDir]
    else []
  start ++ (components path).filterMap Component.ofName

def isNormalRelativePath (path : List Char) : Bool :=
  path.head? ≠ some '/' && (pathComponents path).all Component.isNormal

/-- The fields of the arguments that `validate_args` reads. -/
structure Args where
  url : UrlRecord
  output : List Char
  overwrite : Bool
  pieceLength : Option UInt64
  includeFiles : Option (List (List Char))

/-- The file system, and the functions of the `path-absolutize` and `glob` crates. -/
structure Surroundings where
  isDir : List Char → Bool
  pathExists : List Char → Bool
  absolutize : List Char → Except String (List Char)
  parent : List Char → Option (List Char)
  isPattern : List Char → Bool

def minPieceLength : UInt64 := 4 * 1024 * 1024

def endsWithSlash (url : UrlRecord) : Bool := url.pathText.getLast? = some '/'

section Validation

variable (surroundings : Surroundings)

def checkOutput (args : Args) : ClientResult Unit :=
  if endsWithSlash args.url then
    if surroundings.isDir args.output then .ok ()
    else
      .error (.validationError
        s!"output path {String.ofList args.output} is not a directory")
  else
    match surroundings.absolutize args.output with
    | .error message => .error (.io message)
    | .ok absolutePath =>
      match surroundings.parent absolutePath with
      | none =>
        .error (.validationError s!"output path {String.ofList args.output} is not exist")
      | some parentPath =>
        if ¬ surroundings.isDir parentPath then
          .error (.validationError
            s!"output path {String.ofList parentPath} is not a directory")
        else if ¬ args.overwrite ∧ surroundings.pathExists absolutePath then
          .error (.validationError
            s!"output path {String.ofList args.output} is already exist")
        else .ok ()

def checkPieceLength : Option UInt64 → ClientResult Unit
  | none => .ok ()
  | some pieceLength =>
    if pieceLength < minPieceLength then
      .error (.validationError
        (s!"piece length {pieceLength} bytes is less than the minimum piece length " ++
          s!"{minPieceLength} bytes"))
    else .ok ()

def checkIncludeFile (includeFile : List Char) : ClientResult Unit :=
  if ¬ surroundings.isPattern includeFile then
    .error (.validationError
      s!"invalid glob pattern in include_files: '{String.ofList includeFile}'")
  else if ¬ isNormalRelativePath includeFile then
    .error (.validationError
      (s!"path is not a normal relative path in include_files: '{String.ofList includeFile}'. " ++
        "It must not contain '..', '.', or start with '/'."))
  else .ok ()

def checkIncludeFiles : List (List Char) → ClientResult Unit
  | [] => .ok ()
  | includeFile :: rest =>
    match checkIncludeFile surroundings includeFile with
    | .error error => .error error
    | .ok () => checkIncludeFiles rest

def validateArgs (args : Args) : ClientResult Unit :=
  match checkOutput surroundings args with
  | .error error => .error error
  | .ok () =>
    match checkPieceLength args.pieceLength with
    | .error error => .error error
    | .ok () => checkIncludeFiles surroundings (args.includeFiles.getD [])

end Validation

/-- `join().or_err(ErrorType::ParseError)`. -/
def UrlCrate.join (crate : UrlCrate) (base : UrlRecord) (text : List Char) :
    ClientResult UrlRecord :=
  match UrlRecord.join crate.hosts base text with
  | none => .error (.externalError "ParseError" (crate.failure text))
  | some url => .ok url

/-- The urls that `get_all_entries` asks for; the order and the repetitions of the list are lost
in a set. -/
def makeUrls (crate : UrlCrate) (baseUrl : UrlRecord) :
    Option (List (List Char)) → ClientResult (List UrlRecord)
  | some files => collect (crate.join baseUrl) files
  | none => .ok [baseUrl]

section Accepted

variable {surroundings : Surroundings} {crate : UrlCrate} {files : List (List Char)}

theorem checkIncludeFiles_ok (accepted : checkIncludeFiles surroundings files = .ok ()) :
    ∀ file ∈ files, isNormalRelativePath file = true := by
  induction files with
  | nil => simp
  | cons file rest ih =>
    rw [checkIncludeFiles] at accepted
    split at accepted
    case h_1 => cases accepted
    case h_2 checked =>
      refine forall_mem_cons.mpr ⟨?_, ih accepted⟩
      unfold checkIncludeFile at checked
      split at checked
      · cases checked
      · split at checked
        · cases checked
        · next normal => simpa using normal

theorem validateArgs_ok {args} (accepted : validateArgs surroundings args = .ok ())
    (included : args.includeFiles = some files) :
    ∀ file ∈ files, isNormalRelativePath file = true := by
  unfold validateArgs at accepted
  split at accepted
  · cases accepted
  · split at accepted
    · cases accepted
    · rw [included] at accepted
      exact checkIncludeFiles_ok accepted

theorem parentDir_notMem {file} (accepted : isNormalRelativePath file = true) :
    file.head? ≠ some '/' ∧ ['.', '.'] ∉ file.splitOn '/' := by
  rw [isNormalRelativePath, Bool.and_eq_true, decide_eq_true_eq, all_eq_true] at accepted
  refine ⟨accepted.1, fun parent => ?_⟩
  have inComponents : ['.', '.'] ∈ components file := by
    rw [components, mem_filter]
    exact ⟨parent, by decide⟩
  have inPath : Component.parentDir ∈ pathComponents file := by
    apply mem_append_right
    exact mem_filterMap.mpr ⟨['.', '.'], inComponents, by decide⟩
  exact absurd (accepted.2 _ inPath) (by decide)

theorem join_eq_ok {base url file} :
    crate.join base file = .ok url ↔ base.join crate.hosts file = some url := by
  rw [UrlCrate.join]
  cases base.join crate.hosts file <;> simp

theorem makeUrls_extends_iff (crate : UrlCrate) (files : List (List Char)) :
    (∀ base, Directory base → ∃ urls, makeUrls crate base (some files) = .ok urls ∧
        ∀ url ∈ urls, Extends base url) ↔ ∀ file ∈ files, PlainReference file := by
  constructor
  · intro under file member
    rw [← join_extends_iff crate.hosts]
    intro base directory
    obtain ⟨urls, made, extended⟩ := under base directory
    obtain ⟨url, inUrls, joined⟩ := collect_mem made member
    exact ⟨url, join_eq_ok.mp joined, extended url inUrls⟩
  · intro plain base directory
    apply collect_exists
    intro file member
    obtain ⟨url, joined, extended⟩ := (plain file member).join_extends directory
    exact ⟨url, join_eq_ok.mpr joined, extended⟩

end Accepted

/-- The urls of the include files are all built and are under the base, whichever directory the
base is, exactly when every include file is a plain reference.  What the arguments are checked
for is enough only for files without reserved characters. -/
theorem include_files_extend_base (crate : UrlCrate) (surroundings : Surroundings) (args : Args)
    (files : List (List Char)) (accepted : validateArgs surroundings args = .ok ())
    (included : args.includeFiles = some files) :
    ((∀ base, Directory base → ∃ urls, makeUrls crate base (some files) = .ok urls ∧
        ∀ url ∈ urls, Extends base url) ↔ ∀ file ∈ files, PlainReference file) ∧
      ∀ file ∈ files, (∀ char ∈ file, isUnreserved char = true) → PlainReference file := by
  refine ⟨makeUrls_extends_iff crate files, ?_⟩
  intro file member plain
  have normal := validateArgs_ok accepted included file member
  obtain ⟨relative, noParent⟩ := parentDir_notMem normal
  exact PlainReference.of_isUnreserved plain relative noParent

/-- A file system in which the output is a directory; texts without wildcards are patterns. -/
def plainSurroundings : Surroundings where
  isDir := fun _ => true
  pathExists := fun _ => false
  absolutize := .ok
  parent := fun _ => some ['/']
  isPattern := fun text => text.all fun char => char ≠ '*' && char ≠ '?' && char ≠ '['

def exampleArgs (includeFiles : List (List Char)) : Args where
  url := directoryUrl httpScheme [['d', 'i', 'r']]
  output := "/srv/out".toList
  overwrite := false
  pieceLength := none
  includeFiles := some includeFiles

theorem include_files_extend_base_nested_file :
    validateArgs plainSurroundings (exampleArgs ["a/b.bin".toList]) = .ok () ∧
      ∀ base, Directory base →
        ∃ urls, makeUrls plainCrate base (some ["a/b.bin".toList]) = .ok urls ∧
          ∀ url ∈ urls, Extends base url := by
  have accepted : validateArgs plainSurroundings (exampleArgs ["a/b.bin".toList]) = .ok () := rfl
  obtain ⟨characterized, plain⟩ :=
    include_files_extend_base plainCrate plainSurroundings _ _ accepted rfl
  refine ⟨accepted, characterized.mpr fun file member => plain file member ?_⟩
  rw [mem_singleton] at member
  subst member
  exact all_eq_true.mp (by decide)

/-- An accepted include file can name another host, and one with escaped dots leaves the
directory. -/
theorem include_files_redirect :
    validateArgs plainSurroundings
        (exampleArgs ["http://evil.example/x".toList, "%2e%2e/secret".toList]) = .ok () ∧
      ∃ other parent,
        makeUrls plainCrate (exampleArgs []).url
            (some ["http://evil.example/x".toList, "%2e%2e/secret".toList]) =
          .ok [other, parent] ∧
        other.host = some "evil.example".toList ∧ (exampleArgs []).url.host = some ['h'] ∧
        parent.pathText = "/secret".toList ∧ (exampleArgs []).url.pathText = "/dir/".toList := by
  refine ⟨rfl, _, _, rfl, ?_⟩
  decide +kernel

end DragonflyClient.Dfget
