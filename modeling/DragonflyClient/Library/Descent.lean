import Mathlib.Data.List.Infix

/-!
Paths in a tree of names: where a list of parts leads, and when it never leaves the
subtree it starts in.
-/

namespace DragonflyClient.Library

open List

inductive Move where
  | stay
  | up
  | down
  deriving DecidableEq, Repr

variable {Part : Type}

/-- Going up from the root stays there. -/
def descend (move : Part → Move) (place : List Part) (part : Part) : List Part :=
  match move part with
  | .stay => place
  | .up => place.dropLast
  | .down => place ++ [part]

def walk (move : Part → Move) (place parts : List Part) : List Part :=
  parts.foldl (descend move) place

/-- From `depth` levels below the start, the parts never lead above it. -/
def staysBelow (move : Part → Move) : Nat → List Part → Bool
  | _, [] => true
  | depth, part :: parts =>
    match move part with
    | .stay => staysBelow move depth parts
    | .up => depth != 0 && staysBelow move (depth - 1) parts
    | .down => staysBelow move (depth + 1) parts

variable {move : Part → Move} {place below parts : List Part} {part name : Part}

@[simp]
theorem walk_nil (move : Part → Move) (place : List Part) : walk move place [] = place := rfl

@[simp]
theorem walk_cons (move : Part → Move) (place parts : List Part) (part : Part) :
    walk move place (part :: parts) = walk move (descend move place part) parts := rfl

theorem walk_append (move : Part → Move) (place first second : List Part) :
    walk move place (first ++ second) = walk move (walk move place first) second :=
  foldl_append

theorem staysBelow_of_length_le {depth} (deep : parts.length ≤ depth) :
    staysBelow move depth parts = true := by
  induction parts generalizing depth with
  | nil => rfl
  | cons part parts ih =>
    rw [length_cons] at deep
    rw [staysBelow]
    cases move part with
    | stay => exact ih (by omega)
    | down => exact ih (by omega)
    | up =>
      rw [Bool.and_eq_true, bne_iff_ne]
      exact ⟨by omega, ih (by omega)⟩

theorem staysBelow_of_forall_ne_up (depth : Nat) (level : ∀ part ∈ parts, move part ≠ .up) :
    staysBelow move depth parts = true := by
  induction parts generalizing depth with
  | nil => rfl
  | cons part parts ih =>
    obtain ⟨first, later⟩ := forall_mem_cons.mp level
    rw [staysBelow]
    cases moved : move part with
    | stay => exact ih depth later
    | down => exact ih (depth + 1) later
    | up => exact absurd moved first

theorem prefix_walk_of_staysBelow (stays : staysBelow move below.length parts = true) :
    place <+: walk move (place ++ below) parts := by
  induction parts generalizing below with
  | nil => exact prefix_append place below
  | cons part parts ih =>
    rw [staysBelow] at stays
    rw [walk_cons, descend]
    cases moved : move part with
    | stay =>
      simp only [moved] at stays
      exact ih stays
    | down =>
      simp only [moved] at stays
      rw [append_assoc]
      apply ih
      simpa using stays
    | up =>
      cases below using List.reverseRecOn with
      | nil => simp [moved] at stays
      | append_singleton below last =>
        simp only [← append_assoc, dropLast_concat]
        apply ih
        simpa [moved] using stays

theorem prefix_walk (place : List Part) (stays : staysBelow move 0 parts = true) :
    place <+: walk move place parts := by
  have start : place <+: walk move (place ++ []) parts := prefix_walk_of_staysBelow stays
  rwa [append_nil] at start

theorem not_prefix_walk (absent : name ∉ parts) {current} (lost : ¬ place ++ [name] <+: current) :
    ¬ place ++ [name] <+: walk move current parts := by
  induction parts generalizing current with
  | nil => exact lost
  | cons part parts ih =>
    rw [mem_cons, not_or] at absent
    apply ih absent.2
    rw [descend]
    cases move part with
    | stay => exact lost
    | up =>
      intro found
      have shortened := dropLast_prefix current
      exact lost (List.IsPrefix.trans found shortened)
    | down =>
      intro found
      rcases prefix_concat_iff.mp found with whole | shorter
      · exact absent.1 (append_inj_right' whole rfl |> singleton_inj.mp)
      · exact lost shorter

theorem not_prefix_walk_of_climbs (absent : name ∉ parts)
    (climbs : staysBelow move below.length parts = false) :
    ¬ place ++ [name] <+: walk move (place ++ [name] ++ below) parts := by
  induction parts generalizing below with
  | nil => simp [staysBelow] at climbs
  | cons part parts ih =>
    have absentLater : name ∉ parts := fun later => absent (mem_cons_of_mem part later)
    rw [staysBelow] at climbs
    rw [walk_cons, descend]
    cases moved : move part with
    | stay =>
      simp only [moved] at climbs
      exact ih absentLater climbs
    | down =>
      simp only [moved] at climbs
      rw [append_assoc (place ++ [name])]
      apply ih absentLater
      simpa using climbs
    | up =>
      cases below using List.reverseRecOn with
      | nil =>
        -- The step above the start: from here on the name is lost.
        apply not_prefix_walk absentLater
        simp only [append_nil, dropLast_concat]
        intro found
        have shorter := found.length_le
        simp only [length_append, length_singleton] at shorter
        omega
      | append_singleton below last =>
        simp only [← append_assoc, dropLast_concat]
        apply ih absentLater
        simpa [moved] using climbs

theorem not_prefix_walk_singleton (absent : name ∉ parts)
    (climbs : staysBelow move 0 parts = false) : ¬ [name] <+: walk move [name] parts := by
  have lost : ¬ [] ++ [name] <+: walk move ([] ++ [name] ++ []) parts :=
    not_prefix_walk_of_climbs absent climbs
  rwa [nil_append, append_nil] at lost

theorem not_prefix_walk_root (absent : name ∉ parts) : ¬ [name] <+: walk move [] parts := by
  have lost : ¬ ([] : List Part) ++ [name] <+: [] := by simp
  have never : ¬ [] ++ [name] <+: walk move [] parts := not_prefix_walk absent lost
  rwa [nil_append] at never

section Posix

def posixMove (name : List Char) : Move :=
  if name = ['.'] then .stay else if name = ['.', '.'] then .up else .down

def components (path : List Char) : List (List Char) := (path.splitOn '/').filter (· ≠ [])

/-- The absolute path a text means in a working directory, normalized lexically. -/
def resolve (directory : List (List Char)) (path : List Char) : List (List Char) :=
  walk posixMove (if path.head? = some '/' then [] else directory) (components path)

def Within (directory : List (List Char)) (root path : List Char) : Prop :=
  resolve directory root <+: resolve directory path

instance (directory : List (List Char)) (root path : List Char) :
    Decidable (Within directory root path) :=
  inferInstanceAs (Decidable (resolve directory root <+: resolve directory path))

variable {directory : List (List Char)}

@[simp]
theorem components_nil : components [] = [] := rfl

theorem components_append_slash (first second : List Char) :
    components (first ++ '/' :: second) = components first ++ components second := by
  simp [components, List.splitOn, splitOnP_append_cons]

theorem components_of_notMem {name} (nonempty : name ≠ []) (noSlash : '/' ∉ name) :
    components name = [name] := by
  have whole : List.splitOn '/' name = [name] := by
    apply splitOnP_eq_singleton
    intro char member
    rw [beq_eq_false_iff_ne]
    exact fun slash => noSlash (slash ▸ member)
  simp [components, whole, nonempty]

theorem resolve_append_slash (first second : List Char) :
    resolve directory (first ++ '/' :: second) =
      walk posixMove (resolve directory (first ++ ['/'])) (components second) := by
  have start : (first ++ '/' :: second).head? = (first ++ ['/']).head? := by cases first <;> rfl
  rw [resolve, resolve, start, components_append_slash, components_append_slash, walk_append]
  simp

theorem resolve_concat_slash {path} (nonempty : path ≠ []) :
    resolve directory (path ++ ['/']) = resolve directory path := by
  have start : (path ++ ['/']).head? = path.head? := by
    cases path with
    | nil => exact absurd rfl nonempty
    | cons => rfl
  rw [resolve, resolve, start, components_append_slash]
  simp

theorem exists_fresh_name (names : List (List Char)) :
    ∃ length : Nat, List.replicate (length + 1) 'a' ∉ names := by
  refine ⟨names.flatten.length, fun member => ?_⟩
  have shorter := (sublist_flatten_of_mem member).length_le
  simp only [length_replicate] at shorter
  omega

theorem components_replicate (length : Nat) :
    components (List.replicate (length + 1) 'a') = [List.replicate (length + 1) 'a'] := by
  apply components_of_notMem (by simp)
  simp [mem_replicate]

theorem posixMove_replicate (length : Nat) :
    posixMove (List.replicate (length + 1) 'a') = .down := by
  simp [posixMove, replicate_succ]

end Posix

end DragonflyClient.Library
