import Mathlib.Data.List.Forall2

/-!
Sequenced updates of a state that may fail part way.

A failing update keeps whatever it already wrote, as a method taking
`&mut self` and returning a `Result` does.  `tryEach` is the loop that stops
at the first failure.
-/

namespace DragonflyClient.Library

open List

variable {State Item Failure : Type}

/-- An update that either replaces the whole state or leaves it untouched. -/
def commit (state : State) : Except Failure State → State × Except Failure Unit
  | .ok updated => (updated, .ok ())
  | .error failure => (state, .error failure)

def andThen (first : State × Except Failure Unit)
    (next : State → State × Except Failure Unit) : State × Except Failure Unit :=
  match first.2 with
  | .ok () => next first.1
  | .error failure => (first.1, .error failure)

def tryEach (update : State → Item → State × Except Failure Unit) :
    List Item → State → State × Except Failure Unit
  | [], state => (state, .ok ())
  | item :: rest, state => andThen (update state item) (tryEach update rest)

/-- `iter().map(..).collect::<Result<Vec<_>>>()`: the images of all items, or
the first failure. -/
def collect {Image : Type} (image : Item → Except Failure Image) :
    List Item → Except Failure (List Image)
  | [] => .ok []
  | item :: rest =>
    match image item with
    | .error failure => .error failure
    | .ok first => (collect image rest).map (first :: ·)

/-- Consecutive runs of `size` items, with as many rounds as there are items. -/
def splitRuns (size : Nat) : Nat → List Item → List (List Item)
  | 0, _ => []
  | _ + 1, [] => []
  | rounds + 1, item :: rest =>
    (item :: rest).take size :: splitRuns size rounds ((item :: rest).drop size)

/-- The batches of a loop that takes `size` items at a time.  A zero size gives
an empty first batch with every item still behind it. -/
def batches (size : Nat) (items : List Item) : List (List Item) :=
  if size = 0 then
    match items with
    | [] => []
    | _ :: _ => [[], items]
  else
    splitRuns size items.length items

@[simp]
theorem commit_ok (state updated : State) :
    commit state (.ok updated : Except Failure State) = (updated, .ok ()) := rfl

@[simp]
theorem commit_error (state : State) (failure : Failure) :
    commit state (.error failure) = (state, .error failure) := rfl

@[simp]
theorem andThen_ok (state : State) (next : State → State × Except Failure Unit) :
    andThen (state, .ok ()) next = next state := rfl

@[simp]
theorem andThen_error (state : State) (failure : Failure)
    (next : State → State × Except Failure Unit) :
    andThen (state, .error failure) next = (state, .error failure) := rfl

@[simp]
theorem tryEach_nil (update : State → Item → State × Except Failure Unit)
    (state : State) : tryEach update [] state = (state, .ok ()) := rfl

variable {Image : Type} {image : Item → Except Failure Image} {items : List Item}
  {images : List Image}

theorem collect_eq_ok :
    collect image items = .ok images ↔
      List.Forall₂ (fun item result => image item = .ok result) items images := by
  induction items generalizing images with
  | nil =>
    simp only [collect, Except.ok.injEq, forall₂_nil_left_iff]
    exact eq_comm
  | cons item rest ih =>
    rw [collect, forall₂_cons_left_iff]
    cases found : image item with
    | error failure => simp
    | ok first =>
      cases others : collect image rest with
      | error failure =>
        simp only [Except.map, reduceCtorEq, false_iff]
        rintro ⟨head, tail, same, images, -⟩
        have := ih.mpr images
        rw [others] at this
        cases this
      | ok tail =>
        simp only [Except.map, Except.ok.injEq]
        constructor
        · rintro rfl
          exact ⟨first, tail, rfl, ih.mp others, rfl⟩
        · rintro ⟨head, tail', rfl, images, rfl⟩
          have := ih.mpr images
          rw [others] at this
          rw [Except.ok.inj this]

theorem collect_ok {Shared : Type}
    (ofImage : Image → Shared) (ofItem : Item → Shared) (property : Image → Prop)
    (spec : ∀ item found, image item = .ok found → ofImage found = ofItem item ∧ property found)
    (collected : collect image items = .ok images) :
    images.map ofImage = items.map ofItem ∧ ∀ found ∈ images, property found := by
  rw [collect_eq_ok] at collected
  induction collected with
  | nil => simp
  | cons found _ ih =>
    obtain ⟨same, holds⟩ := spec _ _ found
    rw [map_cons, map_cons, same, ih.1]
    exact ⟨rfl, forall_mem_cons.mpr ⟨holds, ih.2⟩⟩

theorem collect_eq_map {result} (succeeds : ∀ item ∈ items, image item = .ok (result item)) :
    collect image items = .ok (items.map result) := by
  rw [collect_eq_ok, forall₂_map_right_iff, forall₂_same]
  exact succeeds

theorem collect_mem (collected : collect image items = .ok images) {item} (member : item ∈ items) :
    ∃ found ∈ images, image item = .ok found := by
  rw [collect_eq_ok] at collected
  induction collected with
  | nil => simp at member
  | cons found _ ih =>
    rcases mem_cons.mp member with rfl | later
    · exact ⟨_, mem_cons_self, found⟩
    · obtain ⟨image, inImages, same⟩ := ih later
      exact ⟨image, mem_cons_of_mem _ inImages, same⟩

theorem collect_exists {property : Image → Prop}
    (succeeds : ∀ item ∈ items, ∃ found, image item = .ok found ∧ property found) :
    ∃ images, collect image items = .ok images ∧ ∀ found ∈ images, property found := by
  induction items with
  | nil => exact ⟨[], rfl, by simp⟩
  | cons item rest ih =>
    obtain ⟨⟨found, same, holds⟩, later⟩ := forall_mem_cons.mp succeeds
    obtain ⟨images, collected, all⟩ := ih later
    refine ⟨found :: images, ?_, forall_mem_cons.mpr ⟨holds, all⟩⟩
    rw [collect, same, collected]
    rfl

theorem flatten_splitRuns {size} (positive : size ≠ 0) (rounds : Nat) (items : List Item)
    (enough : items.length ≤ rounds) :
    (splitRuns size rounds items).flatten = items := by
  induction rounds generalizing items with
  | zero => simp_all [splitRuns]
  | succ rounds ih =>
    cases items with
    | nil => rfl
    | cons item rest =>
      rw [splitRuns, flatten_cons, ih, take_append_drop]
      simp only [length_drop, length_cons] at enough ⊢
      omega

theorem flatten_batches (size : Nat) (items : List Item) :
    (batches size items).flatten = items := by
  unfold batches
  split
  next => cases items <;> simp
  next positive => exact flatten_splitRuns positive _ _ (Nat.le_refl _)

theorem nil_notMem_splitRuns {size} (positive : size ≠ 0) (rounds : Nat) (items : List Item) :
    [] ∉ splitRuns size rounds items := by
  induction rounds generalizing items with
  | zero => simp [splitRuns]
  | succ rounds ih =>
    cases items with
    | nil => simp [splitRuns]
    | cons item rest =>
      rw [splitRuns, mem_cons, not_or]
      refine ⟨fun empty => ?_, ih _⟩
      simp [positive] at empty

theorem nil_notMem_tail_batches (size : Nat) (items : List Item) :
    [] ∉ (batches size items).tail := by
  unfold batches
  split
  next => cases items <;> simp
  next positive =>
    exact fun listed => nil_notMem_splitRuns positive _ _ (mem_of_mem_tail listed)

theorem map_zip_left {Other : Type} (image : Item → Image)
    {others : List Other} (covered : items.length ≤ others.length) :
    (items.zip others).map (fun pair => image pair.1) = items.map image :=
  calc (items.zip others).map (fun pair => image pair.1)
      = ((items.zip others).map Prod.fst).map image := by rw [map_map]; rfl
    _ = items.map image := by rw [map_fst_zip covered]

theorem tryEach_map {Other : Type} (update : State → Item → State × Except Failure Unit)
    (image : Other → Item) (others : List Other) (state : State) :
    tryEach update (others.map image) state =
      tryEach (fun state other => update state (image other)) others state := by
  induction others generalizing state with
  | nil => rfl
  | cons other rest ih =>
    simp only [map_cons, tryEach, andThen, ih]

theorem andThen_invariant (invariant : State → Prop) {first}
    {next : State → State × Except Failure Unit} (before : invariant first.1)
    (preserved : ∀ state, invariant state → invariant (next state).1) :
    invariant (andThen first next).1 := by
  rw [andThen]
  split
  · exact preserved _ before
  · exact before

/-- An invariant of the single update is an invariant of the loop, whether or
not it is cut short. -/
theorem tryEach_invariant {update : State → Item → State × Except Failure Unit}
    (invariant : State → Prop)
    (preserved : ∀ state, ∀ item ∈ items, invariant state → invariant (update state item).1)
    {state : State} (initial : invariant state) :
    invariant (tryEach update items state).1 := by
  induction items generalizing state with
  | nil => exact initial
  | cons item rest ih =>
    apply andThen_invariant invariant (preserved state item mem_cons_self initial)
    intro next
    exact ih fun state other later =>
      preserved state other (mem_cons_of_mem _ later)

end DragonflyClient.Library
