import Mathlib.Data.List.Basic

/-!
Regular expressions as backtracking matchers.

A matcher takes what is left of a text and, if it can match all of it, gives what it captures.
Each part of an expression is a matcher in front of the matcher of the rest: where an expression
has a choice, the greedy one is tried first and the rest decides whether it stands.
-/

namespace DragonflyClient.Library

abbrev Matcher (Capture : Type) := List Char → Option Capture

namespace Matcher

variable {Capture : Type}

/-- `$`: the end of the text. -/
def finish (capture : Capture) : Matcher Capture
  | [] => some capture
  | _ :: _ => none

def literal (text : List Char) (rest : Matcher Capture) : Matcher Capture := fun input =>
  if text.isPrefixOf input then rest (input.drop text.length) else none

/-- `[..]*` with the characters it takes, the longest run first. -/
def many (allowed : Char → Bool) (rest : List Char → Matcher Capture) : Matcher Capture
  | [] => rest [] []
  | char :: input =>
    if allowed char then
      (many allowed (fun taken => rest (char :: taken)) input).or (rest [] (char :: input))
    else rest [] (char :: input)

/-- `[..]+`. -/
def many1 (allowed : Char → Bool) (rest : List Char → Matcher Capture) : Matcher Capture
  | [] => none
  | char :: input =>
    if allowed char then many allowed (fun taken => rest (char :: taken)) input else none

/-- `(?:..)?`, with the group first. -/
def maybe (part : Matcher Capture → Matcher Capture) (rest : Matcher Capture) :
    Matcher Capture := fun input =>
  (part rest input).or (rest input)

section Matches

variable {allowed : Char → Bool} {capture : Capture} {input : List Char}

theorem finish_eq_some {other} (matched : finish other input = some capture) :
    input = [] ∧ other = capture := by
  cases input with
  | nil => exact ⟨rfl, Option.some.inj matched⟩
  | cons char input => cases matched

theorem literal_eq_some {text rest} (matched : literal text rest input = some capture) :
    ∃ left, input = text ++ left ∧ rest left = some capture := by
  rw [literal] at matched
  split at matched
  next present =>
    obtain ⟨left, rfl⟩ := List.isPrefixOf_iff_prefix.mp present
    rw [List.drop_left] at matched
    exact ⟨left, rfl, matched⟩
  next => cases matched

theorem many_eq_some {rest} (matched : many allowed rest input = some capture) :
    ∃ taken left, input = taken ++ left ∧ (∀ char ∈ taken, allowed char = true) ∧
      rest taken left = some capture := by
  induction input generalizing rest with
  | nil => exact ⟨[], [], rfl, by simp, matched⟩
  | cons char input ih =>
    rw [many] at matched
    split at matched
    next fits =>
      rcases Option.or_eq_some_iff.mp matched with longer | ⟨-, stopped⟩
      · obtain ⟨taken, left, rfl, all, matches_⟩ := ih longer
        exact ⟨char :: taken, left, rfl, List.forall_mem_cons.mpr ⟨fits, all⟩, matches_⟩
      · exact ⟨[], char :: input, rfl, by simp, stopped⟩
    next => exact ⟨[], char :: input, rfl, by simp, matched⟩

theorem many1_eq_some {rest} (matched : many1 allowed rest input = some capture) :
    ∃ taken left, input = taken ++ left ∧ taken ≠ [] ∧ (∀ char ∈ taken, allowed char = true) ∧
      rest taken left = some capture := by
  cases input with
  | nil => cases matched
  | cons char input =>
    rw [many1] at matched
    split at matched
    next fits =>
      obtain ⟨taken, left, rfl, all, rested⟩ := many_eq_some matched
      exact ⟨char :: taken, left, rfl, by simp, List.forall_mem_cons.mpr ⟨fits, all⟩, rested⟩
    next => cases matched

theorem maybe_eq_some {part rest} (matched : maybe part rest input = some capture) :
    part rest input = some capture ∨ rest input = some capture := by
  rcases Option.or_eq_some_iff.mp matched with first | ⟨-, second⟩
  · exact .inl first
  · exact .inr second

end Matches

end Matcher

end DragonflyClient.Library
