import Mathlib.Data.List.Basic

/-!
Optional fields written one after the other.

Nothing marks where a field ends or that it is missing, so that two different records can be
written alike.  They cannot when the same fields are present, with the same lengths.
-/

namespace DragonflyClient.Library

variable {Symbol : Type}

abbrev Fields (Symbol : Type) := List (Option (List Symbol))

namespace Fields

def written (fields : Fields Symbol) : List Symbol := (fields.map (·.getD [])).flatten

/-- Two different records that are written alike. -/
def Ambiguous (first second : Fields Symbol) : Prop :=
  first ≠ second ∧ first.written = second.written

def Aligned (first second : Fields Symbol) : Prop :=
  first.map (·.map List.length) = second.map (·.map List.length)

theorem length_getD {field other : Option (List Symbol)}
    (same : field.map List.length = other.map List.length) :
    (field.getD []).length = (other.getD []).length := by
  cases field <;> cases other <;> simp_all

theorem eq_of_getD {field other : Option (List Symbol)}
    (width : field.map List.length = other.map List.length)
    (same : field.getD [] = other.getD []) : field = other := by
  cases field <;> cases other <;> simp_all

theorem Aligned.eq_of_written {first second : Fields Symbol} (aligned : Aligned first second)
    (same : first.written = second.written) : first = second := by
  induction first generalizing second with
  | nil =>
    cases second with
    | nil => rfl
    | cons other others => cases aligned
  | cons field fields ih =>
    cases second with
    | nil => cases aligned
    | cons other others =>
      obtain ⟨width, widths⟩ := List.cons.inj aligned
      obtain ⟨head, tail⟩ := List.append_inj same (length_getD width)
      rw [eq_of_getD width head, ih widths tail]

theorem Aligned.not_ambiguous {first second : Fields Symbol} (aligned : Aligned first second) :
    ¬ Ambiguous first second := fun ambiguous =>
  ambiguous.1 (aligned.eq_of_written ambiguous.2)

end Fields

end DragonflyClient.Library
