import Mathlib.Data.Char

/-!
Percent-encoded text and lossy UTF-8 decoding: what the `percent-encoding` crate and
`String::from_utf8_lossy` are documented to do.
-/

namespace DragonflyClient.Library

def hexValue (byte : UInt8) : Option UInt8 :=
  if 0x30 ≤ byte ∧ byte ≤ 0x39 then some (byte - 0x30)
  else if 0x41 ≤ byte ∧ byte ≤ 0x46 then some (byte - 0x37)
  else if 0x61 ≤ byte ∧ byte ≤ 0x66 then some (byte - 0x57)
  else none

/-- A percent sign that two hexadecimal digits do not follow stands for itself. -/
def percentDecode : List UInt8 → List UInt8
  | [] => []
  | 0x25 :: high :: low :: rest =>
    match hexValue high, hexValue low with
    | some high, some low => (high * 16 + low) :: percentDecode rest
    | _, _ => 0x25 :: percentDecode (high :: low :: rest)
  | byte :: rest => byte :: percentDecode rest

/-- A character of which some bytes were read: its code so far, the bytes it still needs,
and the range of the next one. -/
structure PartialChar where
  code : Nat
  needed : Nat
  lower : UInt8
  upper : UInt8

/-- U+FFFD. -/
def replacement : Char := Char.ofNat 0xFFFD

/-- A byte at the start of a character: a whole character, the first byte of one, or
neither. -/
def leadByte (byte : UInt8) : List Char × Option PartialChar :=
  if byte < 0x80 then ([Char.ofNat byte.toNat], none)
  else if 0xC2 ≤ byte ∧ byte ≤ 0xDF then
    ([], some { code := byte.toNat - 0xC0, needed := 1, lower := 0x80, upper := 0xBF })
  else if 0xE0 ≤ byte ∧ byte ≤ 0xEF then
    -- No overlong form and no surrogate.
    ([], some
      { code := byte.toNat - 0xE0
        needed := 2
        lower := if byte = 0xE0 then 0xA0 else 0x80
        upper := if byte = 0xED then 0x9F else 0xBF })
  else if 0xF0 ≤ byte ∧ byte ≤ 0xF4 then
    ([], some
      { code := byte.toNat - 0xF0
        needed := 3
        lower := if byte = 0xF0 then 0x90 else 0x80
        upper := if byte = 0xF4 then 0x8F else 0xBF })
  else ([replacement], none)

/-- Each longest piece that starts no character is replaced once. -/
def decodeUtf8LossyFrom : Option PartialChar → List UInt8 → List Char
  | none, [] => []
  | some _, [] => [replacement]
  | none, byte :: rest => (leadByte byte).1 ++ decodeUtf8LossyFrom (leadByte byte).2 rest
  | some current, byte :: rest =>
    if current.lower ≤ byte ∧ byte ≤ current.upper then
      let code := current.code * 64 + (byte.toNat - 0x80)
      if current.needed = 1 then Char.ofNat code :: decodeUtf8LossyFrom none rest
      else
        decodeUtf8LossyFrom
          (some { code, needed := current.needed - 1, lower := 0x80, upper := 0xBF }) rest
    else
      replacement :: (leadByte byte).1 ++ decodeUtf8LossyFrom (leadByte byte).2 rest

def decodeUtf8Lossy (bytes : List UInt8) : List Char := decodeUtf8LossyFrom none bytes

section Lengths

/-- The bytes that a partial character still needs. -/
def Completes (current : PartialChar) : List UInt8 → Prop
  | [] => False
  | byte :: more => (current.lower ≤ byte ∧ byte ≤ current.upper) ∧
      current.needed = more.length + 1 ∧ ∀ next ∈ more, 0x80 ≤ next ∧ next ≤ 0xBF

/-- An encoded character is one byte, or a first byte and those that complete it. -/
theorem utf8EncodeChar_lead (char : Char) :
    ∃ byte bytes, String.utf8EncodeChar char = byte :: bytes ∧ ¬(0x80 ≤ byte ∧ byte ≤ 0xBF) ∧
      (bytes = [] ∧ (∃ decoded, leadByte byte = ([decoded], none)) ∨
        ∃ current, leadByte byte = ([], some current) ∧ Completes current bytes) := by
  have scalar : char.val.toNat < 0xD800 ∨ 0xDFFF < char.val.toNat ∧ char.val.toNat < 0x110000 :=
    char.valid
  unfold String.utf8EncodeChar
  dsimp only
  generalize char.val.toNat = value at scalar
  -- The ranges of the first byte, and of the second where the first is the least or greatest.
  split
  · refine ⟨_, _, rfl, ?_, .inl ⟨rfl, _, if_pos ?_⟩⟩ <;>
      simp [UInt8.le_iff_toNat_le, UInt8.lt_iff_toNat_lt] <;> omega
  split
  · refine ⟨_, _, rfl, ?_, .inr ⟨_, (if_neg ?_).trans (if_pos ?_), ?_⟩⟩ <;>
      simp [UInt8.le_iff_toNat_le, UInt8.lt_iff_toNat_lt, Completes] <;> omega
  split
  · refine ⟨_, _, rfl, ?_, .inr ⟨_, (if_neg ?_).trans ((if_neg ?_).trans (if_pos ?_)),
      ?_, rfl, ?_⟩⟩
    case refine_5 =>
      dsimp only
      split <;> split <;> simp_all [UInt8.le_iff_toNat_le, ← UInt8.toNat_inj] <;> omega
    all_goals
      simp [UInt8.le_iff_toNat_le, UInt8.lt_iff_toNat_lt]
      omega
  · refine ⟨_, _, rfl, ?_, .inr ⟨_,
      (if_neg ?_).trans ((if_neg ?_).trans ((if_neg ?_).trans (if_pos ?_))), ?_, rfl, ?_⟩⟩
    case refine_6 =>
      dsimp only
      split <;> split <;> simp_all [UInt8.le_iff_toNat_le, ← UInt8.toNat_inj] <;> omega
    all_goals
      simp [UInt8.le_iff_toNat_le, UInt8.lt_iff_toNat_lt]
      omega

/-- A partial character waits for a byte that starts none. -/
def Waiting (state : Option PartialChar) : Prop :=
  ∀ current, state = some current → 0x80 ≤ current.lower ∧ current.upper ≤ 0xBF

theorem Waiting.none : Waiting none := fun _ same => nomatch same

theorem Waiting.some {current} (lower : 0x80 ≤ current.lower) (upper : current.upper ≤ 0xBF) :
    Waiting (some current) := by
  rintro _ ⟨⟩
  exact ⟨lower, upper⟩

/-- What is left of the text makes one character of a partial one. -/
def pending (state : Option PartialChar) : Nat := if state.isSome then 1 else 0

variable {state : Option PartialChar} {rest : List UInt8}

theorem length_decode_completes {current bytes} (completes : Completes current bytes) :
    (decodeUtf8LossyFrom (some current) (bytes ++ rest)).length =
      (decodeUtf8LossyFrom none rest).length + 1 := by
  induction bytes generalizing current with
  | nil => exact completes.elim
  | cons byte more ih =>
    obtain ⟨inside, needed, others⟩ := completes
    rw [List.cons_append, decodeUtf8LossyFrom, if_pos inside]
    cases more with
    | nil => simp [needed]
    | cons next more =>
      rw [if_neg (by simp [needed])]
      exact ih ⟨others next List.mem_cons_self, by simp [needed],
        fun other listed => others other (List.mem_cons_of_mem _ listed)⟩

theorem length_decode_outside {byte} (waiting : Waiting state)
    (outside : ¬(0x80 ≤ byte ∧ byte ≤ 0xBF)) :
    (decodeUtf8LossyFrom state (byte :: rest)).length =
      pending state + (decodeUtf8LossyFrom none (byte :: rest)).length := by
  cases state with
  | none => simp [pending]
  | some current =>
    obtain ⟨lower, upper⟩ := waiting current rfl
    have apart : ¬(current.lower ≤ byte ∧ byte ≤ current.upper) := fun inside =>
      outside ⟨UInt8.le_trans lower inside.1, UInt8.le_trans inside.2 upper⟩
    simp only [decodeUtf8LossyFrom, if_neg apart, pending, Option.isSome_some, if_true,
      List.cons_append, List.length_cons]
    exact Nat.add_comm _ _

theorem length_decode_char (waiting : Waiting state) (char : Char) :
    (decodeUtf8LossyFrom state (String.utf8EncodeChar char ++ rest)).length =
      pending state + ((decodeUtf8LossyFrom none rest).length + 1) := by
  obtain ⟨byte, bytes, encoded, outside, whole⟩ := utf8EncodeChar_lead char
  rw [encoded, List.cons_append, length_decode_outside waiting outside, decodeUtf8LossyFrom]
  rcases whole with ⟨rfl, decoded, lead⟩ | ⟨current, lead, completes⟩
  · simp [lead, Nat.add_comm]
  · simp [lead, length_decode_completes completes]

theorem leadByte_cases (byte : UInt8) :
    (∃ char, leadByte byte = ([char], none)) ∨
      ∃ current, leadByte byte = ([], some current) ∧ Waiting (some current) := by
  unfold leadByte
  split
  · exact .inl ⟨_, rfl⟩
  split
  · exact .inr ⟨_, rfl, .some (UInt8.le_refl 0x80) (UInt8.le_refl 0xBF)⟩
  split
  · refine .inr ⟨_, rfl, .some ?_ ?_⟩ <;> dsimp only <;> split <;> decide
  split
  · refine .inr ⟨_, rfl, .some ?_ ?_⟩ <;> dsimp only <;> split <;> decide
  · exact .inl ⟨_, rfl⟩

/-- A byte ends a partial character or goes on with it, and gives at most one more. -/
theorem length_decode_byte (state : Option PartialChar) (byte : UInt8) :
    ∃ next, Waiting next ∧ ∀ rest,
      (decodeUtf8LossyFrom state (byte :: rest)).length + pending next ≤
      pending state + 1 + (decodeUtf8LossyFrom next rest).length := by
  have fresh : ∃ next, Waiting next ∧ ∀ rest,
      (decodeUtf8LossyFrom none (byte :: rest)).length + pending next ≤
        1 + (decodeUtf8LossyFrom next rest).length := by
    rcases leadByte_cases byte with ⟨char, lead⟩ | ⟨current, lead, waiting⟩
    · refine ⟨none, Waiting.none, fun rest => ?_⟩
      simp [decodeUtf8LossyFrom, lead, pending, Nat.add_comm]
    · refine ⟨some current, waiting, fun rest => ?_⟩
      simp [decodeUtf8LossyFrom, lead, pending, Nat.add_comm]
  cases state with
  | none => simpa [pending] using fresh
  | some current =>
    by_cases inside : current.lower ≤ byte ∧ byte ≤ current.upper
    · by_cases last : current.needed = 1
      · refine ⟨none, Waiting.none, fun rest => ?_⟩
        rw [decodeUtf8LossyFrom, if_pos inside, if_pos last]
        simp only [pending, Option.isSome, reduceIte, Bool.false_eq_true, List.length_cons]
        omega
      · let next : PartialChar :=
          ⟨current.code * 64 + (byte.toNat - 0x80), current.needed - 1, 0x80, 0xBF⟩
        refine ⟨some next, ?_, fun rest => ?_⟩
        · exact .some (UInt8.le_refl 0x80) (UInt8.le_refl 0xBF)
        · rw [decodeUtf8LossyFrom, if_pos inside, if_neg last]
          simp only [pending, Option.isSome_some, if_true, next]
          omega
    · obtain ⟨next, waiting, bound⟩ := fresh
      refine ⟨next, waiting, fun rest => ?_⟩
      have left := bound rest
      simp only [decodeUtf8LossyFrom, if_neg inside, List.cons_append, List.length_cons, pending,
        Option.isSome_some, if_true] at left ⊢
      omega

end Lengths

end DragonflyClient.Library
