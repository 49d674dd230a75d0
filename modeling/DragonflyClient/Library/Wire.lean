import Mathlib.Tactic.Ring

/-!
Byte formats: big-endian words, readers, and what a reader accepts.

`Reads` says that a reader accepts exactly the words a writer gives for the
values it considers valid.  Both directions of a round trip follow from it, and
so does the failure on truncated words.
-/

namespace DragonflyClient.Library

open List

/-- The `width` low bytes of a number, most significant first. -/
def toBeBytes : Nat → Nat → List UInt8
  | 0, _ => []
  | width + 1, value => UInt8.ofNat (value / 256 ^ width) :: toBeBytes width value

def ofBeBytes : List UInt8 → Nat
  | [] => 0
  | byte :: rest => byte.toNat * 256 ^ rest.length + ofBeBytes rest

@[simp]
theorem length_toBeBytes (width value : Nat) : (toBeBytes width value).length = width := by
  induction width with
  | zero => rfl
  | succ width ih => simp [toBeBytes, ih]

theorem ofBeBytes_toBeBytes_mod (width value : Nat) :
    ofBeBytes (toBeBytes width value) = value % 256 ^ width := by
  induction width with
  | zero => simp [toBeBytes, ofBeBytes, Nat.mod_one]
  | succ width ih =>
    rw [toBeBytes, ofBeBytes, ih, length_toBeBytes, UInt8.toNat_ofNat',
      Nat.mod_pow_succ (b := 256), Nat.add_comm, Nat.mul_comm]

theorem ofBeBytes_toBeBytes {width value} (fits : value < 256 ^ width) :
    ofBeBytes (toBeBytes width value) = value := by
  rw [ofBeBytes_toBeBytes_mod, Nat.mod_eq_of_lt fits]

theorem ofBeBytes_lt (bytes : List UInt8) : ofBeBytes bytes < 256 ^ bytes.length := by
  induction bytes with
  | nil => simp [ofBeBytes]
  | cons byte rest ih =>
    have small := byte.toNat_lt
    calc ofBeBytes (byte :: rest)
        < byte.toNat * 256 ^ rest.length + 256 ^ rest.length := by
          rw [ofBeBytes]
          omega
      _ = (byte.toNat + 1) * 256 ^ rest.length := by ring
      _ ≤ 256 * 256 ^ rest.length := Nat.mul_le_mul_right _ (by omega)
      _ = 256 ^ (byte :: rest).length := by rw [length_cons, pow_succ']

theorem toBeBytes_add_mul (width high low : Nat) :
    ∀ larger, width ≤ larger →
      toBeBytes width (high * 256 ^ larger + low) = toBeBytes width low := by
  induction width with
  | zero => exact fun _ _ => rfl
  | succ width ih =>
    intro larger fits
    obtain ⟨extra, rfl⟩ := Nat.exists_eq_add_of_le fits
    have digit : (high * 256 ^ (width + 1 + extra) + low) / 256 ^ width =
        low / 256 ^ width + 256 * (high * 256 ^ extra) := by
      rw [show high * 256 ^ (width + 1 + extra) + low =
        low + 256 ^ width * (256 * (high * 256 ^ extra)) by ring,
        Nat.add_mul_div_left _ _ (Nat.pow_pos (by decide))]
    rw [toBeBytes, toBeBytes, ih _ (by omega), digit]
    congr 1
    apply UInt8.toNat_inj.mp
    simp [UInt8.toNat_ofNat']

theorem toBeBytes_ofBeBytes (bytes : List UInt8) :
    toBeBytes bytes.length (ofBeBytes bytes) = bytes := by
  induction bytes with
  | nil => rfl
  | cons byte rest ih =>
    have below := ofBeBytes_lt rest
    have digit : (byte.toNat * 256 ^ rest.length + ofBeBytes rest) / 256 ^ rest.length =
        byte.toNat := by
      rw [Nat.add_comm, Nat.add_mul_div_right _ _ (Nat.pow_pos (by decide)), Nat.div_eq_of_lt below,
        Nat.zero_add]
    rw [length_cons, ofBeBytes, toBeBytes, digit, toBeBytes_add_mul _ _ _ _ le_rfl, ih]
    simp

theorem toBeBytes_cancel {width value other rest left} (fits : value < 256 ^ width)
    (fits' : other < 256 ^ width)
    (same : toBeBytes width value ++ rest = toBeBytes width other ++ left) :
    value = other ∧ rest = left := by
  obtain ⟨words, rfl⟩ := append_inj same (by simp)
  have values := congrArg ofBeBytes words
  rw [ofBeBytes_toBeBytes fits, ofBeBytes_toBeBytes fits'] at values
  exact ⟨values, rfl⟩

theorem exists_error_of_ne_ok {Failure Value : Type} {result : Except Failure Value}
    (fails : ∀ value, result ≠ .ok value) : ∃ failure, result = .error failure := by
  cases result with
  | ok value => exact absurd rfl (fails value)
  | error failure => exact ⟨failure, rfl⟩

/-- A reader consumes a beginning of its input, or fails. -/
abbrev Reader (Failure : Type) := StateT (List UInt8) (Except Failure)

namespace Reader

variable {Failure Value Raw : Type}

def take (failure : Failure) (count : Nat) : Reader Failure (List UInt8) := fun bytes =>
  if bytes.length < count then .error failure else .ok (bytes.take count, bytes.drop count)

def many (reader : Reader Failure Value) : Nat → Reader Failure (List Value)
  | 0 => pure []
  | count + 1 => do
      let first ← reader
      let rest ← many reader count
      return first :: rest

variable {bytes rest : List UInt8} {value : Value}

theorem bind_eq_ok {first} {next : Raw → Reader Failure Value} :
    (first >>= next).run bytes = .ok (value, rest) ↔
      ∃ raw middle, first.run bytes = .ok (raw, middle) ∧
        (next raw).run middle = .ok (value, rest) := by
  rw [StateT.run_bind]
  cases first.run bytes with
  | error failure => simp [bind, Except.bind]
  | ok outcome =>
    obtain ⟨raw, middle⟩ := outcome
    simp [bind, Except.bind]

theorem pure_eq_ok {result} :
    (pure result : Reader Failure Value).run bytes = .ok (value, rest) ↔
      result = value ∧ bytes = rest := by
  rw [StateT.run_pure]
  simp [pure, Except.pure]

theorem throw_ne_ok {failure outcome} :
    (throw failure : Reader Failure Value).run bytes ≠ .ok outcome := by
  intro impossible
  cases impossible

theorem map_eq_ok {reader : Reader Failure Raw} {image} :
    (image <$> reader).run bytes = .ok (value, rest) ↔
      ∃ raw, reader.run bytes = .ok (raw, rest) ∧ image raw = value := by
  rw [StateT.run_map]
  cases reader.run bytes with
  | error failure => simp [Functor.map, Except.map]
  | ok outcome =>
    obtain ⟨raw, middle⟩ := outcome
    simp only [Functor.map, Except.map, Except.ok.injEq, Prod.mk.injEq]
    constructor
    · rintro ⟨same, rfl⟩
      exact ⟨raw, ⟨rfl, rfl⟩, same⟩
    · rintro ⟨other, ⟨rfl, rfl⟩, same⟩
      exact ⟨same, rfl⟩

end Reader

/-- The reader accepts exactly the words that `write` gives for valid values,
whatever comes behind them. -/
def Reads {Failure Value : Type} (reader : Reader Failure Value) (valid : Value → Prop)
    (write : Value → List UInt8) : Prop :=
  ∀ bytes value rest, reader.run bytes = .ok (value, rest) ↔
    valid value ∧ bytes = write value ++ rest

namespace Reads

variable {Failure Value Raw : Type} {reader : Reader Failure Value} {valid : Value → Prop}
  {write : Value → List UInt8}

theorem take (failure : Failure) (count : Nat) :
    Reads (Reader.take failure count) (fun bytes => bytes.length = count) id := by
  intro bytes value rest
  simp only [Reader.take, StateT.run, id]
  split
  next short =>
    simp only [reduceCtorEq, false_iff, not_and]
    rintro rfl rfl
    simp at short
  next enough =>
    constructor
    · rintro ⟨rfl, rfl⟩
      exact ⟨by simp; omega, (take_append_drop ..).symm⟩
    · rintro ⟨rfl, rfl⟩
      simp

theorem map {reader : Reader Failure Raw} {accepted write} (reads : Reads reader accepted write)
    {image} (raw : Value → Raw)
    (undone : ∀ item, accepted item → valid (image item) ∧ raw (image item) = item)
    (valued : ∀ value, valid value → accepted (raw value) ∧ image (raw value) = value) :
    Reads (image <$> reader) valid (fun value => write (raw value)) := by
  intro bytes value rest
  rw [Reader.map_eq_ok]
  constructor
  · rintro ⟨item, read, rfl⟩
    obtain ⟨held, rfl⟩ := (reads _ _ _).mp read
    obtain ⟨holds, same⟩ := undone item held
    exact ⟨holds, by simp only [same]⟩
  · rintro ⟨holds, rfl⟩
    obtain ⟨held, same⟩ := valued value holds
    exact ⟨raw value, (reads _ _ _).mpr ⟨held, rfl⟩, same⟩

theorem bind_eq_ok {first} {accepted : Raw → Prop} {write} (reads : Reads first accepted write)
    {next : Raw → Reader Failure Value} {bytes rest value} :
    (first >>= next).run bytes = .ok (value, rest) ↔
      ∃ raw middle, accepted raw ∧ bytes = write raw ++ middle ∧
        (next raw).run middle = .ok (value, rest) := by
  simp only [Reader.bind_eq_ok, reads _ _ _, and_assoc]

theorem read_write (reads : Reads reader valid write) {value} (holds : valid value)
    (rest : List UInt8) : reader.run (write value ++ rest) = .ok (value, rest) :=
  (reads _ _ _).mpr ⟨holds, rfl⟩

theorem many (reads : Reads reader valid write) (count : Nat) :
    Reads (reader.many count) (fun values => values.length = count ∧ ∀ value ∈ values, valid value)
      (fun values => values.flatMap write) := by
  induction count with
  | zero =>
    intro bytes values rest
    simp only [Reader.many, Reader.pure_eq_ok, length_eq_zero_iff]
    constructor
    · rintro ⟨rfl, rfl⟩
      simp
    · rintro ⟨⟨rfl, -⟩, rfl⟩
      simp
  | succ count ih =>
    intro bytes values rest
    simp only [Reader.many, Reader.bind_eq_ok, Reader.pure_eq_ok]
    constructor
    · rintro ⟨first, middle, readFirst, others, final, readRest, rfl, rfl⟩
      obtain ⟨holds, rfl⟩ := (reads _ _ _).mp readFirst
      obtain ⟨⟨length, all⟩, rfl⟩ := (ih _ _ _).mp readRest
      refine ⟨⟨by rw [length_cons, length], ?_⟩, by simp⟩
      intro value member
      rcases mem_cons.mp member with rfl | later
      · exact holds
      · exact all value later
    · rintro ⟨⟨length, all⟩, rfl⟩
      cases values with
      | nil => simp at length
      | cons first others =>
        refine ⟨first, others.flatMap write ++ rest,
          (reads _ _ _).mpr ⟨all first mem_cons_self, by simp⟩, others, rest,
          (ih _ _ _).mpr ⟨⟨by simpa using length, ?_⟩, rfl⟩, rfl, rfl⟩
        exact fun value later => all value (mem_cons_of_mem _ later)

end Reads

end DragonflyClient.Library
