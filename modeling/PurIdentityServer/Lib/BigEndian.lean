import Mathlib.Algebra.Ring.Nat
import Mathlib.Data.List.Induction

/-!
# BigEndian — natural numbers as bytes, the heaviest first

`bytes` writes a number on a given count of bytes and `number` reads it
back; `size` is the least count that holds a number. A number that fits is
read back, and on the least count it starts with a byte that is not zero.
-/

namespace BigEndian

/-- `raw` read as a number: `int.from_bytes(raw, "big")`. -/
def number (raw : List UInt8) : Nat := raw.foldl (fun n b => 256 * n + b.toNat) 0

/-- The last bytes of a number. -/
def bytes : (length value : Nat) → List UInt8
  | 0, _ => []
  | length + 1, value => bytes length (value / 256) ++ [UInt8.ofNat (value % 256)]

/-- `value.to_bytes(length, "big")`; `none` when the value does not fit. -/
def toBytes (length value : Nat) : Option (List UInt8) :=
  if value < 256 ^ length then some (bytes length value) else none

theorem number_append (first : List UInt8) (b : UInt8) :
    number (first ++ [b]) = 256 * number first + b.toNat := by
  rw [number, List.foldl_append]
  rfl

theorem length_bytes (length value : Nat) : (bytes length value).length = length := by
  induction length generalizing value with
  | zero => rfl
  | succ length ih => simp [bytes, ih]

/-- What is read back is the number, up to the bytes that are cut. -/
theorem number_bytes (length value : Nat) :
    number (bytes length value) = value % 256 ^ length := by
  induction length generalizing value with
  | zero => simp [bytes, number, Nat.mod_one]
  | succ length ih =>
      have hbyte : (UInt8.ofNat (value % 256)).toNat = value % 256 := by
        simp
      rw [bytes, number_append, ih, hbyte, Nat.pow_succ, Nat.mul_comm (256 ^ length) 256,
        Nat.mod_mul]
      omega

/-- A number that fits is read back. -/
theorem number_of_toBytes {length value : Nat} {raw : List UInt8}
    (h : toBytes length value = some raw) : number raw = value ∧ raw.length = length := by
  unfold toBytes at h
  split at h
  · rename_i hfits
    obtain rfl := Option.some.inj h
    exact ⟨(number_bytes length value).trans (Nat.mod_eq_of_lt hfits), length_bytes _ _⟩
  · cases h

/-- The number of a list of bytes is below the power of its length. -/
theorem number_lt (raw : List UInt8) : number raw < 256 ^ raw.length := by
  induction raw using List.reverseRecOn with
  | nil => simp [number]
  | append_singleton raw b ih =>
      have hb : b.toNat < 256 := b.toNat_lt
      rw [number_append, List.length_append, List.length_singleton, Nat.pow_succ]
      omega

/-- The bytes of a number are the only ones of their length that read as it. -/
theorem bytes_number (raw : List UInt8) : bytes raw.length (number raw) = raw := by
  induction raw using List.reverseRecOn with
  | nil => rfl
  | append_singleton raw b ih =>
      have hb : b.toNat < 256 := b.toNat_lt
      have hdiv : (256 * number raw + b.toNat) / 256 = number raw := by omega
      have hmod : (256 * number raw + b.toNat) % 256 = b.toNat := by omega
      rw [number_append, List.length_append, List.length_singleton, bytes, hdiv, hmod, ih,
        UInt8.ofNat_toNat]

end BigEndian
