import Mathlib.Data.List.Basic

/-!
# Pkcs7 — padding to whole blocks

`pad` completes the data to a multiple of the block size with bytes that
each say how many were added; at least one is, so the last byte always
tells where the data ends. `unpad` refuses data that is no whole number of
blocks or whose last bytes do not agree.
-/

namespace Pkcs7

/-- How many bytes complete the last block, never none. -/
def missing (block length : Nat) : Nat := block - length % block

def pad (block : Nat) (data : List UInt8) : List UInt8 :=
  data ++ List.replicate (missing block data.length) (UInt8.ofNat (missing block data.length))

/-- The data before the padding, `none` on a padding that is not one. -/
def unpad (block : Nat) (padded : List UInt8) : Option (List UInt8) :=
  match padded.getLast? with
  | none => none
  | some last =>
      let count := last.toNat
      if padded.length % block = 0 ∧ 1 ≤ count ∧ count ≤ block ∧
          padded.drop (padded.length - count) = List.replicate count last then
        some (padded.take (padded.length - count))
      else none

section
variable {block : Nat}

theorem missing_pos (h : 0 < block) (length : Nat) : 0 < missing block length := by
  have hlt := Nat.mod_lt length h
  unfold missing
  omega

theorem missing_le (block length : Nat) : missing block length ≤ block := Nat.sub_le _ _

theorem length_pad (data : List UInt8) :
    (pad block data).length = data.length + missing block data.length := by
  simp [pad]

/-- The padded data is a whole number of blocks. -/
theorem dvd_length_pad (h : 0 < block) (data : List UInt8) :
    (pad block data).length % block = 0 := by
  have hlt := Nat.mod_lt data.length h
  have hsplit := Nat.div_add_mod data.length block
  have hlength : (pad block data).length = block * (data.length / block + 1) := by
    rw [length_pad, missing, Nat.mul_succ]
    omega
  rw [hlength]
  exact Nat.mul_mod_right _ _

theorem getLast?_pad (h : 0 < block) (data : List UInt8) :
    (pad block data).getLast? = some (UInt8.ofNat (missing block data.length)) := by
  have hne : missing block data.length ≠ 0 := Nat.ne_of_gt (missing_pos h _)
  rw [pad, List.getLast?_append]
  simp [List.getLast?_replicate, hne]

theorem unpad_pad (h : 0 < block) (hsmall : block < 256) (data : List UInt8) :
    unpad block (pad block data) = some data := by
  have hpos := missing_pos h data.length
  have hle := missing_le block data.length
  have hcount : (UInt8.ofNat (missing block data.length)).toNat = missing block data.length :=
    UInt8.toNat_ofNat_of_lt' (show _ < 256 by omega)
  have hkept : (pad block data).length - missing block data.length = data.length := by
    rw [length_pad]
    omega
  unfold unpad
  rw [getLast?_pad h]
  dsimp only
  rw [hcount, hkept, if_pos]
  · simp [pad]
  · refine ⟨dvd_length_pad h data, hpos, hle, ?_⟩
    simp [pad]

end

end Pkcs7
