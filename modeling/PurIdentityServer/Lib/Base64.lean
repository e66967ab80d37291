import Mathlib.Data.List.DropRight

/-!
# Base64 — the URL-safe alphabet, with the tolerant decoder

`urlsafeB64encode` writes bytes in groups of three over the URL-safe
alphabet and pads the last group with `=`. `urlsafeB64decode` reads them
back the way `binascii.a2b_base64` does when it is not strict: one
sextet after the other, whatever lies outside the alphabet skipped, a
pad that closes a group ending the text.

The round trip is the one callers rely on: the padding may be dropped
before the text is stored, and `===` appended before it is read.
-/

namespace Base64

def alphabet : List Char :=
  "ABCDEFGHIJKLMNOPQRSTUVWXYZabcdefghijklmnopqrstuvwxyz0123456789-_".toList

/-- The character of a sextet. -/
def digit (v : Nat) : Char := alphabet.getD (v % 64) 'A'

/-- The sextet of a character; `+` and `/` of the plain alphabet read as
`-` and `_` do. -/
def value? (c : Char) : Option Nat :=
  if c = '+' then some 62
  else if c = '/' then some 63
  else alphabet.idxOf? c

/-- The characters of a byte string, without padding. -/
def encode : List UInt8 → List Char
  | [] => []
  | [a] => [digit (a.toNat / 4), digit (a.toNat % 4 * 16)]
  | [a, b] =>
      [digit (a.toNat / 4), digit (a.toNat % 4 * 16 + b.toNat / 16), digit (b.toNat % 16 * 4)]
  | a :: b :: c :: rest =>
      digit (a.toNat / 4) :: digit (a.toNat % 4 * 16 + b.toNat / 16) ::
        digit (b.toNat % 16 * 4 + c.toNat / 64) :: digit (c.toNat % 64) :: encode rest

/-- The padding of the last group. -/
def padding (bytes : List UInt8) : List Char :=
  match bytes.length % 3 with
  | 1 => ['=', '=']
  | 2 => ['=']
  | _ => []

/-- `base64.urlsafe_b64encode(bytes)`. -/
def urlsafeB64encode (bytes : List UInt8) : List Char := encode bytes ++ padding bytes

/-- `text.rstrip(b"=")`. -/
def rstripPad (text : List Char) : List Char := text.rdropWhile fun c => c = '='

/-- The loop of `binascii.a2b_base64`: the position in the group, the bits
left over from the last sextet and the pads seen since. -/
def scan : List Char → (quadPos left pads : Nat) → Option (List UInt8)
  | [], quadPos, _, _ => if quadPos = 0 then some [] else none
  | c :: rest, quadPos, left, pads =>
      if c = '=' then
        if 2 ≤ quadPos then
          -- a pad that fills the group: what follows is not read
          if 4 ≤ quadPos + (pads + 1) then some [] else scan rest quadPos left (pads + 1)
        else scan rest quadPos left pads
      else
        match value? c with
        | none => scan rest quadPos left pads
        | some v =>
            match quadPos with
            | 0 => scan rest 1 v 0
            | 1 => (scan rest 2 (v % 16) 0).map (UInt8.ofNat (left * 4 + v / 16) :: ·)
            | 2 => (scan rest 3 (v % 4) 0).map (UInt8.ofNat (left * 16 + v / 4) :: ·)
            | _ => (scan rest 0 0 0).map (UInt8.ofNat (left * 64 + v) :: ·)

/-- `base64.urlsafe_b64decode(text)`, `none` when it raises `ValueError`. -/
def urlsafeB64decode (text : List Char) : Option (List UInt8) :=
  if text.all fun c => c.toNat < 128 then scan text 0 0 0 else none

/-! ## The alphabet -/

theorem value?_digit (v : Nat) : value? (digit v) = some (v % 64) := by
  have h : ∀ i : Fin 64, value? (digit i) = some i.val := by decide +kernel
  have hv := h ⟨v % 64, Nat.mod_lt _ (by omega)⟩
  simpa [digit] using hv

theorem digit_mem (v : Nat) : digit v ∈ alphabet := by
  have hlength : v % 64 < alphabet.length := Nat.mod_lt _ (by decide)
  rw [digit, List.getD_eq_getElem?_getD, List.getElem?_eq_getElem hlength, Option.getD_some]
  exact List.getElem_mem hlength

theorem mem_encode {bytes : List UInt8} {c : Char} (h : c ∈ encode bytes) : c ∈ alphabet := by
  induction bytes using encode.induct with
  | case1 => simp [encode] at h
  | case2 a =>
      simp only [encode, List.mem_cons, List.not_mem_nil, or_false] at h
      rcases h with rfl | rfl <;> exact digit_mem _
  | case3 a b =>
      simp only [encode, List.mem_cons, List.not_mem_nil, or_false] at h
      rcases h with rfl | rfl | rfl <;> exact digit_mem _
  | case4 a b d rest ih =>
      simp only [encode, List.mem_cons] at h
      rcases h with rfl | rfl | rfl | rfl | h
      · exact digit_mem _
      · exact digit_mem _
      · exact digit_mem _
      · exact digit_mem _
      · exact ih h

theorem ne_pad_of_mem {c : Char} (h : c ∈ alphabet) : c ≠ '=' := by
  rintro rfl
  revert h
  decide

theorem ascii_of_mem {c : Char} (h : c ∈ alphabet) : c.toNat < 128 := by
  have hall : alphabet.all (fun d => d.toNat < 128) = true := by decide
  simpa using List.all_eq_true.mp hall c h

/-- Only the padding goes when the pads are stripped. -/
theorem rstripPad_encode (bytes : List UInt8) :
    rstripPad (urlsafeB64encode bytes) = encode bytes := by
  have hpad : ∀ l : List Char, (∀ c ∈ l, c = '=') →
      rstripPad (encode bytes ++ l) = rstripPad (encode bytes) := by
    intro l hl
    induction l using List.reverseRecOn with
    | nil => rw [List.append_nil]
    | append_singleton l c ih =>
        have hc := hl c (by simp)
        rw [rstripPad, ← List.append_assoc, List.rdropWhile_concat_pos _ _ _ (by simp [hc])]
        exact ih fun d hd => hl d (by simp [hd])
  have hkeep : rstripPad (encode bytes) = encode bytes := by
    rw [rstripPad, List.rdropWhile_eq_self_iff]
    intro hne
    have hlast := ne_pad_of_mem (mem_encode (List.getLast_mem hne))
    simp [hlast]
  rw [urlsafeB64encode, hpad, hkeep]
  intro c hc
  unfold padding at hc
  split at hc <;> simp_all

/-! ## The round trip -/

private theorem scan_digit (v : Nat) (rest : List Char) (quadPos left pads : Nat) :
    scan (digit v :: rest) quadPos left pads =
      match quadPos with
      | 0 => scan rest 1 (v % 64) 0
      | 1 => (scan rest 2 (v % 64 % 16) 0).map (UInt8.ofNat (left * 4 + v % 64 / 16) :: ·)
      | 2 => (scan rest 3 (v % 64 % 4) 0).map (UInt8.ofNat (left * 16 + v % 64 / 4) :: ·)
      | _ => (scan rest 0 0 0).map (UInt8.ofNat (left * 64 + v % 64) :: ·) := by
  rw [scan, if_neg (ne_pad_of_mem (digit_mem v)), value?_digit]

private theorem ofNat_eq {a : UInt8} {n : Nat} (h : n = a.toNat) : UInt8.ofNat n = a := by
  rw [h, UInt8.ofNat_toNat]

/-- Pads between two groups are skipped. -/
private theorem scan_pads (count left pads : Nat) :
    scan (List.replicate count '=') 0 left pads = some [] := by
  induction count with
  | zero => rfl
  | succ count ih => simpa [List.replicate_succ, scan] using ih

private theorem first_byte (a : UInt8) (low : Nat) (h : low < 16) :
    UInt8.ofNat (a.toNat / 4 % 64 * 4 + (a.toNat % 4 * 16 + low) % 64 / 16) = a := by
  have ha := a.toNat_lt
  exact ofNat_eq (by omega)

private theorem second_byte (a b : UInt8) (low : Nat) (h : low < 4) :
    UInt8.ofNat ((a.toNat % 4 * 16 + b.toNat / 16) % 64 % 16 * 16 +
      (b.toNat % 16 * 4 + low) % 64 / 4) = b := by
  have hb := b.toNat_lt
  exact ofNat_eq (by omega)

private theorem third_byte (b c : UInt8) :
    UInt8.ofNat ((b.toNat % 16 * 4 + c.toNat / 64) % 64 % 4 * 64 + c.toNat % 64 % 64) = c := by
  have hc := c.toNat_lt
  exact ofNat_eq (by omega)

/-- Reading back what was written, with at least the pads of its last group after it. -/
theorem scan_encode {bytes : List UInt8} {count : Nat} (h : (padding bytes).length ≤ count)
    (pads : Nat) : scan (encode bytes ++ List.replicate count '=') 0 0 pads = some bytes := by
  induction bytes using encode.induct generalizing pads with
  | case1 => exact scan_pads count 0 pads
  | case2 a =>
      obtain ⟨more, rfl⟩ : ∃ more, count = more + 2 := ⟨count - 2, by simp [padding] at h; omega⟩
      have h1 := first_byte a 0 (by omega)
      rw [Nat.add_zero] at h1
      simp only [encode, List.cons_append, List.nil_append, scan_digit, h1]
      simp [scan, List.replicate_succ]
  | case3 a b =>
      obtain ⟨more, rfl⟩ : ∃ more, count = more + 1 := ⟨count - 1, by simp [padding] at h; omega⟩
      have hb := b.toNat_lt
      have h1 := first_byte a (b.toNat / 16) (by omega)
      have h2 := second_byte a b 0 (by omega)
      rw [Nat.add_zero] at h2
      simp only [encode, List.cons_append, List.nil_append, scan_digit, h1, h2]
      simp [scan, List.replicate_succ]
  | case4 a b c rest ih =>
      have hb := b.toNat_lt
      have hc := c.toNat_lt
      have h1 := first_byte a (b.toNat / 16) (by omega)
      have h2 := second_byte a b (c.toNat / 64) (by omega)
      have hrest : (padding rest).length ≤ count := by
        have hlength : (rest.length + 1 + 1 + 1) % 3 = rest.length % 3 := by omega
        simpa [padding, hlength] using h
      simp only [encode, List.cons_append, scan_digit, h1, h2, third_byte]
      rw [ih hrest 0]
      rfl

theorem length_padding_le (bytes : List UInt8) : (padding bytes).length ≤ 3 := by
  unfold padding
  split <;> simp

/-- Reading back a text without its padding, enough pads after it. -/
theorem decode_encode_of_le {bytes : List UInt8} {count : Nat}
    (h : (padding bytes).length ≤ count) :
    urlsafeB64decode (encode bytes ++ List.replicate count '=') = some bytes := by
  rw [urlsafeB64decode, if_pos, scan_encode h]
  rw [List.all_eq_true]
  intro c hc
  rcases List.mem_append.mp hc with hc | hc
  · simpa using ascii_of_mem (mem_encode hc)
  · rw [(List.mem_replicate.mp hc).2]
    decide

/-- What was stored without padding is read back whole. -/
theorem decode_encode (bytes : List UInt8) :
    urlsafeB64decode (rstripPad (urlsafeB64encode bytes) ++ ['=', '=', '=']) = some bytes := by
  rw [rstripPad_encode]
  exact decode_encode_of_le (length_padding_le bytes)

/-- The pads that complete a text to groups of four. -/
def groupPads (length : Nat) : List Char := List.replicate ((4 - length % 4) % 4) '='

theorem length_groupPads_encode (bytes : List UInt8) :
    (padding bytes).length = (4 - (encode bytes).length % 4) % 4 := by
  induction bytes using encode.induct with
  | case1 => simp [encode, padding]
  | case2 a => simp [encode, padding]
  | case3 a b => simp [encode, padding]
  | case4 a b c rest ih =>
      have hlength : (rest.length + 1 + 1 + 1) % 3 = rest.length % 3 := by omega
      have hencode : ((encode rest).length + 1 + 1 + 1 + 1) % 4 = (encode rest).length % 4 := by
        omega
      simpa [encode, padding, hlength, hencode] using ih

/-- What was written without padding is read back once its groups are completed. -/
theorem decode_encode_groupPads (bytes : List UInt8) :
    urlsafeB64decode (encode bytes ++ groupPads (encode bytes).length) = some bytes :=
  decode_encode_of_le (length_groupPads_encode bytes).le

end Base64
