import Mathlib.Data.List.Basic
import Mathlib.Data.List.TakeWhile

/-!
# FormUrl — form-urlencoded parameters in a URL

A URL is a list of characters: a path, a query after the first `?` and a
fragment after the first `#`. `parse` reads a query or a fragment as
`application/x-www-form-urlencoded`: pieces between `&`, a name before the
first `=`, `+` for a space and `%XX` for a byte. `quote` is the percent
encoding of `urllib.parse.quote`.

`parse_fields` says when parameters written one after the other, some of
them without any encoding, are read back as they were meant.
-/

namespace FormUrl

/-! ## Percent encoding -/

/-- The characters `quote` never encodes. -/
def unreserved (c : Char) : Bool :=
  c.isAlphanum || c = '_' || c = '.' || c = '-' || c = '~'

def hexDigit (n : Nat) : Char := if n < 10 then Char.ofNat (48 + n) else Char.ofNat (55 + n)

def hexValue (c : Char) : Option Nat :=
  if '0' ≤ c ∧ c ≤ '9' then some (c.toNat - 48)
  else if 'A' ≤ c ∧ c ≤ 'F' then some (c.toNat - 55)
  else if 'a' ≤ c ∧ c ≤ 'f' then some (c.toNat - 87)
  else none

def percentByte (b : UInt8) : List Char :=
  ['%', hexDigit (b.toNat / 16), hexDigit (b.toNat % 16)]

def utf8 (s : List Char) : List UInt8 := s.flatMap String.utf8EncodeChar

section Quoting

variable (safe : Char → Bool)

/-- `quote` leaves the character alone. -/
def keeps (c : Char) : Bool := unreserved c || safe c

def quoteChar (c : Char) : List Char :=
  if keeps safe c then [c] else (String.utf8EncodeChar c).flatMap percentByte

/-- `quote(s, safe)` -/
def quote (s : List Char) : List Char := s.flatMap (quoteChar safe)

end Quoting

/-- `quote(s, safe="")` -/
def quoteAll (s : List Char) : List Char := quote (fun _ => false) s

/-- Two hexadecimal digits come first. -/
def escaped : List Char → Bool
  | a :: b :: _ => (hexValue a).isSome && (hexValue b).isSome
  | _ => false

/-- The bytes a piece of a form stands for. -/
def decode : List Char → List UInt8
  | [] => []
  | '%' :: a :: b :: rest =>
      match hexValue a, hexValue b with
      | some high, some low => UInt8.ofNat (16 * high + low) :: decode rest
      | _, _ => String.utf8EncodeChar '%' ++ decode (a :: b :: rest)
  | c :: rest => (if c = '+' then [0x20] else String.utf8EncodeChar c) ++ decode rest

/-- Nothing in the text is taken for an encoded byte. -/
def Plain : List Char → Prop
  | [] => True
  | c :: rest => c ≠ '+' ∧ ¬(c = '%' ∧ escaped rest = true) ∧ Plain rest

/-! ## Forms and URLs -/

/-- What follows the first `mark`. -/
def afterMark (mark : Char) (s : List Char) : List Char := (s.dropWhile (· ≠ mark)).drop 1

def beforeMark (mark : Char) (s : List Char) : List Char := s.takeWhile (· ≠ mark)

/-- The name and the value of a piece. -/
def pair (piece : List Char) : List UInt8 × List UInt8 :=
  (decode (beforeMark '=' piece), decode (afterMark '=' piece))

/-- The parameters of a form. -/
def parse (form : List Char) : List (List UInt8 × List UInt8) :=
  ((form.splitOn '&').filter (· ≠ [])).map pair

def fragmentOf (url : List Char) : List Char := afterMark '#' url

def queryOf (url : List Char) : List Char := afterMark '?' (beforeMark '#' url)

def pathOf (url : List Char) : List Char := beforeMark '?' (beforeMark '#' url)

/-- A parameter as a server writes it: as it is, or percent-encoded. -/
structure Field where
  name : List Char
  value : List Char
  quoted : Bool := false

def Field.text (f : Field) : List Char := if f.quoted then quoteAll f.value else f.value

/-- The parameter as it is meant. -/
def Field.meant (f : Field) : List UInt8 × List UInt8 := (utf8 f.name, utf8 f.value)

/-- `name=value` pieces joined by `&`. -/
def render : List Field → List Char
  | [] => []
  | [f] => f.name ++ '=' :: f.text
  | f :: g :: rest => f.name ++ '=' :: f.text ++ '&' :: render (g :: rest)

/-- Where in the URL the parameters go. -/
inductive Part where
  | query
  | fragment
  deriving DecidableEq

/-- The character ends a value: `&` starts the next parameter, and `#` ends a query. -/
def Part.ends (part : Part) (c : Char) : Bool := c = '&' || (part = .query && c = '#')

/-- The form a part of a URL starts with. -/
def Part.cut (part : Part) (s : List Char) : List Char :=
  match part with
  | .query => beforeMark '#' s
  | .fragment => s

/-- The field is read back as it is meant. -/
def Field.Reads (f : Field) (part : Part) : Prop :=
  f.quoted = true ∨ (Plain f.value ∧ ∀ c ∈ f.value, part.ends c = false)

/-- A name of unreserved characters. -/
def Named (name : List Char) : Prop := name ≠ [] ∧ ∀ c ∈ name, unreserved c = true

instance : DecidablePred Named := fun name =>
  decidable_of_iff (name ≠ [] ∧ name.all unreserved = true) (by simp [Named, List.all_eq_true])

/-- The URL keeps its base, path and query, and carries the parameters in one part. -/
structure Carries (part : Part) (base : List Char) (params : List (List UInt8 × List UInt8))
    (location : List Char) : Prop where
  starts : base <+: location
  path : pathOf location = pathOf base
  query : parse (queryOf location) =
    parse (queryOf base) ++ if part = .query then params else []
  fragment : part = .fragment → parse (fragmentOf location) = params

/-- The character between a URL and the parameters of its query. -/
def separator (base : List Char) : Char := if '?' ∈ base then '&' else '?'

/-- The base is left alone and has no fragment in the way, and every field is read back. -/
structure Carriable (safe : Char → Bool) (part : Part) (base : List Char) (fields : List Field) :
    Prop where
  kept : ∀ c ∈ base, keeps safe c = true
  hash : part = .fragment ∨ fields ≠ [] → '#' ∉ base
  separator : part = .query → '#' ∉ base → keeps safe (separator base) = true
  fields : ∀ f ∈ fields, f.Reads part

/-- The encoding leaves alone the characters a form is made of. -/
structure KeepsMarks (safe : Char → Bool) : Prop where
  ampersand : safe '&' = true
  equals : safe '=' = true
  plus : safe '+' = true
  hash : safe '#' = true
  percent : safe '%' = true

/-! ## Encoded text -/

theorem hexValue_hexDigit {n : Nat} (h : n < 16) : hexValue (hexDigit n) = some n := by
  have hdigits : ∀ n < 16, hexValue (hexDigit n) = some n := by decide
  exact hdigits n h

theorem decode_percentByte (b : UInt8) (rest : List Char) :
    decode (percentByte b ++ rest) = b :: decode rest := by
  have hb : b.toNat < 256 := b.toNat_lt
  have hhigh : b.toNat / 16 < 16 := by omega
  have hlow : b.toNat % 16 < 16 := by omega
  simp only [percentByte, List.cons_append, List.nil_append, decode, hexValue_hexDigit hhigh,
    hexValue_hexDigit hlow]
  rw [Nat.div_add_mod, UInt8.ofNat_toNat]

theorem decode_percentBytes (bytes : List UInt8) (rest : List Char) :
    decode (bytes.flatMap percentByte ++ rest) = bytes ++ decode rest := by
  induction bytes with
  | nil => rfl
  | cons b bytes ih =>
      rw [List.flatMap_cons, List.append_assoc, decode_percentByte, ih]
      rfl

/-- A character that stands for itself. -/
theorem decode_cons {c : Char} {rest : List Char} (hplus : c ≠ '+')
    (hpercent : ¬(c = '%' ∧ escaped rest = true)) :
    decode (c :: rest) = String.utf8EncodeChar c ++ decode rest := by
  by_cases hc : c = '%'
  · subst hc
    match rest with
    | [] => rfl
    | [a] => rfl
    | a :: b :: rest =>
        have hnot : ¬((hexValue a).isSome = true ∧ (hexValue b).isSome = true) := by
          simpa [escaped] using hpercent
        cases ha : hexValue a with
        | none => simp [decode, ha]
        | some high =>
            cases hb : hexValue b with
            | none => simp [decode, ha, hb]
            | some low => simp [ha, hb] at hnot
  · match rest with
    | [] => simp [decode, hplus]
    | [a] => simp [decode, hplus]
    | a :: b :: rest =>
        rw [decode.eq_def]
        simp [hc, hplus]

/-- The ranges the unreserved characters come from. -/
theorem unreserved_iff {c : Char} : unreserved c = true ↔
    (65 ≤ c.val.toNat ∧ c.val.toNat ≤ 90) ∨ (97 ≤ c.val.toNat ∧ c.val.toNat ≤ 122) ∨
      (48 ≤ c.val.toNat ∧ c.val.toNat ≤ 57) ∨ c = '_' ∨ c = '.' ∨ c = '-' ∨ c = '~' := by
  delta unreserved Char.isAlphanum Char.isAlpha Char.isUpper Char.isLower Char.isDigit
  simp [UInt32.le_iff_toNat_le, or_assoc]

theorem unreserved_of_hex {c : Char} (h : (hexValue c).isSome = true) : unreserved c = true := by
  unfold hexValue at h
  simp only [Char.le_def, UInt32.le_iff_toNat_le] at h
  rw [unreserved_iff]
  split at h
  · rename_i hdigit
    exact .inr (.inr (.inl hdigit))
  split at h
  · rename_i hupper
    have hle : c.val.toNat ≤ 90 := hupper.2.trans (by decide)
    exact .inl ⟨hupper.1, hle⟩
  split at h
  · rename_i hlower
    have hle : c.val.toNat ≤ 122 := hlower.2.trans (by decide)
    exact .inr (.inl ⟨hlower.1, hle⟩)
  · cases h

section Quoting

variable {safe : Char → Bool}

theorem quoteChar_of_keeps {c : Char} (h : keeps safe c = true) : quoteChar safe c = [c] := by
  simp [quoteChar, h]

theorem quote_append (s t : List Char) : quote safe (s ++ t) = quote safe s ++ quote safe t :=
  List.flatMap_append

theorem quote_cons (c : Char) (s : List Char) :
    quote safe (c :: s) = quoteChar safe c ++ quote safe s :=
  List.flatMap_cons

/-- A character that is not left alone becomes `%XX…`. -/
theorem quoteChar_of_not_keeps {c : Char} (h : keeps safe c = false) :
    ∃ tail, quoteChar safe c = '%' :: tail := by
  have hne : String.utf8EncodeChar c ≠ [] := String.utf8EncodeChar_ne_nil
  obtain ⟨b, bytes, hbytes⟩ := List.exists_cons_of_ne_nil hne
  refine ⟨(percentByte b).tail ++ bytes.flatMap percentByte, ?_⟩
  simp [quoteChar, h, hbytes, percentByte]

theorem keeps_of_hex {c : Char} (h : (hexValue c).isSome = true) : keeps safe c = true := by
  simp [keeps, unreserved_of_hex h]

/-- Encoding neither makes nor breaks an escape. -/
theorem escaped_quote (s : List Char) : escaped (quote safe s) = escaped s := by
  have hmark : (hexValue '%').isSome = false := by decide
  have hdigit : ∀ {c : Char}, keeps safe c = false → (hexValue c).isSome = false := by
    intro c hc
    by_contra hhex
    rw [keeps_of_hex (eq_true_of_ne_false hhex)] at hc
    exact Bool.noConfusion hc
  match s with
  | [] => rfl
  | [a] =>
      cases ha : keeps safe a with
      | true => simp [quote, quoteChar_of_keeps ha, escaped]
      | false =>
          obtain ⟨tail, htail⟩ := quoteChar_of_not_keeps ha
          cases tail with
          | nil => simp [quote, htail, escaped]
          | cons b tail => simp [quote, htail, escaped, hmark]
  | a :: b :: s =>
      rw [quote_cons, quote_cons]
      cases ha : keeps safe a with
      | false =>
          obtain ⟨tail, htail⟩ := quoteChar_of_not_keeps ha
          rw [htail]
          cases hrest : tail ++ (quoteChar safe b ++ quote safe s) with
          | nil => simp [hrest, escaped, hdigit ha]
          | cons c rest => simp [hrest, escaped, hmark, hdigit ha]
      | true =>
          rw [quoteChar_of_keeps ha]
          cases hb : keeps safe b with
          | true => simp [quoteChar_of_keeps hb, escaped]
          | false =>
              obtain ⟨tail, htail⟩ := quoteChar_of_not_keeps hb
              simp [htail, escaped, hmark, hdigit hb]

/-! ## Reading encoded text back -/

theorem decode_quote_escaped {a b : Char} {s : List Char} {high low : Nat}
    (hpercent : keeps safe '%' = true) (ha : hexValue a = some high) (hb : hexValue b = some low) :
    decode (quote safe ('%' :: a :: b :: s)) =
      UInt8.ofNat (16 * high + low) :: decode (quote safe s) := by
  have hka : keeps safe a = true := keeps_of_hex (by simp [ha])
  have hkb : keeps safe b = true := keeps_of_hex (by simp [hb])
  rw [quote_cons, quote_cons, quote_cons, quoteChar_of_keeps hpercent, quoteChar_of_keeps hka,
    quoteChar_of_keeps hkb]
  simp [decode, ha, hb]

theorem decode_quote_cons {c : Char} {s : List Char} (hplus : keeps safe '+' = true)
    (h : ¬(c = '%' ∧ escaped s = true)) :
    decode (quote safe (c :: s)) =
      (if c = '+' then [0x20] else String.utf8EncodeChar c) ++ decode (quote safe s) := by
  rw [quote_cons]
  cases hc : keeps safe c with
  | true =>
      rw [quoteChar_of_keeps hc]
      by_cases hspace : c = '+'
      · subst hspace
        simp [decode]
      · rw [if_neg hspace]
        have hrest : ¬(c = '%' ∧ escaped (quote safe s) = true) := by rwa [escaped_quote]
        exact decode_cons hspace hrest
  | false =>
      have hspace : c ≠ '+' := by
        rintro rfl
        rw [hplus] at hc
        exact Bool.noConfusion hc
      rw [if_neg hspace, quoteChar, if_neg (by simp [hc]), decode_percentBytes]

theorem length_utf8EncodeChar_pos (c : Char) : 0 < (String.utf8EncodeChar c).length :=
  List.length_pos_iff.mpr String.utf8EncodeChar_ne_nil

theorem utf8_cons (c : Char) (s : List Char) :
    utf8 (c :: s) = String.utf8EncodeChar c ++ utf8 s :=
  List.flatMap_cons

/-- Induction over a text: escapes are taken whole. -/
theorem text_induction {motive : List Char → Prop} (nil : motive [])
    (escape : ∀ a b s high low, hexValue a = some high → hexValue b = some low → motive s →
      motive ('%' :: a :: b :: s))
    (char : ∀ c s, ¬(c = '%' ∧ escaped s = true) → motive s → motive (c :: s))
    (s : List Char) : motive s := by
  induction s using decode.induct with
  | case1 => exact nil
  | case2 a b s high low hb ha ih => exact escape a b s high low ha hb ih
  | case3 a b s hnot ih =>
      apply char '%' _ _ ih
      rintro ⟨-, h⟩
      obtain ⟨ha, hb⟩ := Bool.and_eq_true_iff.mp h
      obtain ⟨high, hhigh⟩ := Option.isSome_iff_exists.mp ha
      obtain ⟨low, hlow⟩ := Option.isSome_iff_exists.mp hb
      exact hnot high low hhigh hlow
  | case4 c s hnot ih =>
      apply char c s _ ih
      rintro ⟨hc, h⟩
      match s with
      | [] => cases h
      | [a] => cases h
      | a :: b :: s => exact hnot a b s hc rfl

/-- No text takes more bytes, once read back, than it is made of. -/
theorem length_decode_quote_le (hplus : keeps safe '+' = true) (hpercent : keeps safe '%' = true)
    (s : List Char) : (decode (quote safe s)).length ≤ (utf8 s).length := by
  induction s using text_induction with
  | nil => exact le_rfl
  | escape a b s high low ha hb ih =>
      rw [decode_quote_escaped hpercent ha hb, utf8_cons, utf8_cons, utf8_cons]
      have hmark := length_utf8EncodeChar_pos '%'
      simp only [List.length_cons, List.length_append]
      omega
  | char c s hescaped ih =>
      have hone := length_utf8EncodeChar_pos c
      rw [decode_quote_cons hplus hescaped, utf8_cons]
      simp only [List.length_append]
      split
      · simp only [List.length_singleton]
        omega
      · omega

/-- A text is read back as it is exactly when nothing in it is taken for an encoded byte. -/
theorem decode_quote_iff (hplus : keeps safe '+' = true) (hpercent : keeps safe '%' = true)
    (s : List Char) : decode (quote safe s) = utf8 s ↔ Plain s := by
  induction s using text_induction with
  | nil => exact iff_of_true rfl trivial
  | escape a b s high low ha hb ih =>
      refine iff_of_false (fun h => ?_) (fun h => h.2.1 ⟨rfl, by simp [escaped, ha, hb]⟩)
      have hlength := congrArg List.length h
      rw [decode_quote_escaped hpercent ha hb, utf8_cons, utf8_cons, utf8_cons] at hlength
      simp only [List.length_cons, List.length_append] at hlength
      have hrest := length_decode_quote_le hplus hpercent s
      have hmark := length_utf8EncodeChar_pos '%'
      have hdigit := length_utf8EncodeChar_pos a
      omega
  | char c s hescaped ih =>
      rw [decode_quote_cons hplus hescaped, utf8_cons]
      by_cases hspace : c = '+'
      · subst hspace
        refine iff_of_false (fun h => ?_) (fun h => h.1 rfl)
        have hhead := congrArg List.head? h
        exact absurd hhead (by simp [String.utf8EncodeChar])
      · rw [if_neg hspace, List.append_cancel_left_eq, ih]
        exact ⟨fun h => ⟨hspace, hescaped, h⟩, fun h => h.2.2⟩

theorem decode_quoteAll (s : List Char) : decode (quoteAll s) = utf8 s := by
  unfold quoteAll
  induction s with
  | nil => rfl
  | cons c s ih =>
      rw [quote_cons, utf8_cons]
      cases hc : keeps (fun _ => false) c with
      | true =>
          have hnot : ∀ d, unreserved d = false → c ≠ d := by
            rintro d hd rfl
            simp [keeps, hd] at hc
          rw [quoteChar_of_keeps hc]
          have hpercent : ¬(c = '%' ∧ escaped (quote (fun _ => false) s) = true) := fun h =>
            hnot '%' (by decide) h.1
          exact (decode_cons (hnot '+' (by decide)) hpercent).trans (by rw [ih])
      | false => rw [quoteChar, if_neg (by simp [hc]), decode_percentBytes, ih]

/-- What `quoteAll` writes: unreserved characters and `%`. -/
theorem mem_quoteAll {c : Char} {s : List Char} (h : c ∈ quoteAll s) :
    unreserved c = true ∨ c = '%' := by
  obtain ⟨d, -, hd⟩ := List.mem_flatMap.mp h
  unfold quoteChar at hd
  split at hd
  · rename_i hkeeps
    obtain rfl := List.mem_singleton.mp hd
    exact .inl (by simpa [keeps] using hkeeps)
  · obtain ⟨b, -, hb⟩ := List.mem_flatMap.mp hd
    have hdigits : ∀ n < 16, unreserved (hexDigit n) = true := by decide
    have hb' : b.toNat < 256 := b.toNat_lt
    simp only [percentByte, List.mem_cons, List.not_mem_nil, or_false] at hb
    rcases hb with rfl | rfl | rfl
    · exact .inr rfl
    · exact .inl (hdigits _ (by omega))
    · exact .inl (hdigits _ (by omega))

theorem quote_eq_self {s : List Char} (h : ∀ c ∈ s, keeps safe c = true) : quote safe s = s := by
  induction s with
  | nil => rfl
  | cons c s ih =>
      rw [quote_cons, quoteChar_of_keeps (h c List.mem_cons_self),
        ih fun d hd => h d (List.mem_cons_of_mem c hd)]
      rfl

/-- Encoding twice changes nothing more. -/
theorem quote_quoteAll (hpercent : keeps safe '%' = true) (s : List Char) :
    quote safe (quoteAll s) = quoteAll s := by
  apply quote_eq_self
  intro c hc
  rcases mem_quoteAll hc with h | rfl
  · simp [keeps, h]
  · exact hpercent

end Quoting

/-! ## The pieces of a form -/

theorem parse_nil : parse [] = [] := by simp [parse]

theorem parse_append (a b : List Char) : parse (a ++ '&' :: b) = parse a ++ parse b := by
  unfold parse
  rw [List.splitOn_append_cons_self, List.filter_append, List.map_append]

theorem parse_piece {piece : List Char} (hne : piece ≠ []) (h : '&' ∉ piece) :
    parse piece = [pair piece] := by
  unfold parse
  rw [List.splitOn_eq_singleton h]
  simp [hne]

theorem not_mem_beforeMark (mark : Char) (s : List Char) : mark ∉ beforeMark mark s := by
  intro h
  simpa using List.mem_takeWhile_imp h

/-- A text ends before the mark, or goes on after it. -/
theorem beforeMark_afterMark (mark : Char) (s : List Char) :
    mark ∉ s ∧ beforeMark mark s = s ∧ afterMark mark s = [] ∨
      s = beforeMark mark s ++ mark :: afterMark mark s := by
  have happend := List.takeWhile_append_dropWhile (p := (· ≠ mark)) (l := s)
  unfold beforeMark afterMark
  cases hdrop : s.dropWhile (· ≠ mark) with
  | nil =>
      rw [hdrop, List.append_nil] at happend
      refine .inl ⟨?_, happend, rfl⟩
      intro hmem
      rw [← happend] at hmem
      exact not_mem_beforeMark mark s hmem
  | cons c rest =>
      have hc : c = mark := by
        have hhead := List.head?_dropWhile_not (· ≠ mark) s
        rw [hdrop] at hhead
        simpa using hhead
      subst hc
      rw [hdrop] at happend
      exact .inr happend.symm

theorem beforeMark_append {mark : Char} {s : List Char} (h : mark ∉ s) (rest : List Char) :
    beforeMark mark (s ++ mark :: rest) = s := by
  unfold beforeMark
  rw [List.takeWhile_append_of_pos (by
    intro c hc
    have hne : c ≠ mark := by
      rintro rfl
      exact h hc
    simpa using hne)]
  simp

theorem afterMark_append {mark : Char} {s : List Char} (h : mark ∉ s) (rest : List Char) :
    afterMark mark (s ++ mark :: rest) = rest := by
  unfold afterMark
  rw [List.dropWhile_append_of_pos (by
    intro c hc
    have hne : c ≠ mark := by
      rintro rfl
      exact h hc
    simpa using hne)]
  simp

/-- Two texts that are cut at their first mark. -/
theorem cut_at_mark {mark : Char} {a b rest rest' : List Char} (ha : mark ∉ a) (hb : mark ∉ b)
    (h : a ++ mark :: rest = b ++ mark :: rest') : a = b ∧ rest = rest' := by
  have hbefore := congrArg (beforeMark mark) h
  have hafter := congrArg (afterMark mark) h
  rw [beforeMark_append ha, beforeMark_append hb] at hbefore
  rw [afterMark_append ha, afterMark_append hb] at hafter
  exact ⟨hbefore, hafter⟩

theorem beforeMark_eq_self {mark : Char} {s : List Char} (h : mark ∉ s) : beforeMark mark s = s := by
  rcases beforeMark_afterMark mark s with ⟨-, heq, -⟩ | heq
  · exact heq
  · rw [heq] at h
    simp at h

theorem afterMark_eq_nil {mark : Char} {s : List Char} (h : mark ∉ s) : afterMark mark s = [] := by
  rcases beforeMark_afterMark mark s with ⟨-, -, heq⟩ | heq
  · exact heq
  · rw [heq] at h
    simp at h

/-- A form is its first piece and the form after it. -/
theorem parse_first {form : List Char} (h : beforeMark '&' form ≠ []) :
    parse form = pair (beforeMark '&' form) :: parse (afterMark '&' form) := by
  rcases beforeMark_afterMark '&' form with ⟨hnot, hbefore, hafter⟩ | heq
  · rw [hafter, parse_nil, hbefore]
    rw [hbefore] at h
    exact parse_piece h hnot
  · have hpiece := parse_piece h (not_mem_beforeMark '&' form)
    conv_lhs => rw [heq, parse_append, hpiece]
    rfl

/-! ## Fields read back -/

section Fields

variable {safe : Char → Bool} {part : Part}

theorem ends_of_unreserved {c : Char} (h : unreserved c = true) (part : Part) :
    part.ends c = false := by
  have hand : c ≠ '&' := by
    rintro rfl
    exact absurd h (by decide)
  have hhash : c ≠ '#' := by
    rintro rfl
    exact absurd h (by decide)
  simp [Part.ends, hand, hhash]

/-- The value of the first piece, up to what ends it. -/
theorem beforeMark_cut (part : Part) (s : List Char) :
    beforeMark '&' (part.cut s) = s.takeWhile fun c => !part.ends c := by
  cases part with
  | query =>
      simp only [Part.cut, beforeMark, List.takeWhile_takeWhile]
      congr 1
      funext c
      by_cases hand : c = '&' <;> by_cases hhash : c = '#' <;> simp [Part.ends, hand, hhash]
  | fragment =>
      simp only [Part.cut, beforeMark]
      congr 1
      funext c
      simp [Part.ends]

/-- An encoded text ends where the text does. -/
theorem takeWhile_quote (hand : keeps safe '&' = true) (hhash : keeps safe '#' = true)
    (part : Part) (s rest : List Char) :
    (quote safe s ++ rest).takeWhile (fun c => !part.ends c) =
      if s.all (fun c => !part.ends c) then
        quote safe s ++ rest.takeWhile fun c => !part.ends c
      else quote safe (s.takeWhile fun c => !part.ends c) := by
  induction s with
  | nil => simp [quote]
  | cons c s ih =>
      rw [quote_cons, List.append_assoc]
      cases hends : part.ends c with
      | true =>
          have hkeeps : keeps safe c = true := by
            by_cases hc : c = '&'
            · rwa [hc]
            · have hc' : c = '#' := by
                simp only [Part.ends, hc, decide_false, Bool.false_or, Bool.and_eq_true,
                  decide_eq_true_eq] at hends
                exact hends.2
              rwa [hc']
          rw [if_neg (by simp [hends]), quoteChar_of_keeps hkeeps]
          simp [hends, quote]
      | false =>
          have hchar : ∀ d ∈ quoteChar safe c, part.ends d = false := by
            intro d hd
            unfold quoteChar at hd
            split at hd
            · obtain rfl := List.mem_singleton.mp hd
              exact hends
            · obtain ⟨b, -, hb⟩ := List.mem_flatMap.mp hd
              have hdigits : ∀ n < 16, unreserved (hexDigit n) = true := by decide
              have hb' : b.toNat < 256 := b.toNat_lt
              simp only [percentByte, List.mem_cons, List.not_mem_nil, or_false] at hb
              rcases hb with rfl | rfl | rfl
              · cases part <;> decide
              · exact ends_of_unreserved (hdigits _ (by omega)) part
              · exact ends_of_unreserved (hdigits _ (by omega)) part
          rw [List.takeWhile_append_of_pos (by
            intro d hd
            simp [hchar d hd]), ih]
          by_cases hall : s.all (fun c => !part.ends c)
          · rw [if_pos hall, if_pos (by simpa [hends] using hall), List.append_assoc]
          · rw [if_neg hall, if_neg (by simpa [hends] using hall), List.takeWhile_cons]
            simp [hends, quote_cons]

theorem keeps_of_safe {c : Char} (h : safe c = true) : keeps safe c = true := by
  simp [keeps, h]

theorem not_mem_name {name : List Char} (hname : Named name) {c : Char}
    (hc : unreserved c = false) : c ∉ name := by
  intro hmem
  rw [hname.2 c hmem] at hc
  exact Bool.noConfusion hc

theorem quote_name {name : List Char} (hname : Named name) : quote safe name = name :=
  quote_eq_self fun c hc => by simp [keeps, hname.2 c hc]

theorem decode_name {name : List Char} (hname : Named name) : decode name = utf8 name := by
  have h := decode_quoteAll name
  rwa [quoteAll, quote_name hname] at h

theorem cut_append {s : List Char} (h : ∀ c ∈ s, part.ends c = false) (rest : List Char) :
    part.cut (s ++ rest) = s ++ part.cut rest := by
  cases part with
  | query =>
      apply List.takeWhile_append_of_pos
      intro c hc
      have hne : c ≠ '#' := by
        rintro rfl
        exact absurd (h _ hc) (by decide)
      simpa using hne
  | fragment => rfl

/-- The text of a field that is percent-encoded never ends early. -/
theorem ends_text {f : Field} (h : f.quoted = true) : ∀ c ∈ f.text, part.ends c = false := by
  intro c hc
  rw [Field.text, if_pos h] at hc
  rcases mem_quoteAll hc with hc | rfl
  · exact ends_of_unreserved hc part
  · cases part <;> decide

/-- Text that does not end early is read back exactly when it stands for itself. -/
theorem decode_text_iff (hm : KeepsMarks safe) {f : Field}
    (hall : ∀ c ∈ f.text, part.ends c = false) :
    decode (quote safe f.text) = utf8 f.value ↔ f.Reads part := by
  unfold Field.Reads
  cases hquoted : f.quoted with
  | true =>
      rw [Field.text, if_pos hquoted, quote_quoteAll (keeps_of_safe hm.percent), decode_quoteAll]
      simp
  | false =>
      have htext : f.text = f.value := by simp [Field.text, hquoted]
      rw [htext] at hall ⊢
      rw [decode_quote_iff (keeps_of_safe hm.plus) (keeps_of_safe hm.percent)]
      simp only [Bool.false_eq_true, false_or]
      exact ⟨fun h => ⟨h, hall⟩, fun h => h.1⟩

/-- Text that ends early is never read back. -/
theorem not_reads_of_ends (hm : KeepsMarks safe) {f : Field}
    (hsome : ¬∀ c ∈ f.text, part.ends c = false) :
    ¬f.Reads part ∧
      decode (quote safe (f.text.takeWhile fun c => !part.ends c)) ≠ utf8 f.value := by
  have hquoted : f.quoted = false := by
    cases hq : f.quoted with
    | true => exact absurd (ends_text hq) hsome
    | false => rfl
  have htext : f.text = f.value := by simp [Field.text, hquoted]
  rw [htext] at hsome ⊢
  constructor
  · rintro (h | h)
    · rw [hquoted] at h
      exact Bool.noConfusion h
    · exact hsome h.2
  · intro heq
    have hle := length_decode_quote_le (keeps_of_safe hm.plus) (keeps_of_safe hm.percent)
      (f.value.takeWhile fun c => !part.ends c)
    rw [heq] at hle
    have hsplit := List.takeWhile_append_dropWhile (p := fun c => !part.ends c) (l := f.value)
    cases hdrop : f.value.dropWhile (fun c => !part.ends c) with
    | nil =>
        apply hsome
        intro c hc
        rw [hdrop, List.append_nil] at hsplit
        rw [← hsplit] at hc
        simpa using List.mem_takeWhile_imp hc
    | cons c rest =>
        rw [hdrop] at hsplit
        have hlength := congrArg (fun s => (utf8 s).length) hsplit
        simp only [utf8, List.flatMap_append, List.flatMap_cons, List.length_append] at hlength hle
        have hpos := length_utf8EncodeChar_pos c
        omega

/-- One field, in front of the others: it has to be read back, and so do they. -/
theorem parse_field (part : Part) (hm : KeepsMarks safe) {f : Field} (hname : Named f.name)
    {rest : List Char} (hrest : rest = [] ∨ ∃ form, rest = '&' :: form)
    (expected : List (List UInt8 × List UInt8)) :
    parse (part.cut (quote safe (f.name ++ '=' :: f.text ++ rest))) = f.meant :: expected ↔
      f.Reads part ∧ parse (part.cut (quote safe (rest.drop 1))) = expected := by
  have hequals : part.ends '=' = false := by cases part <;> decide
  have hnames : ∀ c ∈ f.name ++ ['='], part.ends c = false := by
    intro c hc
    rcases List.mem_append.mp hc with hc | hc
    · exact ends_of_unreserved (hname.2 c hc) part
    · rwa [List.mem_singleton.mp hc]
  have hform : quote safe (f.name ++ '=' :: f.text ++ rest) =
      (f.name ++ ['=']) ++ (quote safe f.text ++ quote safe rest) := by
    rw [List.append_assoc, quote_append, quote_name hname, List.cons_append, quote_cons,
      quoteChar_of_keeps (keeps_of_safe hm.equals), quote_append]
    simp
  have hmark : '&' ∉ f.name ++ ['='] := fun h =>
    absurd (hnames _ h) (by cases part <;> decide)
  have hbefore : beforeMark '&' (part.cut (quote safe (f.name ++ '=' :: f.text ++ rest))) =
      f.name ++ '=' :: beforeMark '&' (part.cut (quote safe f.text ++ quote safe rest)) := by
    rw [hform, cut_append hnames, beforeMark, List.takeWhile_append_of_pos (by
      intro c hc
      have hne : c ≠ '&' := by
        rintro rfl
        exact hmark hc
      simpa using hne)]
    simp [beforeMark]
  have hafter : afterMark '&' (part.cut (quote safe (f.name ++ '=' :: f.text ++ rest))) =
      afterMark '&' (part.cut (quote safe f.text ++ quote safe rest)) := by
    rw [hform, cut_append hnames, afterMark, List.dropWhile_append_of_pos (by
      intro c hc
      have hne : c ≠ '&' := by
        rintro rfl
        exact hmark hc
      simpa using hne)]
    rfl
  have hnone : '=' ∉ f.name := not_mem_name hname (by decide)
  rw [parse_first (by rw [hbefore]; simp), hbefore, hafter, List.cons.injEq, pair,
    beforeMark_append hnone, afterMark_append hnone, decode_name hname, Field.meant, Prod.mk.injEq,
    beforeMark_cut, takeWhile_quote (keeps_of_safe hm.ampersand) (keeps_of_safe hm.hash)]
  by_cases hall : ∀ c ∈ f.text, part.ends c = false
  · have hevery : f.text.all (fun c => !part.ends c) = true := by simpa using hall
    have hquoted : ∀ c ∈ quote safe f.text, part.ends c = false := by
      have htake := takeWhile_quote (keeps_of_safe hm.ampersand) (keeps_of_safe hm.hash) part
        f.text []
      rw [if_pos hevery] at htake
      simp only [List.append_nil, List.takeWhile_nil] at htake
      intro c hc
      rw [← htake] at hc
      simpa using List.mem_takeWhile_imp hc
    have hstop : (quote safe rest).takeWhile (fun c => !part.ends c) = [] ∧
        afterMark '&' (part.cut (quote safe f.text ++ quote safe rest)) =
          part.cut (quote safe (rest.drop 1)) := by
      rw [cut_append hquoted]
      have hno : '&' ∉ quote safe f.text := fun h => absurd (hquoted _ h) (by
        cases part <;> decide)
      rcases hrest with rfl | ⟨form, rfl⟩
      · have hcut : part.cut [] = [] := by cases part <;> rfl
        simp only [quote, List.flatMap_nil, List.drop_nil, hcut, List.append_nil,
          List.takeWhile_nil, true_and]
        exact afterMark_eq_nil hno
      · have hcut : part.cut ('&' :: quote safe form) = '&' :: part.cut (quote safe form) := by
          cases part <;> rfl
        rw [quote_cons, quoteChar_of_keeps (keeps_of_safe hm.ampersand)]
        refine ⟨by cases part <;> rfl, ?_⟩
        show afterMark '&' (quote safe f.text ++ part.cut ('&' :: quote safe form)) = _
        rw [hcut, afterMark_append hno]
        rfl
    rw [if_pos hevery, hstop.1, hstop.2, List.append_nil, decode_text_iff hm hall]
    simp
  · obtain ⟨hreads, hne⟩ := not_reads_of_ends hm hall
    rw [if_neg (by simpa using hall)]
    exact iff_of_false (fun h => hne h.1.2) fun h => hreads h.1

/-- **Parameters written one after the other are read back as they are meant exactly when
each of them is.** -/
theorem parse_fields (part : Part) (hm : KeepsMarks safe) {fields : List Field}
    (hnames : ∀ f ∈ fields, Named f.name) :
    parse (part.cut (quote safe (render fields))) = fields.map Field.meant ↔
      ∀ f ∈ fields, f.Reads part := by
  induction fields with
  | nil =>
      have hcut : part.cut (quote safe (render [])) = [] := by cases part <;> rfl
      simp [hcut, parse_nil]
  | cons f fields ih =>
      have hname := hnames f List.mem_cons_self
      have ih' := ih fun g hg => hnames g (List.mem_cons_of_mem f hg)
      cases fields with
      | nil =>
          have hstep := parse_field part hm hname (.inl rfl) []
          have hcut : part.cut (quote safe ([] : List Char)) = [] := by cases part <;> rfl
          simp only [List.append_nil, List.drop_nil, hcut, parse_nil, and_true] at hstep
          simpa [render] using hstep
      | cons g rest =>
          have hstep := parse_field part hm hname
            (.inr ⟨render (g :: rest), rfl⟩) ((g :: rest).map Field.meant)
          rw [List.drop_one, List.tail_cons, ih'] at hstep
          rw [List.forall_mem_cons, ← hstep]
          exact Iff.rfl

/-! ## Parameters added to a URL -/

theorem quote_of_starts {s : List Char} (rest : List Char) (hpercent : keeps safe '%' = true)
    (h : s <+: quote safe s ++ rest) : ∀ c ∈ s, keeps safe c = true := by
  induction s with
  | nil => exact fun c hc => absurd hc List.not_mem_nil
  | cons c s ih =>
      rw [quote_cons, List.append_assoc] at h
      cases hc : keeps safe c with
      | true =>
          rw [quoteChar_of_keeps hc] at h
          have hrest := (List.cons_prefix_cons.mp h).2
          intro d hd
          rcases List.mem_cons.mp hd with rfl | hd
          · exact hc
          · exact ih hrest d hd
      | false =>
          obtain ⟨tail, htail⟩ := quoteChar_of_not_keeps hc
          rw [htail] at h
          have hmark := (List.cons_prefix_cons.mp h).1
          rw [hmark, hpercent] at hc
          exact Bool.noConfusion hc

/-- The base comes first, unchanged, exactly when it lost no slash and is left alone. -/
theorem starts_iff (hm : KeepsMarks safe) {base trimmed : List Char} {slashes : Nat}
    (hbase : base = trimmed ++ List.replicate slashes '/') {mark : Char} (hmark : mark ≠ '/')
    (rest : List Char) :
    base <+: quote safe (trimmed ++ mark :: rest) ↔
      trimmed = base ∧ ∀ c ∈ base, keeps safe c = true := by
  constructor
  · intro h
    rw [quote_append, quote_cons] at h
    have hkeeps : ∀ c ∈ trimmed, keeps safe c = true := by
      apply quote_of_starts (quoteChar safe mark ++ quote safe rest) (keeps_of_safe hm.percent)
      have htrimmed : trimmed <+: base := by simp [hbase]
      exact htrimmed.trans h
    have hslashes : slashes = 0 := by
      cases slashes with
      | zero => rfl
      | succ n =>
          rw [hbase, quote_eq_self hkeeps, List.prefix_append_right_inj,
            List.replicate_succ] at h
          cases hc : keeps safe mark with
          | true =>
              rw [quoteChar_of_keeps hc] at h
              exact absurd (List.cons_prefix_cons.mp h).1 (Ne.symm hmark)
          | false =>
              obtain ⟨tail, htail⟩ := quoteChar_of_not_keeps hc
              rw [htail] at h
              exact absurd (List.cons_prefix_cons.mp h).1 (by decide)
    subst hslashes
    rw [List.replicate_zero, List.append_nil] at hbase
    exact ⟨hbase.symm, by rwa [hbase]⟩
  · rintro ⟨rfl, hkeeps⟩
    rw [quote_append, quote_eq_self hkeeps]
    exact List.prefix_append _ _

theorem beforeMark_append_of_mem {mark : Char} {s : List Char} (h : mark ∈ s)
    (rest : List Char) : beforeMark mark (s ++ rest) = beforeMark mark s := by
  rcases beforeMark_afterMark mark s with ⟨hnot, -⟩ | heq
  · exact absurd h hnot
  · conv_lhs => rw [heq, List.append_assoc, List.cons_append]
    exact beforeMark_append (not_mem_beforeMark mark s) _

theorem afterMark_append_of_mem {mark : Char} {s : List Char} (h : mark ∈ s)
    (rest : List Char) : afterMark mark (s ++ rest) = afterMark mark s ++ rest := by
  rcases beforeMark_afterMark mark s with ⟨hnot, -⟩ | heq
  · exact absurd h hnot
  · conv_lhs => rw [heq, List.append_assoc, List.cons_append]
    exact afterMark_append (not_mem_beforeMark mark s) _

theorem beforeMark_append_of_not_mem {mark : Char} {s : List Char} (h : mark ∉ s)
    (rest : List Char) : beforeMark mark (s ++ rest) = s ++ beforeMark mark rest := by
  apply List.takeWhile_append_of_pos
  intro c hc
  have hne : c ≠ mark := by
    rintro rfl
    exact h hc
  simpa using hne

theorem separator_ne_slash (base : List Char) : separator base ≠ '/' := by
  unfold separator
  split <;> decide

/-- With the parameters after a separator that is left alone, the query of the URL is the
query of the base and the parameters. -/
theorem query_separator {base : List Char} (form : List Char) (hhash : '#' ∉ base) :
    pathOf (base ++ separator base :: form) = pathOf base ∧
      parse (queryOf (base ++ separator base :: form)) =
        parse (queryOf base) ++ parse (Part.query.cut form) := by
  have hmark : separator base ≠ '#' := by
    unfold separator
    split <;> decide
  have hcut : beforeMark '#' (base ++ separator base :: form) =
      base ++ separator base :: Part.query.cut form := by
    rw [beforeMark_append_of_not_mem hhash, beforeMark, List.takeWhile_cons_of_pos (by
      simpa using hmark)]
    rfl
  unfold pathOf queryOf
  rw [hcut, beforeMark_eq_self hhash]
  unfold separator
  split
  · rename_i hmem
    rw [beforeMark_append_of_mem hmem, afterMark_append_of_mem hmem, parse_append]
    exact ⟨rfl, rfl⟩
  · rename_i hnot
    rw [beforeMark_append hnot, afterMark_append hnot, beforeMark_eq_self hnot,
      afterMark_eq_nil hnot, parse_nil]
    exact ⟨rfl, rfl⟩

/-- **Parameters added to a query.** -/
theorem carries_query_iff (hm : KeepsMarks safe) {base trimmed : List Char} {slashes : Nat}
    (hbase : base = trimmed ++ List.replicate slashes '/') {fields : List Field}
    (hnames : ∀ f ∈ fields, Named f.name) :
    Carries .query base (fields.map Field.meant)
        (quote safe (trimmed ++ separator base :: render fields)) ↔
      trimmed = base ∧ Carriable safe .query base fields := by
  have hstarts := starts_iff hm hbase (separator_ne_slash base) (render fields)
  by_cases hkept : trimmed = base ∧ ∀ c ∈ base, keeps safe c = true
  swap
  · exact iff_of_false (fun h => hkept (hstarts.mp h.starts)) fun h => hkept ⟨h.1, h.2.kept⟩
  obtain ⟨rfl, hkeeps⟩ := hkept
  have hlocation : quote safe (trimmed ++ separator trimmed :: render fields) =
      trimmed ++ (quoteChar safe (separator trimmed) ++ quote safe (render fields)) := by
    rw [quote_append, quote_eq_self hkeeps, quote_cons]
  have hfields := parse_fields .query hm hnames
  by_cases hhash : '#' ∈ trimmed
  · -- the parameters land in the fragment
    have hsame : beforeMark '#' (quote safe (trimmed ++ separator trimmed :: render fields)) =
        beforeMark '#' trimmed := by
      rw [hlocation, beforeMark_append_of_mem hhash]
    have hreduce : Carries .query trimmed (fields.map Field.meant)
        (quote safe (trimmed ++ separator trimmed :: render fields)) ↔ fields = [] := by
      constructor
      · intro h
        have hquery := h.query
        rw [queryOf, hsame, if_pos rfl] at hquery
        have hnil := List.self_eq_append_right.mp hquery
        exact List.map_eq_nil_iff.mp hnil
      · rintro rfl
        refine ⟨hstarts.mpr ⟨rfl, hkeeps⟩, ?_, ?_, nofun⟩
        · rw [pathOf, hsame]
          rfl
        · rw [queryOf, hsame]
          simp [queryOf]
    rw [hreduce]
    constructor
    · rintro rfl
      refine ⟨rfl, hkeeps, ?_, fun _ h => absurd hhash h, by simp⟩
      rintro (h | h)
      · cases h
      · exact absurd rfl h
    · rintro ⟨-, hcarriable⟩
      by_contra hne
      exact hcarriable.hash (.inr hne) hhash
  · cases hseparator : keeps safe (separator trimmed) with
    | true =>
        rw [quoteChar_of_keeps hseparator] at hlocation
        obtain ⟨hpath, hquery⟩ := query_separator (quote safe (render fields)) hhash
        have hreduce : Carries .query trimmed (fields.map Field.meant)
            (quote safe (trimmed ++ separator trimmed :: render fields)) ↔
              ∀ f ∈ fields, f.Reads .query := by
          rw [← hfields]
          constructor
          · intro h
            have h' := h.query
            rw [hlocation, List.singleton_append, hquery, if_pos rfl] at h'
            exact List.append_cancel_left h'
          · intro h
            refine ⟨hstarts.mpr ⟨rfl, hkeeps⟩, ?_, ?_, nofun⟩
            · rw [hlocation]
              exact hpath
            · rw [hlocation, List.singleton_append, hquery, h, if_pos rfl]
        rw [hreduce]
        exact ⟨fun h => ⟨rfl, hkeeps, fun _ => hhash, fun _ _ => hseparator, h⟩,
          fun h => h.2.fields⟩
    | false =>
        refine iff_of_false (fun h => ?_) fun h =>
          Bool.noConfusion (hseparator.symm.trans (h.2.separator rfl hhash))
        obtain ⟨tail, htail⟩ := quoteChar_of_not_keeps hseparator
        have hquestion : '?' ∉ trimmed := by
          intro hmem
          rw [separator, if_pos hmem, keeps_of_safe hm.ampersand] at hseparator
          exact Bool.noConfusion hseparator
        have hpath := h.path
        rw [hlocation, htail, pathOf, pathOf, beforeMark_append_of_not_mem hhash,
          beforeMark_append_of_not_mem hquestion, beforeMark_eq_self hhash,
          beforeMark_eq_self hquestion, List.cons_append] at hpath
        have hnil := List.append_right_eq_self.mp hpath
        simp [beforeMark] at hnil

/-- A `#` in a text is no part of an escape. -/
theorem hash_mem_decode (s rest : List Char) : 0x23 ∈ decode (s ++ '#' :: rest) := by
  have hhash : (hexValue '#').isSome = false := by decide
  induction s using text_induction with
  | nil =>
      rw [List.nil_append, decode_cons (by decide) fun h => absurd h.1 (by decide)]
      simp [String.utf8EncodeChar]
  | escape a b s high low ha hb ih => simp [decode, ha, hb, ih]
  | char c s hescaped ih =>
      by_cases hplus : c = '+'
      · subst hplus
        simp [decode, ih]
      · have hnot : ¬(c = '%' ∧ escaped (s ++ '#' :: rest) = true) := by
          rintro ⟨hc, h⟩
          match s with
          | [] =>
              cases rest with
              | nil => cases h
              | cons d rest => simp [escaped, hhash] at h
          | [a] => simp [escaped, hhash] at h
          | a :: b :: s => exact hescaped ⟨hc, h⟩
        rw [List.cons_append, decode_cons hplus hnot]
        exact List.mem_append_right _ ih

theorem hash_not_mem_name {name : List Char} (hname : Named name) : (0x23 : UInt8) ∉ utf8 name := by
  intro h
  obtain ⟨c, hc, hbyte⟩ := List.mem_flatMap.mp h
  have hun := hname.2 c hc
  have hascii : c.val.toNat ≤ 0x7f := by
    rcases unreserved_iff.mp hun with ⟨-, h⟩ | ⟨-, h⟩ | ⟨-, h⟩ | rfl | rfl | rfl | rfl
    · exact h.trans (by decide)
    · exact h.trans (by decide)
    · exact h.trans (by decide)
    all_goals decide
  rw [String.utf8EncodeChar, if_pos hascii, List.mem_singleton] at hbyte
  have hcode : c.val.toNat = 0x23 := by
    have hnat := congrArg UInt8.toNat hbyte
    rw [UInt8.toNat_ofNat', Nat.mod_eq_of_lt (by omega)] at hnat
    exact hnat.symm
  have hc' : c = '#' := Char.ext (UInt32.toNat_inj.mp hcode)
  rw [hc'] at hun
  exact absurd hun (by decide)

/-- **Parameters added as a fragment**, to a URL whose own fragment holds none. -/
theorem carries_fragment_iff (hm : KeepsMarks safe) {base trimmed : List Char} {slashes : Nat}
    (hbase : base = trimmed ++ List.replicate slashes '/')
    (hown : '=' ∉ fragmentOf base ∧ '&' ∉ fragmentOf base) {fields : List Field}
    (hnames : ∀ f ∈ fields, Named f.name) :
    Carries .fragment base (fields.map Field.meant)
        (quote safe (trimmed ++ '#' :: render fields)) ↔
      trimmed = base ∧ Carriable safe .fragment base fields := by
  have hstarts := starts_iff hm hbase (by decide : '#' ≠ '/') (render fields)
  by_cases hkept : trimmed = base ∧ ∀ c ∈ base, keeps safe c = true
  swap
  · exact iff_of_false (fun h => hkept (hstarts.mp h.starts)) fun h => hkept ⟨h.1, h.2.kept⟩
  obtain ⟨rfl, hkeeps⟩ := hkept
  have hlocation : quote safe (trimmed ++ '#' :: render fields) =
      trimmed ++ '#' :: quote safe (render fields) := by
    rw [quote_append, quote_eq_self hkeeps, quote_cons,
      quoteChar_of_keeps (keeps_of_safe hm.hash)]
    rfl
  have hfields := parse_fields .fragment hm hnames
  by_cases hhash : '#' ∈ trimmed
  · refine iff_of_false (fun h => ?_) fun h => h.2.hash (.inl rfl) hhash
    have hparse := h.fragment rfl
    have hfirst : beforeMark '&' (fragmentOf trimmed ++ '#' :: quote safe (render fields)) =
        fragmentOf trimmed ++ '#' :: beforeMark '&' (quote safe (render fields)) := by
      rw [beforeMark_append_of_not_mem hown.2]
      simp [beforeMark]
    rw [hlocation, fragmentOf, afterMark_append_of_mem hhash, ← fragmentOf,
      parse_first (by rw [hfirst]; simp), hfirst] at hparse
    cases fields with
    | nil => simp at hparse
    | cons f fields =>
        have hhead := congrArg Prod.fst (List.cons.inj hparse).1
        have hmem := hash_mem_decode (fragmentOf trimmed)
          (beforeMark '=' (beforeMark '&' (quote safe (render (f :: fields)))))
        rw [pair, beforeMark_append_of_not_mem hown.1] at hhead
        have hcut : beforeMark '=' ('#' :: beforeMark '&' (quote safe (render (f :: fields)))) =
            '#' :: beforeMark '=' (beforeMark '&' (quote safe (render (f :: fields)))) := by
          simp [beforeMark]
        rw [hcut] at hhead
        replace hhead : decode (fragmentOf trimmed ++ '#' ::
            beforeMark '=' (beforeMark '&' (quote safe (render (f :: fields))))) = utf8 f.name :=
          hhead
        rw [hhead] at hmem
        exact hash_not_mem_name (hnames f List.mem_cons_self) hmem
  · have hbefore : beforeMark '#' (quote safe (trimmed ++ '#' :: render fields)) = trimmed := by
      rw [hlocation, beforeMark_append hhash]
    have hself : beforeMark '#' trimmed = trimmed := beforeMark_eq_self hhash
    have hreduce : Carries .fragment trimmed (fields.map Field.meant)
        (quote safe (trimmed ++ '#' :: render fields)) ↔ ∀ f ∈ fields, f.Reads .fragment := by
      rw [← hfields]
      constructor
      · intro h
        have h' := h.fragment rfl
        rwa [hlocation, fragmentOf, afterMark_append hhash] at h'
      · intro h
        refine ⟨hstarts.mpr ⟨rfl, hkeeps⟩, ?_, ?_, fun _ => ?_⟩
        · rw [pathOf, hbefore, pathOf, hself]
        · rw [queryOf, hbefore, queryOf, hself]
          simp
        · rw [hlocation, fragmentOf, afterMark_append hhash]
          exact h
    rw [hreduce]
    exact ⟨fun h => ⟨rfl, hkeeps, fun _ => hhash, nofun, h⟩, fun h => h.2.fields⟩

/-- The last piece of a form. -/
theorem last_piece (form : List Char) :
    ∃ piece, '&' ∉ piece ∧ (form = piece ∨ ∃ front, form = front ++ '&' :: piece) := by
  induction form with
  | nil => exact ⟨[], by simp, .inl rfl⟩
  | cons c form ih =>
      obtain ⟨piece, hpiece, rfl | ⟨front, rfl⟩⟩ := ih
      · by_cases hc : c = '&'
        · subst hc
          exact ⟨form, hpiece, .inr ⟨[], rfl⟩⟩
        · exact ⟨c :: form, by simp [Ne.symm hc, hpiece], .inl rfl⟩
      · exact ⟨piece, hpiece, .inr ⟨c :: front, rfl⟩⟩

/-- A second `?` does not start a new parameter. -/
theorem parse_question_ne {form own : List Char} {f : List UInt8 × List UInt8}
    {params : List (List UInt8 × List UInt8)} (hform : parse form = f :: params)
    (hfirst : beforeMark '&' form ≠ []) : parse (own ++ '?' :: form) ≠ parse own ++ f :: params := by
  have hlonger : ∀ piece : List Char, '&' ∉ piece →
      parse (piece ++ '?' :: form) ≠ parse piece ++ f :: params := by
    intro piece hpiece h
    have hbefore : beforeMark '&' (piece ++ '?' :: form) =
        piece ++ '?' :: beforeMark '&' form := by
      rw [beforeMark_append_of_not_mem hpiece]
      simp [beforeMark]
    have hafter : afterMark '&' (piece ++ '?' :: form) = afterMark '&' form := by
      rcases beforeMark_afterMark '&' form with ⟨hnot, -, hnil⟩ | heq
      · rw [hnil]
        exact afterMark_eq_nil (by simp [hpiece, hnot])
      · conv_lhs => rw [heq, ← List.cons_append, ← List.append_assoc]
        apply afterMark_append
        have hnot := not_mem_beforeMark '&' form
        simp [hpiece, hnot]
    rw [parse_first (by rw [hbefore]; simp), hbefore, hafter] at h
    rw [parse_first hfirst] at hform
    obtain ⟨hf, hparams⟩ := List.cons.inj hform
    cases piece with
    | nil =>
        rw [parse_nil, List.nil_append, List.nil_append] at h
        have hname := congrArg (fun m : List UInt8 × List UInt8 => m.1.length) (List.cons.inj h).1
        have hcut : beforeMark '=' ('?' :: beforeMark '&' form) =
            '?' :: beforeMark '=' (beforeMark '&' form) := by simp [beforeMark]
        rw [← hf] at hname
        simp only [pair, hcut] at hname
        rw [decode_cons (by decide) fun h => absurd h.1 (by decide)] at hname
        have hpos := length_utf8EncodeChar_pos '?'
        simp only [List.length_append] at hname
        omega
    | cons c piece =>
        rw [parse_piece (by simp) hpiece] at h
        have hlength := congrArg List.length h
        rw [hparams] at hlength
        simp at hlength
  obtain ⟨piece, hpiece, rfl | ⟨front, rfl⟩⟩ := last_piece own
  · exact hlonger own hpiece
  · rw [parse_append, List.append_assoc, List.cons_append, parse_append, List.append_assoc]
    intro h
    exact hlonger piece hpiece (List.append_cancel_left h)

/-- **Parameters added after a `?`, whatever the URL.** -/
theorem carries_question_iff (hm : KeepsMarks safe) {base : List Char} {f : Field}
    (hname : Named f.name) (hreads : f.Reads .query) :
    Carries .query base [f.meant] (quote safe (base ++ '?' :: render [f])) ↔
      (∀ c ∈ base, keeps safe c = true) ∧ '#' ∉ base ∧ '?' ∉ base ∧ keeps safe '?' = true := by
  have hnames : ∀ g ∈ [f], Named g.name := by simpa using hname
  by_cases hquestion : '?' ∈ base
  swap
  · have hseparator : separator base = '?' := if_neg hquestion
    have h := carries_query_iff hm (by simp : base = base ++ List.replicate 0 '/')
      hnames
    rw [hseparator] at h
    refine h.trans ⟨?_, ?_⟩
    · rintro ⟨-, hcarriable⟩
      have hhash := hcarriable.hash (.inr (by simp))
      have hkeeps := hcarriable.separator rfl hhash
      rw [hseparator] at hkeeps
      exact ⟨hcarriable.kept, hhash, hquestion, hkeeps⟩
    · rintro ⟨hkeeps, hhash, -, hmark⟩
      refine ⟨rfl, hkeeps, fun _ => hhash, fun _ _ => ?_, by simpa using hreads⟩
      rwa [hseparator]
  · refine iff_of_false (fun h => ?_) fun h => h.2.2.1 hquestion
    have hstarts := starts_iff hm (by simp : base = base ++ List.replicate 0 '/')
      (by decide : '?' ≠ '/') (render [f])
    obtain ⟨-, hkeeps⟩ := hstarts.mp h.starts
    have hlocation : quote safe (base ++ '?' :: render [f]) =
        base ++ '?' :: quote safe (render [f]) := by
      rw [quote_append, quote_eq_self hkeeps, quote_cons, quoteChar_of_keeps (hkeeps _ hquestion)]
      rfl
    have hquery := h.query
    rw [hlocation, if_pos rfl] at hquery
    have hform := (parse_fields .query hm hnames).mpr (by simpa using hreads)
    by_cases hhash : '#' ∈ base
    · have hbefore : beforeMark '#' (base ++ '?' :: quote safe (render [f])) =
          beforeMark '#' base := beforeMark_append_of_mem hhash _
      rw [queryOf, hbefore] at hquery
      exact absurd (List.self_eq_append_right.mp hquery) (by simp)
    · have hbefore : beforeMark '#' (base ++ '?' :: quote safe (render [f])) =
          base ++ '?' :: Part.query.cut (quote safe (render [f])) := by
        rw [beforeMark_append_of_not_mem hhash]
        rfl
      have hpiece : beforeMark '&' (Part.query.cut (quote safe (render [f]))) ≠ [] := by
        intro hnil
        have hrender : quote safe (render [f]) =
            f.name ++ '=' :: quote safe f.text := by
          rw [render, quote_append, quote_name hname, quote_cons,
            quoteChar_of_keeps (keeps_of_safe hm.equals)]
          rfl
        have hends : ∀ c ∈ f.name, Part.query.ends c = false := fun c hc =>
          ends_of_unreserved (hname.2 c hc) _
        have hand : '&' ∉ f.name := not_mem_name hname (by decide)
        rw [hrender, cut_append hends, beforeMark_append_of_not_mem hand] at hnil
        exact hname.1 (List.append_eq_nil_iff.mp hnil).1
      rw [queryOf, hbefore, afterMark_append_of_mem hquestion, queryOf,
        beforeMark_eq_self hhash] at hquery
      exact parse_question_ne hform hpiece hquery

end Fields

end FormUrl
