import PurIdentityServer.Lib.Dict
import PurIdentityServer.Lib.FormUrl

/-!
# JsonText — dictionaries of strings as JSON text

`dumps` writes a dictionary of strings as Python's `json.dumps` does:
printable ASCII as it is, the rest escaped, a character beyond U+FFFF as
two surrogates, `", "` and `": "` between the items. `loads` reads an
object whose values are strings, with any white space between its tokens.

A text that was written is read back (`loads_dumps`), and a dictionary
is the one that was written when its keys are distinct (`ofItems_of_nodup`).
-/

namespace JsonText

open Effects
open FormUrl (hexValue)

/-! ## Writing -/

/-- A hexadecimal digit, in lower case. -/
def hexDigit (n : Nat) : Char := if n < 10 then Char.ofNat (48 + n) else Char.ofNat (87 + n)

/-- Four hexadecimal digits. -/
def hex4 (n : Nat) : List Char :=
  [hexDigit (n / 4096), hexDigit (n / 256 % 16), hexDigit (n / 16 % 16), hexDigit (n % 16)]

/-- `\uXXXX` -/
def escapeUnit (n : Nat) : List Char := '\\' :: 'u' :: hex4 n

/-- The escapes of one letter. -/
def shortEscapes : List (Char × Char) :=
  [('"', '"'), ('\\', '\\'), ('\n', 'n'), ('\r', 'r'), ('\t', 't'), ('\x0c', 'f'),
    ('\x08', 'b')]

/-- The character is written as it is. -/
def printable (c : Char) : Bool := ' ' ≤ c && c ≤ '~'

def quoteChar (c : Char) : List Char :=
  match shortEscapes.find? fun escape => escape.1 = c with
  | some escape => ['\\', escape.2]
  | none =>
      if printable c then [c]
      else if c.toNat < 0x10000 then escapeUnit c.toNat
      else
        escapeUnit (0xD800 + (c.toNat - 0x10000) / 1024) ++
          escapeUnit (0xDC00 + (c.toNat - 0x10000) % 1024)

/-- A string, between its quotation marks. -/
def quote (s : List Char) : List Char := '"' :: (s.flatMap quoteChar ++ ['"'])

def item (i : String × String) : List Char := quote i.1.toList ++ ':' :: ' ' :: quote i.2.toList

def items : Dict String String → List Char
  | [] => []
  | [i] => item i
  | i :: j :: rest => item i ++ ',' :: ' ' :: items (j :: rest)

/-- `json.dumps` of a dictionary of strings. -/
def dumps (d : Dict String String) : String := String.ofList ('\x7b' :: (items d ++ ['\x7d']))

/-! ## Reading -/

def isSpace (c : Char) : Bool := c = ' ' || c = '\t' || c = '\n' || c = '\r'

def skipSpace (s : List Char) : List Char := s.dropWhile isSpace

/-- A given character, after white space. -/
def expect (mark : Char) (s : List Char) : Option (List Char) :=
  match skipSpace s with
  | c :: rest => if c = mark then some rest else none
  | [] => none

def readUnit : List Char → Option (Nat × List Char)
  | a :: b :: c :: d :: rest => do
      let a ← hexValue a
      let b ← hexValue b
      let c ← hexValue c
      let d ← hexValue d
      some (4096 * a + 256 * b + 16 * c + d, rest)
  | _ => none

/-- What follows `\u`: a character, or the first of two surrogates. -/
def readEscaped (s : List Char) : Option (Char × List Char) :=
  match readUnit s with
  | none => none
  | some (high, rest) =>
      if 0xD800 ≤ high ∧ high < 0xE000 then
        match rest with
        | '\\' :: 'u' :: rest =>
            match readUnit rest with
            | some (low, rest) =>
                if high < 0xDC00 ∧ 0xDC00 ≤ low ∧ low < 0xE000 then
                  some (Char.ofNat (0x10000 + 1024 * (high - 0xD800) + (low - 0xDC00)), rest)
                else none
            | none => none
        | _ => none
      else some (Char.ofNat high, rest)

/-- The character an escape of one letter stands for. -/
def ofLetter (letter : Char) : Option Char :=
  if letter = '/' then some '/'
  else (shortEscapes.find? fun escape => escape.2 = letter).map Prod.fst

/-- A character of a string. -/
def readChar : List Char → Option (Char × List Char)
  | '\\' :: 'u' :: rest => readEscaped rest
  | '\\' :: letter :: rest => (ofLetter letter).map fun c => (c, rest)
  | c :: rest => if c.toNat < 0x20 ∨ c = '"' ∨ c = '\\' then none else some (c, rest)
  | [] => none

/-- The characters up to the quotation mark; the fuel bounds their number. -/
def readChars : Nat → List Char → Option (List Char × List Char)
  | 0, _ => none
  | _ + 1, '"' :: rest => some ([], rest)
  | fuel + 1, s => do
      let (c, rest) ← readChar s
      let (more, rest) ← readChars fuel rest
      some (c :: more, rest)

/-- A string, after white space. -/
def readString (s : List Char) : Option (String × List Char) := do
  let rest ← expect '"' s
  let (chars, rest) ← readChars (rest.length + 1) rest
  some (String.ofList chars, rest)

/-- A name, a colon and a string. -/
def readItem (s : List Char) : Option ((String × String) × List Char) := do
  let (name, rest) ← readString s
  let rest ← expect ':' rest
  let (value, rest) ← readString rest
  some ((name, value), rest)

/-- The items up to the closing brace; the fuel bounds their number. -/
def readItems : Nat → List Char → Option (Dict String String × List Char)
  | 0, _ => none
  | fuel + 1, s => do
      let (i, rest) ← readItem s
      match expect ',' rest with
      | some rest => do
          let (more, rest) ← readItems fuel rest
          some (i :: more, rest)
      | none => do
          let rest ← expect '\x7d' rest
          some ([i], rest)

def readObject (s : List Char) : Option (Dict String String × List Char) := do
  let rest ← expect '\x7b' s
  match expect '\x7d' rest with
  | some rest => some ([], rest)
  | none => readItems rest.length rest

/-- The items of `json.loads`, in the order of the text. -/
def loads (text : String) : Option (Dict String String) :=
  match readObject text.toList with
  | some (d, rest) => if skipSpace rest = [] then some d else none
  | none => none

/-- The dictionary of items: the last value of a name counts. -/
def ofItems (d : Dict String String) : Dict String String := Dict.update [] d

/-! ## A character is read back -/

theorem hexValue_hexDigit {n : Nat} (h : n < 16) : hexValue (hexDigit n) = some n := by
  have hdigits : ∀ n < 16, hexValue (hexDigit n) = some n := by decide
  exact hdigits n h

theorem readUnit_hex4 {n : Nat} (h : n < 0x10000) (rest : List Char) :
    readUnit (hex4 n ++ rest) = some (n, rest) := by
  have hvalue : 4096 * (n / 4096) + 256 * (n / 256 % 16) + 16 * (n / 16 % 16) + n % 16 = n := by
    omega
  simp only [hex4, List.cons_append, List.nil_append, readUnit]
  rw [hexValue_hexDigit (by omega), hexValue_hexDigit (by omega), hexValue_hexDigit (by omega),
    hexValue_hexDigit (by omega)]
  simp [hvalue]

theorem readChar_escapeUnit (n : Nat) (rest : List Char) :
    readChar (escapeUnit n ++ rest) = readEscaped (hex4 n ++ rest) := rfl

/-- A character is no surrogate. -/
theorem toNat_range (c : Char) :
    c.toNat < 0xD800 ∨ 0xE000 ≤ c.toNat ∧ c.toNat < 0x110000 := by
  have hvalid : c.toNat.isValidChar := c.valid
  simp only [Nat.isValidChar] at hvalid
  omega

theorem readChar_unit {c : Char} (h : c.toNat < 0x10000) (rest : List Char) :
    readChar (escapeUnit c.toNat ++ rest) = some (c, rest) := by
  have hrange := toNat_range c
  have hsingle : ¬(0xD800 ≤ c.toNat ∧ c.toNat < 0xE000) := by omega
  rw [readChar_escapeUnit]
  simp [readEscaped, readUnit_hex4 h, hsingle, Char.ofNat_toNat]

/-- Two surrogates are one character. -/
theorem readEscaped_pair {high low : Nat} (hhigh : 0xD800 ≤ high ∧ high < 0xDC00)
    (hlow : 0xDC00 ≤ low ∧ low < 0xE000) (rest : List Char) :
    readEscaped (hex4 high ++ (escapeUnit low ++ rest)) =
      some (Char.ofNat (0x10000 + 1024 * (high - 0xD800) + (low - 0xDC00)), rest) := by
  have hsurrogate : 0xD800 ≤ high ∧ high < 0xE000 := by omega
  have hpair : high < 0xDC00 ∧ 0xDC00 ≤ low ∧ low < 0xE000 := by omega
  rw [readEscaped, readUnit_hex4 (by omega)]
  simp only [if_pos hsurrogate, escapeUnit, List.cons_append]
  rw [readUnit_hex4 (by omega)]
  simp only [if_pos hpair]

theorem readChar_pair {c : Char} (h : ¬c.toNat < 0x10000) (rest : List Char) :
    readChar (escapeUnit (0xD800 + (c.toNat - 0x10000) / 1024) ++
      escapeUnit (0xDC00 + (c.toNat - 0x10000) % 1024) ++ rest) = some (c, rest) := by
  have hrange := toNat_range c
  have hvalue : 0x10000 + 1024 * (0xD800 + (c.toNat - 0x10000) / 1024 - 0xD800) +
      (0xDC00 + (c.toNat - 0x10000) % 1024 - 0xDC00) = c.toNat := by omega
  rw [List.append_assoc, readChar_escapeUnit, readEscaped_pair (by omega) (by omega), hvalue,
    Char.ofNat_toNat]

theorem readChar_short {escape : Char × Char} (h : escape ∈ shortEscapes) (rest : List Char) :
    readChar ('\\' :: escape.2 :: rest) = some (escape.1, rest) := by
  simp only [shortEscapes, List.mem_cons, List.not_mem_nil, or_false] at h
  rcases h with rfl | rfl | rfl | rfl | rfl | rfl | rfl <;> rfl

theorem readChar_printable {c : Char} (h : printable c = true)
    (hplain : shortEscapes.find? (fun escape => escape.1 = c) = none) (rest : List Char) :
    readChar (c :: rest) = some (c, rest) := by
  have hquote : c ≠ '"' := by
    rintro rfl
    exact absurd hplain (by decide)
  have hslash : c ≠ '\\' := by
    rintro rfl
    exact absurd hplain (by decide)
  have hlow : ¬c.toNat < 0x20 := by
    simp only [printable, Bool.and_eq_true, decide_eq_true_eq] at h
    have hle : ' '.toNat ≤ c.toNat := h.1
    simpa using hle
  simp [readChar, hquote, hslash, hlow]

/-- A character that was written is read back. -/
theorem readChar_quoteChar (c : Char) (rest : List Char) :
    readChar (quoteChar c ++ rest) = some (c, rest) := by
  rw [quoteChar]
  cases hfind : shortEscapes.find? fun escape => escape.1 = c with
  | some escape =>
      have hc : escape.1 = c := by simpa using List.find?_some hfind
      rw [← hc]
      exact readChar_short (List.mem_of_find?_eq_some hfind) rest
  | none =>
      dsimp only
      split
      · rename_i hprintable
        exact readChar_printable hprintable hfind rest
      split
      · rename_i hsmall
        exact readChar_unit hsmall rest
      · rename_i hlarge
        exact readChar_pair hlarge rest

/-! ## A text is read back -/

/-- No character is written with a quotation mark first. -/
theorem quoteChar_cons (c : Char) : ∃ x tail, quoteChar c = x :: tail ∧ x ≠ '"' := by
  rw [quoteChar]
  cases hfind : shortEscapes.find? fun escape => escape.1 = c with
  | some escape => exact ⟨'\\', [escape.2], rfl, by decide⟩
  | none =>
      dsimp only
      split
      · refine ⟨c, [], rfl, ?_⟩
        rintro rfl
        exact absurd hfind (by decide)
      split
      · exact ⟨'\\', _, rfl, by decide⟩
      · exact ⟨'\\', _, rfl, by decide⟩

/-- A way of writing characters that reads back, and never starts with a quotation mark. -/
structure Quoting (write : Char → List Char) : Prop where
  read : ∀ c rest, readChar (write c ++ rest) = some (c, rest)
  head : ∀ c, ∃ x tail, write c = x :: tail ∧ x ≠ '"'

theorem quoting_quoteChar : Quoting quoteChar where
  read := readChar_quoteChar
  head := quoteChar_cons

section Quoted

variable {write : Char → List Char} (hwrite : Quoting write)
include hwrite

theorem readChars_cons (fuel : Nat) (c : Char) (rest : List Char) :
    readChars (fuel + 1) (write c ++ rest) =
      (readChars fuel rest).map fun read => (c :: read.1, read.2) := by
  obtain ⟨x, tail, hcons, hquote⟩ := hwrite.head c
  have hread := hwrite.read c rest
  rw [hcons, List.cons_append] at hread ⊢
  rw [readChars]
  · rw [hread]
    cases hmore : readChars fuel rest <;> simp [hmore]
  · intro rest' heq
    exact hquote (List.cons.inj heq).1

theorem readChars_flatMap (s rest : List Char) {fuel : Nat} (h : s.length < fuel) :
    readChars fuel (s.flatMap write ++ '"' :: rest) = some (s, rest) := by
  induction s generalizing fuel with
  | nil =>
      obtain ⟨fuel, rfl⟩ := Nat.exists_eq_add_of_lt h
      rfl
  | cons c s ih =>
      obtain ⟨fuel, rfl⟩ : ∃ n, fuel = n + 1 := ⟨fuel - 1, by omega⟩
      simp only [List.length_cons] at h
      rw [List.flatMap_cons, List.append_assoc, readChars_cons hwrite, ih (by omega)]
      rfl

theorem length_le_flatMap (s : List Char) : s.length ≤ (s.flatMap write).length := by
  induction s with
  | nil => simp
  | cons c s ih =>
      obtain ⟨x, tail, hcons, -⟩ := hwrite.head c
      simp only [List.flatMap_cons, List.length_append, List.length_cons, hcons]
      omega

end Quoted

@[simp] theorem expect_self {mark : Char} (h : isSpace mark = false) (rest : List Char) :
    expect mark (mark :: rest) = some rest := by
  simp [expect, skipSpace, h]

@[simp] theorem expect_space (mark : Char) (rest : List Char) :
    expect mark (' ' :: rest) = expect mark rest := by
  simp [expect, skipSpace, isSpace]

theorem expect_of_ne {mark c : Char} (h : isSpace c = false) (hc : c ≠ mark)
    (rest : List Char) : expect mark (c :: rest) = none := by
  simp [expect, skipSpace, h, hc]

/-- A string between its quotation marks is read back. -/
theorem readString_flatMap {write : Char → List Char} (hwrite : Quoting write)
    (s rest : List Char) :
    readString ('"' :: (s.flatMap write ++ '"' :: rest)) = some (String.ofList s, rest) := by
  have hfuel : s.length < (s.flatMap write ++ '"' :: rest).length + 1 := by
    have hle := length_le_flatMap hwrite s
    simp only [List.length_append, List.length_cons]
    omega
  rw [readString, expect_self (by decide)]
  simp only [Option.bind_eq_bind, Option.bind_some]
  rw [readChars_flatMap hwrite s rest hfuel]
  rfl

theorem readString_quote (s rest : List Char) :
    readString (quote s ++ rest) = some (String.ofList s, rest) := by
  simp only [quote, List.cons_append, List.append_assoc, List.nil_append]
  exact readString_flatMap quoting_quoteChar s rest

theorem readString_space (rest : List Char) : readString (' ' :: rest) = readString rest := by
  simp [readString]

theorem readItem_item (i : String × String) (rest : List Char) :
    readItem (item i ++ rest) = some (i, rest) := by
  simp only [readItem, item, List.append_assoc, List.cons_append]
  rw [readString_quote]
  simp only [Option.bind_eq_bind, Option.bind_some]
  rw [expect_self (by decide)]
  simp only [Option.bind_some]
  rw [readString_space, readString_quote]
  simp

theorem readItem_space (rest : List Char) : readItem (' ' :: rest) = readItem rest := by
  simp [readItem, readString_space]

theorem readItems_space (fuel : Nat) (rest : List Char) :
    readItems fuel (' ' :: rest) = readItems fuel rest := by
  cases fuel with
  | zero => rfl
  | succ fuel => rw [readItems, readItems, readItem_space]

theorem readItems_items (d : Dict String String) (hd : d ≠ []) (rest : List Char) {fuel : Nat}
    (h : d.length ≤ fuel) : readItems fuel (items d ++ '\x7d' :: rest) = some (d, rest) := by
  induction d generalizing fuel with
  | nil => exact absurd rfl hd
  | cons i d ih =>
      obtain ⟨fuel, rfl⟩ : ∃ n, fuel = n + 1 := ⟨fuel - 1, by simp at h; omega⟩
      simp only [List.length_cons] at h
      cases d with
      | nil =>
          rw [items, readItems, readItem_item]
          simp only [Option.bind_eq_bind, Option.bind_some]
          rw [expect_of_ne (by decide) (by decide), expect_self (by decide)]
          rfl
      | cons j d =>
          have hmore : readItems fuel (items (j :: d) ++ '\x7d' :: rest) = some (j :: d, rest) :=
            ih (by simp) (by omega)
          rw [items, readItems, List.append_assoc, readItem_item]
          simp only [Option.bind_eq_bind, Option.bind_some, List.cons_append]
          rw [expect_self (by decide)]
          simp only [readItems_space, hmore, Option.bind_some]

/-- The items start with a quotation mark. -/
theorem items_cons (i : String × String) (d : Dict String String) :
    ∃ tail, items (i :: d) = '"' :: tail := by
  cases d with
  | nil => exact ⟨_, rfl⟩
  | cons j d => exact ⟨_, rfl⟩

theorem length_le_items (d : Dict String String) : d.length ≤ (items d).length := by
  induction d with
  | nil => simp
  | cons i d ih =>
      cases d with
      | nil => simp [items, item, quote]
      | cons j d =>
          simp only [items, List.length_append, List.length_cons] at ih ⊢
          omega

theorem readObject_dumps (d : Dict String String) :
    readObject ('\x7b' :: (items d ++ ['\x7d'])) = some (d, []) := by
  rw [readObject, expect_self (by decide)]
  simp only [Option.bind_eq_bind, Option.bind_some]
  cases d with
  | nil => rfl
  | cons i d =>
      obtain ⟨tail, htail⟩ := items_cons i d
      have hlength := length_le_items (i :: d)
      have hfuel : (i :: d).length ≤ (items (i :: d) ++ ['\x7d']).length := by
        simp only [List.length_append]
        omega
      have hread := readItems_items (i :: d) (by simp) [] hfuel
      rw [htail] at hread ⊢
      rw [List.cons_append, expect_of_ne (by decide) (by decide)]
      exact hread

/-- A dictionary that was written is read back. -/
theorem loads_dumps (d : Dict String String) : loads (dumps d) = some d := by
  rw [loads, dumps, String.toList_ofList, readObject_dumps]
  rfl

/-- The dictionary of items whose names are distinct is the list of them. -/
theorem ofItems_of_nodup {d : Dict String String} (h : (Dict.keys d).Nodup) : ofItems d = d :=
  Dict.update_of_nodup h

end JsonText
