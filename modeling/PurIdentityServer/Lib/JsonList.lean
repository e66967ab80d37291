import PurIdentityServer.Lib.JsonText

/-!
# JsonList — lists of strings as compact JSON text

`dumps` writes a list of strings as Python's `json.dumps` does with
`ensure_ascii=False` and compact separators: quotation marks, backslashes
and control characters escaped, every other character as it is. `loads`
reads an array of strings, with any white space between its tokens. A list
that was written is read back (`loads_dumps`).
-/

namespace JsonList

open JsonText

/-! ## Writing -/

/-- A character of a string; only control characters take a hexadecimal escape. -/
def quoteChar (c : Char) : List Char :=
  match shortEscapes.find? fun escape => escape.1 = c with
  | some escape => ['\\', escape.2]
  | none => if c.toNat < 0x20 then escapeUnit c.toNat else [c]

/-- A string, between its quotation marks. -/
def quote (s : List Char) : List Char := '"' :: (s.flatMap quoteChar ++ ['"'])

def items : List String → List Char
  | [] => []
  | [s] => quote s.toList
  | s :: t :: rest => quote s.toList ++ ',' :: items (t :: rest)

/-- `json.dumps(values, ensure_ascii=False, separators=(",", ":"))` -/
def dumps (values : List String) : String := String.ofList ('[' :: (items values ++ [']']))

/-! ## Reading -/

/-- The items up to the closing bracket; the fuel bounds their number. -/
def readItems : Nat → List Char → Option (List String × List Char)
  | 0, _ => none
  | fuel + 1, s => do
      let (value, rest) ← readString s
      match expect ',' rest with
      | some rest => do
          let (more, rest) ← readItems fuel rest
          some (value :: more, rest)
      | none => do
          let rest ← expect ']' rest
          some ([value], rest)

def readArray (s : List Char) : Option (List String × List Char) := do
  let rest ← expect '[' s
  match expect ']' rest with
  | some rest => some ([], rest)
  | none => readItems rest.length rest

/-- `json.loads` of an array of strings. -/
def loads (text : String) : Option (List String) :=
  match readArray text.toList with
  | some (values, rest) => if skipSpace rest = [] then some values else none
  | none => none

/-! ## A list is read back -/

theorem readChar_plain {c : Char} (hlow : ¬ c.toNat < 0x20)
    (hplain : shortEscapes.find? (fun escape => escape.1 = c) = none) (rest : List Char) :
    readChar (c :: rest) = some (c, rest) := by
  have hquote : c ≠ '"' := by
    rintro rfl
    exact absurd hplain (by decide)
  have hslash : c ≠ '\\' := by
    rintro rfl
    exact absurd hplain (by decide)
  simp [readChar, hquote, hslash, hlow]

theorem quoting_quoteChar : Quoting quoteChar where
  read c rest := by
    rw [quoteChar]
    cases hfind : shortEscapes.find? fun escape => escape.1 = c with
    | some escape =>
        have hc : escape.1 = c := by simpa using List.find?_some hfind
        rw [← hc]
        exact readChar_short (List.mem_of_find?_eq_some hfind) rest
    | none =>
        dsimp only
        split
        · exact readChar_unit (by omega) rest
        · rename_i hlow
          exact readChar_plain hlow hfind rest
  head c := by
    rw [quoteChar]
    cases hfind : shortEscapes.find? fun escape => escape.1 = c with
    | some escape => exact ⟨'\\', [escape.2], rfl, by decide⟩
    | none =>
        dsimp only
        split
        · exact ⟨'\\', _, rfl, by decide⟩
        · refine ⟨c, [], rfl, ?_⟩
          rintro rfl
          exact absurd hfind (by decide)

theorem readString_quote (value : String) (rest : List Char) :
    readString (quote value.toList ++ rest) = some (value, rest) := by
  simp only [quote, List.cons_append, List.append_assoc, List.nil_append]
  rw [readString_flatMap quoting_quoteChar, String.ofList_toList]

theorem readItems_items (values : List String) (hvalues : values ≠ []) (rest : List Char)
    {fuel : Nat} (h : values.length ≤ fuel) :
    readItems fuel (items values ++ ']' :: rest) = some (values, rest) := by
  induction values generalizing fuel with
  | nil => exact absurd rfl hvalues
  | cons value values ih =>
      obtain ⟨fuel, rfl⟩ : ∃ n, fuel = n + 1 := ⟨fuel - 1, by simp at h; omega⟩
      simp only [List.length_cons] at h
      cases values with
      | nil =>
          rw [items, readItems, readString_quote]
          simp only [Option.bind_eq_bind, Option.bind_some]
          rw [expect_of_ne (by decide) (by decide), expect_self (by decide)]
          rfl
      | cons next values =>
          have hmore : readItems fuel (items (next :: values) ++ ']' :: rest) =
              some (next :: values, rest) := ih (by simp) (by omega)
          rw [items, readItems, List.append_assoc, readString_quote]
          simp only [Option.bind_eq_bind, Option.bind_some, List.cons_append]
          rw [expect_self (by decide)]
          simp only [hmore, Option.bind_some]

/-- The items start with a quotation mark. -/
theorem items_cons (value : String) (values : List String) :
    ∃ tail, items (value :: values) = '"' :: tail := by
  cases values with
  | nil => exact ⟨_, rfl⟩
  | cons next values => exact ⟨_, rfl⟩

theorem length_le_items (values : List String) : values.length ≤ (items values).length := by
  induction values with
  | nil => simp
  | cons value values ih =>
      cases values with
      | nil => simp [items, quote]
      | cons next values =>
          simp only [items, List.length_append, List.length_cons] at ih ⊢
          omega

theorem readArray_items (values : List String) :
    readArray ('[' :: (items values ++ [']'])) = some (values, []) := by
  rw [readArray, expect_self (by decide)]
  simp only [Option.bind_eq_bind, Option.bind_some]
  cases values with
  | nil => rfl
  | cons value values =>
      obtain ⟨tail, htail⟩ := items_cons value values
      have hlength := length_le_items (value :: values)
      have hfuel : (value :: values).length ≤ (items (value :: values) ++ [']']).length := by
        simp only [List.length_append]
        omega
      have hread := readItems_items (value :: values) (by simp) [] hfuel
      rw [htail] at hread ⊢
      rw [List.cons_append, expect_of_ne (by decide) (by decide)]
      exact hread

/-- A list that was written is read back. -/
theorem loads_dumps (values : List String) : loads (dumps values) = some values := by
  rw [loads, dumps, String.toList_ofList, readArray_items]
  rfl

end JsonList
