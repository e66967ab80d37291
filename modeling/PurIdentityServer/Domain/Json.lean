import PurIdentityServer.Domain.Text
import PurIdentityServer.Lib.Dict

/-!
# Json — reading decoded JSON as Python does

Objects are dictionaries (`Members`), numbers keep the text they were
written with. `int(value)` and `dict(value)` are spelled out on every
kind of value, because the server applies them to claims it has not
typed yet, and what they raise is not always what the caller catches.
-/

namespace PurIdentityServer

open Effects

/-- The members of a JSON object. -/
abbrev Members := Dict String Json

namespace Json

/-- The two exceptions of Python's conversions. -/
inductive ConversionError where
  | typeError | valueError
  deriving DecidableEq, Repr

/-- `isinstance(value, Mapping)`. -/
def asMembers : Json → Option Members
  | .obj members => some members
  | _ => none

/-- `isinstance(value, list)`. -/
def asList : Json → Option (List Json)
  | .arr items => some items
  | _ => none

/-- `value is None` -/
def isNull : Json → Bool
  | .null => true
  | _ => false

/-- A list of strings, `none` when an item is not one. -/
def strings : List Json → Option (List String)
  | [] => some []
  | .str s :: rest => (strings rest).map (s :: ·)
  | _ :: _ => none

/-! ## Setting members -/

/-- Replacing the values of one name. -/
theorem get_replace (members : Members) (name : String) (value : Json) (k : String) :
    Dict.get (members.map fun m => if m.1 = name then (name, value) else m) k =
      if k = name then (Dict.get members name).map fun _ => value else Dict.get members k := by
  induction members with
  | nil => simp
  | cons item rest ih =>
      rw [List.map_cons, Dict.get_cons, Dict.get_cons, Dict.get_cons, ih]
      by_cases hname : item.1 = name
      · by_cases hk : k = name
        · simp [hname, hk]
        · have hne : ¬name = k := fun h => hk h.symm
          simp [hname, hk, hne]
      · by_cases hk : k = name
        · simp [hname, hk]
        · simp [hname, hk]

theorem get_setMember (members : Members) (name : String) (value : Json) (k : String) :
    Dict.get (setMember members name value) k =
      if k = name then some value else Dict.get members k := by
  unfold setMember
  split
  · rename_i hmem
    rw [get_replace]
    by_cases hk : k = name
    · rw [if_pos hk, if_pos hk]
      cases hget : Dict.get members name with
      | none => exact absurd hmem (Dict.get_eq_none.mp hget)
      | some found => rfl
    · rw [if_neg hk, if_neg hk]
  · rename_i hmem
    rw [Dict.get_append, Dict.get_cons, Dict.get_nil]
    by_cases hk : k = name
    · subst hk
      rw [Dict.get_eq_none.mpr hmem]
      simp
    · have hne : ¬name = k := fun h => hk h.symm
      simp [hk, hne]

theorem get_update (members other : Members) (k : String) :
    Dict.get (update members other) k =
      (Dict.get (Dict.update [] other) k).or (Dict.get members k) := by
  induction other generalizing members with
  | nil => rfl
  | cons item rest ih =>
      show Dict.get (update (setMember members item.1 item.2) rest) k
        = (Dict.get (Dict.update (Dict.set [] item.1 item.2) rest) k).or (Dict.get members k)
      rw [ih, get_setMember, Dict.get_update_or (Dict.set [] item.1 item.2), Dict.get_set,
        Option.or_assoc]
      by_cases hk : k = item.1
      · rw [if_pos hk, if_pos hk, Option.some_or]
      · rw [if_neg hk, if_neg hk, Dict.get_nil, Option.none_or]

/-! ## Numbers -/

/-- The natural number a run of digits spells, `none` on any other character. -/
def digits : List Char → Option Nat
  | [] => none
  | cs => cs.foldl (fun acc c =>
      acc.bind fun n => if c.isDigit then some (10 * n + (c.toNat - 48)) else none) (some 0)

/-- An optional sign, then digits. -/
def signedDigits : List Char → Option Int
  | '-' :: cs => (digits cs).map fun n => -(n : Int)
  | '+' :: cs => (digits cs).map Int.ofNat
  | cs => (digits cs).map Int.ofNat

/-- The integer part of `mantissa · 10 ^ exponent`, towards zero. -/
def scale (mantissa exponent : Int) : Int :=
  if 0 ≤ exponent then mantissa * Int.pow 10 exponent.toNat
  else Int.tdiv mantissa (Int.pow 10 (-exponent).toNat)

/-- A JSON number, truncated towards zero. -/
def truncated (text : String) : Int :=
  let cs := text.toList
  let mantissa := cs.takeWhile fun c => c ≠ 'e' && c ≠ 'E'
  let exponent := ((signedDigits (cs.drop (mantissa.length + 1))).getD 0)
  let whole := mantissa.takeWhile (· ≠ '.')
  let fraction := mantissa.drop (whole.length + 1)
  scale ((signedDigits (whole ++ fraction)).getD 0) (exponent - fraction.length)

/-- `int(value)`. -/
def toInt : Json → Except ConversionError Int
  | .null => .error .typeError
  | .bool b => .ok (if b then 1 else 0)
  | .num text => .ok (truncated text)
  | .str s =>
      match signedDigits (Text.strip s).toList with
      | some n => .ok n
      | none => .error .valueError
  | .arr _ => .error .typeError
  | .obj _ => .error .typeError

example : toInt (.num "1760003600") = .ok 1760003600 := by decide
example : toInt (.num "-1.5e1") = .ok (-15) := by decide

/-- `bool(value)`: a number is false when its digits are all zero. -/
def truthy : Json → Bool
  | .null => false
  | .bool b => b
  | .num text => (text.toList.takeWhile fun c => c ≠ 'e' && c ≠ 'E').any fun c =>
      c.isDigit && c ≠ '0'
  | .str s => s ≠ ""
  | .arr items => !items.isEmpty
  | .obj members => !members.isEmpty

/-! ## `dict(value)` -/

/-- The key and value an item of `dict(items)` gives: any iterable of two. -/
def pairOf : Json → Option (Json × Json)
  | .arr [k, v] => some (k, v)
  | .obj [m, n] => some (.str m.1, .str n.1)
  | .str s =>
      match s.toList with
      | [k, v] => some (.str (String.singleton k), .str (String.singleton v))
      | _ => none
  | _ => none

/-- The items of `dict(items)`. A key that is not a string is left out:
no code looks one up. -/
def dictOfItems : List Json → Except ConversionError Members
  | [] => .ok []
  | item :: rest =>
      match pairOf item with
      | some (.str k, v) => do
          let members ← dictOfItems rest
          .ok ((k, v) :: members)
      | some (.arr _, _) => .error .typeError
      | some (.obj _, _) => .error .typeError
      | some _ => dictOfItems rest
      | none => .error .valueError

/-- `dict(value)`. -/
def dictOf : Json → Except ConversionError Members
  | .obj members => .ok members
  | .arr items => (dictOfItems items).map fun members => Dict.update [] members
  | .str s => if s = "" then .ok [] else .error .valueError
  | _ => .error .typeError

end Json

end PurIdentityServer
