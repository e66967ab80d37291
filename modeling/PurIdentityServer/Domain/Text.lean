import Mathlib.Data.Finset.Sort
import Mathlib.Data.String.Basic

/-!
# Text — the Python values the server computes on

Strings as Python handles them (`split`, `strip`, `rstrip("/")`,
`startswith`, `join`), JSON values, instants in microseconds, the
exceptions that can leave a use case, and the library functions the
server only calls (`hashlib`, `hmac`, `json`, `urllib.parse`), gathered
in `Platform`. Everything string-like is structural over characters.
-/

namespace PurIdentityServer

/-- Microseconds since the epoch (`datetime` in UTC). -/
abbrev Instant := Int

/-- `timedelta(seconds=n)`. -/
def seconds (n : Int) : Int := n * 1000000

/-- `int(moment.timestamp())`. -/
def Instant.epoch (t : Instant) : Int := Int.tdiv t 1000000

/-- An exception raised by the code or by a library it calls. -/
inductive Raised where
  | jweUnavailable (message : String)
  | authorizationDetails (message : String)
  | other (message : String)
  deriving DecidableEq, Repr

/-- A value decoded from JSON; numbers keep their text. -/
inductive Json where
  | null
  | bool (b : Bool)
  | num (text : String)
  | str (s : String)
  | arr (items : List Json)
  | obj (members : List (String × Json))

namespace Json

/-- `data.get(name)` of a decoded object. -/
def member (name : String) : Json → Option Json
  | .obj members => (members.find? fun m => m.1 = name).map Prod.snd
  | _ => none

def asStr : Json → Option String
  | .str s => some s
  | _ => none

/-- `data[name] = value` of a dictionary. -/
def setMember (members : List (String × Json)) (name : String) (value : Json) :
    List (String × Json) :=
  if name ∈ members.map Prod.fst then
    members.map fun m => if m.1 = name then (name, value) else m
  else members ++ [(name, value)]

/-- `data.update(other)`. -/
def update (members other : List (String × Json)) : List (String × Json) :=
  other.foldl (fun acc m => setMember acc m.1 m.2) members

end Json

namespace Text

/-- `str.isspace` on one character. -/
def isSpace (c : Char) : Bool :=
  let n := c.toNat
  (9 ≤ n && n ≤ 13) || (28 ≤ n && n ≤ 32) || n == 133 || n == 160 || n == 5760 ||
    (8192 ≤ n && n ≤ 8202) || n == 8232 || n == 8233 || n == 8239 || n == 8287 ||
    n == 12288

/-- The words of a character list; `word` is the word being read, reversed. -/
def words : List Char → List Char → List String
  | [], word => if word.isEmpty then [] else [String.ofList word.reverse]
  | c :: cs, word =>
      if isSpace c then
        if word.isEmpty then words cs [] else String.ofList word.reverse :: words cs []
      else words cs (c :: word)

/-- `value.split()`. -/
def split (s : String) : List String := words s.toList []

/-- Drop from the end the characters that satisfy `p`. -/
def rdropWhile (p : Char → Bool) (cs : List Char) : List Char :=
  (cs.reverse.dropWhile p).reverse

/-- `value.strip()`. -/
def strip (s : String) : String :=
  String.ofList (rdropWhile isSpace (s.toList.dropWhile isSpace))

/-- `value.rstrip("/")`. -/
def rstripSlash (s : String) : String :=
  String.ofList (rdropWhile (· = '/') s.toList)

/-- `value.startswith(head)`. -/
def startsWith (s head : String) : Bool := head.toList.isPrefixOf s.toList

/-- `sep.join(parts)`. -/
def join (sep : String) : List String → String
  | [] => ""
  | [s] => s
  | s :: t :: rest => s ++ sep ++ join sep (t :: rest)

/-- `value.isascii()`. -/
def isAscii (s : String) : Bool := s.toList.all fun c => c.toNat < 128

/-- `sorted(names)` of a set of strings. -/
def sorted (names : Finset String) : List String := names.sort (· ≤ ·)

/-- Duplicates removed, first occurrences kept in order. -/
def dedupFirst : List String → List String → List String
  | [], seen => seen.reverse
  | s :: rest, seen => if s ∈ seen then dedupFirst rest seen else dedupFirst rest (s :: seen)

theorem mem_dedupFirst {s : String} {l seen : List String} :
    s ∈ dedupFirst l seen ↔ s ∈ seen ∨ s ∈ l := by
  induction l generalizing seen with
  | nil => simp [dedupFirst]
  | cons t rest ih =>
      unfold dedupFirst
      split
      · rename_i ht
        rw [ih, List.mem_cons]
        constructor
        · rintro (h | h)
          · exact .inl h
          · exact .inr (.inr h)
        · rintro (h | rfl | h)
          · exact .inl h
          · exact .inl ht
          · exact .inr h
      · rw [ih, List.mem_cons, List.mem_cons]
        constructor
        · rintro ((h | h) | h)
          · exact .inr (.inl h)
          · exact .inl h
          · exact .inr (.inr h)
        · rintro (h | h | h)
          · exact .inl (.inr h)
          · exact .inl (.inl h)
          · exact .inr h

end Text

/-- The parts of `urlsplit` the server reads. -/
structure UrlParts where
  scheme : String := ""
  netloc : String := ""
  path : String := ""
  query : String := ""
  fragment : String := ""
  hostname : Option String := none
  /-- `none` when there is none, or when reading it raises `ValueError` -/
  port : Option Nat := none

/-- The library functions the server calls and never looks into. Every
result below holds for any choice of them. -/
structure Platform where
  /-- `hashlib.sha256(s.encode()).hexdigest()` -/
  sha256Hex : String → String
  /-- base64url of the SHA-256 of an ASCII string, without padding -/
  sha256Base64Url : String → String
  /-- base64url of the SHA-256 of a byte string, without padding -/
  sha256Der : List UInt8 → String
  /-- base64url of `hmac.new(seed, message, sha256)`, without padding -/
  hmacBase64Url : (seed message : String) → String
  /-- `json.loads`, `none` when it raises `ValueError` -/
  jsonLoads : String → Option Json
  /-- `json.dumps` with sorted keys and compact separators -/
  jsonDumps : Json → String
  /-- `str(value)` of a decoded value that is not a string -/
  pyStr : Json → String
  /-- `value.upper()` -/
  upper : String → String
  urlsplit : String → Except Raised UrlParts
  /-- `jwt.decode` without verification, `none` when it raises -/
  jwtDecode : String → Option (List (String × Json))
  /-- the base64url JSON payload of a compact JWT, `none` when unreadable -/
  jwtPayload : String → Option (List (String × Json))

end PurIdentityServer
