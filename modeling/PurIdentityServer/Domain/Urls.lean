import PurIdentityServer.Domain.Text
import PurIdentityServer.Lib.Fallible
import PurIdentityServer.Lib.FormUrl

/-!
# Urls — `urllib.parse.urlsplit` and the origins of URIs

The parts of a URI as the library cuts them, the host and the port it reads
from the authority, and the two functions of the server that turn a URI
into a web origin. A text is a list of characters. What the library takes
from elsewhere (Unicode tables, addresses) is a `UrlLibrary`.
-/

namespace PurIdentityServer

open FormUrl

/-- What `urllib.parse` takes from other libraries. -/
structure UrlLibrary where
  /-- `str.lower` -/
  lower : List Char → List Char
  /-- `unicodedata.normalize("NFKC", text)` -/
  nfkc : List Char → List Char
  /-- `ipaddress.ip_address(text)` is an IPv6 address -/
  isIpv6 : List Char → Bool
  lower_ascii : ∀ text, (∀ c ∈ text, c.toNat < 128) → lower text = text.map Char.toLower
  lower_ne_nil : ∀ text, text ≠ [] → lower text ≠ []
  lower_head : ∀ text, (lower text).head? = some '[' → text.head? = some '['
  isIpv6_head : ∀ text, isIpv6 text = true → text.head? ≠ some '['

theorem toLower_eq_self {c : Char} (h : ¬(c.val ≥ 'A'.val ∧ c.val ≤ 'Z'.val)) : c.toLower = c :=
  dif_neg h

/-- Only small letters come from another character. -/
theorem eq_of_toLower {c d : Char} (h : c.toLower = d) (hd : d.toNat < 97) : c = d := by
  by_cases hupper : c.val ≥ 'A'.val ∧ c.val ≤ 'Z'.val
  · have hval := congrArg (fun c : Char => c.val.toNat) h
    have hlow : c.toLower.val = c.val + ('a'.val - 'A'.val) := congrArg Char.val (dif_pos hupper)
    simp only [hlow, UInt32.toNat_add] at hval
    have hlower : 'A'.val.toNat ≤ c.val.toNat := hupper.1
    have hupper : c.val.toNat ≤ 'Z'.val.toNat := hupper.2
    simp only [show 'A'.val.toNat = 65 from rfl, show 'Z'.val.toNat = 90 from rfl] at hlower hupper
    change (c.val.toNat + 32) % 4294967296 = d.val.toNat at hval
    have hd : d.val.toNat < 97 := hd
    omega
  · rwa [toLower_eq_self hupper] at h

theorem toLower_bracket {c : Char} (h : c.toLower = '[') : c = '[' :=
  eq_of_toLower h (by decide)

/-- The libraries on texts of ASCII characters, with no address of IPv6. -/
def UrlLibrary.ascii : UrlLibrary where
  lower text := text.map Char.toLower
  nfkc text := text
  isIpv6 _ := false
  lower_ascii := fun _ _ => rfl
  lower_ne_nil := by
    intro text h hnil
    exact h (List.map_eq_nil_iff.mp hnil)
  lower_head := by
    intro text h
    cases text with
    | nil => exact h
    | cons c rest => exact congrArg some (toLower_bracket (Option.some.inj h))
  isIpv6_head := by
    intro text h
    cases h

namespace Urls

/-- `ValueError` -/
def valueError : Raised := .other "ValueError"

/-! ## `urlsplit` -/

structure SplitResult where
  scheme : List Char := []
  netloc : List Char := []
  path : List Char := []
  query : List Char := []
  fragment : List Char := []
  deriving DecidableEq, Repr

def isSchemeChar (c : Char) : Bool := c.isAlphanum || c = '+' || c = '-' || c = '.'

/-- The leading spaces and controls are dropped, tabs and line ends are removed. -/
def clean (url : List Char) : List Char :=
  (url.dropWhile fun c => c.toNat ≤ 32).filter fun c => c ∉ ['\t', '\r', '\n']

/-- The scheme, in lower case, and the rest; no scheme when the text before `:` is none. -/
def splitScheme (url : List Char) : List Char × List Char :=
  let head := beforeMark ':' url
  if ':' ∈ url ∧ (head.head?.any Char.isAlpha) = true ∧ head.all isSchemeChar = true then
    (head.map Char.toLower, afterMark ':' url)
  else ([], url)

/-- `_splitnetloc`, behind `//` -/
def splitNetloc (url : List Char) : List Char × List Char :=
  match url with
  | '/' :: '/' :: rest =>
      (rest.takeWhile fun c => c ∉ ['/', '?', '#'], rest.dropWhile fun c => c ∉ ['/', '?', '#'])
  | _ => ([], url)

/-- `text.rpartition(mark)[2]` -/
def afterLast (mark : Char) (text : List Char) : List Char :=
  (text.reverse.takeWhile (· ≠ mark)).reverse

/-- `text.rsplit(mark, 1)[0]` -/
def beforeLast (mark : Char) (text : List Char) : List Char := (afterMark mark text.reverse).reverse

theorem rsplit_append {mark : Char} {value salt : List Char} (h : mark ∉ salt) :
    beforeLast mark (value ++ mark :: salt) = value ∧
      afterLast mark (value ++ mark :: salt) = salt := by
  have hreverse : (value ++ mark :: salt).reverse = salt.reverse ++ mark :: value.reverse := by
    simp
  have hmark : mark ∉ salt.reverse := fun hmem => h (List.mem_reverse.mp hmem)
  constructor
  · rw [beforeLast, hreverse, afterMark_append hmark, List.reverse_reverse]
  · have htake := beforeMark_append hmark value.reverse
    rw [beforeMark] at htake
    rw [afterLast, hreverse, htake, List.reverse_reverse]

theorem append_rsplit {mark : Char} {text : List Char} (h : mark ∈ text) :
    text = beforeLast mark text ++ mark :: afterLast mark text := by
  rcases beforeMark_afterMark mark text.reverse with ⟨hnot, _⟩ | hsplit
  · exact absurd (List.mem_reverse.mpr h) hnot
  · have hreverse := congrArg List.reverse hsplit
    rw [List.reverse_reverse, List.reverse_append, List.reverse_cons, List.append_assoc] at hreverse
    exact hreverse

def isHexDigit (c : Char) : Bool := c.isDigit || ('a' ≤ c && c ≤ 'f') || ('A' ≤ c && c ≤ 'F')

/-- `\Av[a-fA-F0-9]+\..+\z` -/
def isIpvFuture (host : List Char) : Bool :=
  match host with
  | 'v' :: rest =>
      match rest.takeWhile isHexDigit, rest.dropWhile isHexDigit with
      | _ :: _, '.' :: _ :: _ => true
      | _, _ => false
  | _ => false

/-- `_check_bracketed_host` -/
def checkBracketedHost (lib : UrlLibrary) (host : List Char) : Except Raised Unit :=
  if host.head? = some 'v' then
    if isIpvFuture host then .ok () else .error valueError
  else if lib.isIpv6 host then .ok () else .error valueError

/-- `_check_bracketed_netloc` -/
def checkBracketedNetloc (lib : UrlLibrary) (netloc : List Char) : Except Raised Unit :=
  let hostnameAndPort := afterLast '@' netloc
  if '[' ∈ hostnameAndPort then
    let bracketed := afterMark '[' hostnameAndPort
    let port := afterMark ']' bracketed
    -- nothing stands before the bracket, and behind it only a port
    if beforeMark '[' hostnameAndPort ≠ [] ∨ (port ≠ [] ∧ port.head? ≠ some ':') then
      .error valueError
    else checkBracketedHost lib (beforeMark ']' bracketed)
  else checkBracketedHost lib (beforeMark ':' hostnameAndPort)

/-- `_checknetloc`: no character becomes a delimiter when it is normalised. -/
def checkNetloc (lib : UrlLibrary) (netloc : List Char) : Except Raised Unit :=
  if netloc = [] ∨ netloc.all (fun c => c.toNat < 128) = true then .ok ()
  else
    let n := netloc.filter fun c => c ∉ ['@', ':', '#', '?']
    let normalized := lib.nfkc n
    if n ≠ normalized ∧ normalized.any (fun c => c ∈ ['/', '?', '#', '@', ':']) = true then
      .error valueError
    else .ok ()

/-- The brackets of the authority come in pairs. -/
def checkBrackets (lib : UrlLibrary) (netloc : List Char) : Except Raised Unit :=
  if ('[' ∈ netloc) ≠ (']' ∈ netloc) then .error valueError
  else if '[' ∈ netloc then checkBracketedNetloc lib netloc
  else .ok ()

def urlsplit (lib : UrlLibrary) (url : String) : Except Raised SplitResult := do
  let (scheme, url) := splitScheme (clean url.toList)
  let (netloc, url) := splitNetloc url
  checkBrackets lib netloc
  let fragment := afterMark '#' url
  let url := beforeMark '#' url
  checkNetloc lib netloc
  .ok { scheme, netloc, path := beforeMark '?' url, query := afterMark '?' url, fragment }

/-! ## Host and port -/

/-- The number a text of digits spells. -/
def decimal (digits : List Char) : Nat :=
  digits.foldl (fun n c => 10 * n + (c.toNat - '0'.toNat)) 0

namespace SplitResult

variable (lib : UrlLibrary) (parts : SplitResult)

/-- The authority behind the user information. -/
def hostPort : List Char := afterLast '@' parts.netloc

/-- `_hostinfo` -/
def hostinfo : List Char × List Char :=
  if '[' ∈ parts.hostPort then
    let bracketed := afterMark '[' parts.hostPort
    (beforeMark ']' bracketed, afterMark ':' (afterMark ']' bracketed))
  else (beforeMark ':' parts.hostPort, afterMark ':' parts.hostPort)

/-- `hostname`: in lower case up to the zone of an address. -/
def hostname : Option (List Char) :=
  let host := parts.hostinfo.1
  if host = [] then none
  else some (lib.lower (beforeMark '%' host) ++ host.dropWhile (· ≠ '%'))

/-- `port`; a number has 4300 digits at most -/
def port : Except Raised (Option Nat) :=
  let text := parts.hostinfo.2
  if text = [] then .ok none
  else if text.all Char.isDigit = true ∧ text.length ≤ 4300 ∧ decimal text ≤ 65535 then
    .ok (some (decimal text))
  else .error valueError

/-- The scheme is `http` or `https`. -/
def Web : Prop := parts.scheme = "http".toList ∨ parts.scheme = "https".toList

instance : Decidable parts.Web := inferInstanceAs (Decidable (_ ∨ _))

def defaultPort : Nat := if parts.scheme = "http".toList then 80 else 443

end SplitResult

/-! ## The origins the server computes -/

section Origins

variable (lib : UrlLibrary)

/-- The port behind a host, as the text of an origin. -/
def portSuffix (port : Option Nat) : List Char :=
  match port with
  | some port => ':' :: (toString port).toList
  | none => []

/-- `origin_of_uri` -/
def originOfUri (uri : String) : Except Raised (Option String) := do
  let parsed ← urlsplit lib uri
  if ¬ parsed.Web ∨ parsed.netloc = [] then .ok none
  else
    match parsed.hostname lib with
    | none => .ok (some (String.ofList (parsed.scheme ++ "://".toList)))
    | some host =>
        let port ← parsed.port
        let port := port.filter fun port => port ≠ parsed.defaultPort
        .ok (some (String.ofList (parsed.scheme ++ "://".toList ++ host ++ portSuffix port)))

/-- `origin_of_url` -/
def originOfUrl (url : String) : Except Raised String := do
  let parsed ← urlsplit lib url
  match parsed.port with
  | .error _ => .ok ""
  | .ok port =>
      let host := (parsed.hostname lib).getD []
      let port := port.filter fun port =>
        ¬ ((parsed.scheme = "http".toList ∧ port = 80) ∨
          (parsed.scheme = "https".toList ∧ port = 443))
      .ok (String.ofList (parsed.scheme ++ "://".toList ++ host ++ portSuffix port))

/-- `_is_redirect_uri` -/
def isRedirectUri (uri : String) : Except Raised Bool := do
  let parsed ← urlsplit lib uri
  .ok (parsed.Web ∧ parsed.netloc ≠ [] ∧ parsed.fragment = [])

/-- `_is_web_origin` -/
def isWebOrigin (uri : String) : Except Raised Bool := do
  let parsed ← urlsplit lib uri
  .ok (parsed.Web ∧ parsed.netloc ≠ [] ∧ (parsed.path = [] ∨ parsed.path = ['/']) ∧
    parsed.query = [] ∧ parsed.fragment = [])

end Origins

end Urls

end PurIdentityServer
