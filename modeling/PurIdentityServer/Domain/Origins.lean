import PurIdentityServer.Domain.Urls

/-!
# Origins — the origins of RFC 6454 and those the server computes

The origin of a URI is its scheme, its host and its port; its serialization
is what a browser sends in `Origin`. `origin_of_uri` gives that text for
the URIs whose host is a name in ASCII and whose port is a number, and for
no other.
-/

namespace PurIdentityServer

open Effects FormUrl Urls

/-! ## RFC 6454 -/

/-- ToASCII of host names that are not in ASCII. -/
structure Idna where
  toAscii : List Char → Option (List Char)
  ascii : ∀ name a, toAscii name = some a → ∀ c ∈ a, c.toNat < 128

/-- The triple of an origin. -/
structure Origin where
  scheme : List Char
  host : List Char
  port : Nat

namespace Origin

/-- The host of an authority, an address in its brackets, and the text behind its `:`. -/
def authority (hostPort : List Char) : List Char × List Char :=
  if hostPort.head? = some '[' then
    (beforeMark ']' hostPort ++ [']'], afterMark ':' (afterMark ']' hostPort))
  else (beforeMark ':' hostPort, afterMark ':' hostPort)

/-- The host in lower case, a name in ASCII. -/
def hostName (lib : UrlLibrary) (idna : Idna) (host : List Char) : Option (List Char) :=
  if host.head? = some '[' then some (host.map Char.toLower)
  else
    let name := lib.lower (beforeMark '%' host) ++ host.dropWhile (· ≠ '%')
    if name.all (fun c => c.toNat < 128) = true then some (name.map Char.toLower)
    else (idna.toAscii name).map (List.map Char.toLower)

/-- The port, by default that of the scheme. -/
def portNumber (default : Nat) (text : List Char) : Option Nat :=
  if text = [] then some default
  else if text.all Char.isDigit = true ∧ decimal text ≤ 65535 then some (decimal text)
  else none

/-- The origin of a URI of the web. -/
def ofParts (lib : UrlLibrary) (idna : Idna) (parts : SplitResult) : Option Origin := do
  let (host, port) := authority parts.hostPort
  if ¬ parts.Web ∨ host = [] then none
  else
    let name ← hostName lib idna host
    let port ← portNumber parts.defaultPort port
    if name = [] then none else some { scheme := parts.scheme, host := name, port }

/-- The port of `http` and of `https`. -/
def defaultPort (origin : Origin) : Nat := if origin.scheme = "http".toList then 80 else 443

/-- The ASCII serialization. -/
def serialize (origin : Origin) : String :=
  String.ofList (origin.scheme ++ "://".toList ++ (origin.host ++
    portSuffix (if origin.port = origin.defaultPort then none else some origin.port)))

/-- The serialization of the origin of a URI, when it has one. -/
def ofUri (lib : UrlLibrary) (idna : Idna) (uri : String) : Option String :=
  match urlsplit lib uri with
  | .ok parts => (ofParts lib idna parts).map serialize
  | .error _ => none

end Origin

/-! ## URIs with a plain authority -/

/-- The host is no address, and as it is read it is a name in ASCII without capitals; the port
is absent or a number. -/
structure Urls.SplitResult.Plain (lib : UrlLibrary) (parts : SplitResult) : Prop where
  noBracket : '[' ∉ parts.hostPort
  host : ∃ name, parts.hostname lib = some name ∧ name.map Char.toLower = name ∧
    ∀ c ∈ name, c.toNat < 128
  port : ∃ port, parts.port = .ok port

namespace Urls

variable (lib : UrlLibrary) (idna : Idna)

/-- The texts `http` and `https`. -/
def WebScheme (scheme : List Char) : Prop := scheme = "http".toList ∨ scheme = "https".toList

/-- Origins that are equal have equal schemes and equal rests. -/
theorem append_inj_of_web {scheme scheme' rest rest' : List Char} (h : WebScheme scheme)
    (h' : WebScheme scheme')
    (heq : scheme ++ "://".toList ++ rest = scheme' ++ "://".toList ++ rest') :
    scheme = scheme' ∧ rest = rest' := by
  rcases h with rfl | rfl <;> rcases h' with rfl | rfl
  · exact ⟨rfl, List.append_cancel_left heq⟩
  · simp at heq
  · simp at heq
  · exact ⟨rfl, List.append_cancel_left heq⟩

/-- A character that is neither beyond ASCII nor a capital. -/
def Small (c : Char) : Prop := c.toNat < 128 ∧ c.toLower = c

theorem small_of_isDigit {c : Char} (h : c.isDigit = true) : Small c := by
  have hrange : 48 ≤ c.val.toNat ∧ c.val.toNat ≤ 57 := by
    simpa [Char.isDigit, UInt32.le_iff_toNat_le] using h
  have hcapital : ¬ (65 ≤ c.val.toNat ∧ c.val.toNat ≤ 90) := by omega
  constructor
  · show c.val.toNat < 128
    omega
  · apply toLower_eq_self
    simpa [UInt32.le_iff_toNat_le] using hcapital

theorem small_toLower {c : Char} (h : c.toNat < 128) : Small c.toLower := by
  by_cases hcapital : c.val ≥ 'A'.val ∧ c.val ≤ 'Z'.val
  · have hrange : 65 ≤ c.toNat ∧ c.toNat ≤ 90 := by
      simpa [UInt32.le_iff_toNat_le] using hcapital
    have hc : c = Char.ofNat c.toNat := (Char.ofNat_toNat c).symm
    obtain ⟨hlow, hhigh⟩ := hrange
    rw [hc]
    generalize c.toNat = n at hlow hhigh
    have hall : ∀ m ∈ List.range' 65 26, Small (Char.ofNat m).toLower := by
      unfold Small
      decide
    exact hall n (List.mem_range'_1.mpr ⟨hlow, by omega⟩)
  · have hsame : c.toLower = c := toLower_eq_self hcapital
    rw [hsame]
    exact ⟨h, hsame⟩

theorem small_portSuffix (port : Option Nat) : ∀ c ∈ portSuffix port, Small c := by
  cases port with
  | none => exact fun _ hc => absurd hc List.not_mem_nil
  | some n =>
      intro c hc
      rcases List.mem_cons.mp hc with rfl | hc
      · exact ⟨by decide, by decide⟩
      · have hdigit : c ∈ Nat.toDigits 10 n := by simpa using hc
        exact small_of_isDigit (Nat.isDigit_of_mem_toDigits (by decide) (by decide) hdigit)

/-! ## What `urlsplit` lets through -/

/-- The authority that is cut has passed the check of its brackets. -/
theorem checkBrackets_of_urlsplit {uri : String} {parts : SplitResult}
    (h : urlsplit lib uri = .ok parts) : checkBrackets lib parts.netloc = .ok () := by
  unfold urlsplit at h
  obtain ⟨_, hbrackets, h⟩ := bind_eq_ok.mp h
  obtain ⟨_, -, h⟩ := bind_eq_ok.mp h
  cases h
  exact hbrackets

theorem mem_of_mem_afterLast {mark c : Char} {text : List Char} (h : c ∈ afterLast mark text) :
    c ∈ text := by
  have htake := (List.takeWhile_prefix (fun d => decide (d ≠ mark))).subset
    (List.mem_reverse.mp h)
  exact List.mem_reverse.mp htake

/-- A host that passed the check of a bracketed host does not start with a bracket. -/
theorem head_of_checkBracketedHost {host : List Char} (h : checkBracketedHost lib host = .ok ()) :
    host.head? ≠ some '[' := by
  unfold checkBracketedHost at h
  split at h
  · rename_i hv
    rw [hv]
    decide
  · split at h
    · rename_i hip
      exact lib.isIpv6_head host hip
    · cases h

/-- Nothing stands before the bracket of an authority, and the address does not start with one. -/
theorem bracket_head {uri : String} {parts : SplitResult} (h : urlsplit lib uri = .ok parts)
    (hbracket : '[' ∈ parts.hostPort) :
    parts.hostPort.head? = some '[' ∧
      (beforeMark ']' (afterMark '[' parts.hostPort)).head? ≠ some '[' := by
  have hcheck := checkBrackets_of_urlsplit lib h
  have hmem : '[' ∈ parts.netloc := mem_of_mem_afterLast hbracket
  unfold checkBrackets at hcheck
  split at hcheck
  · cases hcheck
  · unfold checkBracketedNetloc at hcheck
    have hpos : '[' ∈ afterLast '@' parts.netloc := hbracket
    simp only [if_pos hpos] at hcheck
    split at hcheck
    · cases hcheck
    · rename_i hplace
      have hbefore : beforeMark '[' parts.hostPort = [] := by
        by_contra hne
        exact hplace (.inl hne)
      refine ⟨?_, head_of_checkBracketedHost lib hcheck⟩
      cases hhead : parts.hostPort with
      | nil =>
          rw [hhead] at hbracket
          cases hbracket
      | cons c rest =>
          rw [hhead, beforeMark, List.takeWhile_cons] at hbefore
          by_cases hc : c = '['
          · rw [hc]
            rfl
          · simp [hc] at hbefore

/-- The host that is read does not start with a bracket. -/
theorem head_hostname {uri : String} {parts : SplitResult} (h : urlsplit lib uri = .ok parts)
    {name : List Char} (hname : parts.hostname lib = some name) : name.head? ≠ some '[' := by
  have hhost : parts.hostinfo.1.head? ≠ some '[' := by
    unfold SplitResult.hostinfo
    split
    · rename_i hbracket
      exact (bracket_head lib h hbracket).2
    · rename_i hbracket
      intro hhead
      have hmem := List.mem_of_mem_head? hhead
      exact hbracket ((List.takeWhile_prefix _).subset hmem)
  unfold SplitResult.hostname at hname
  dsimp only at hname
  split at hname
  · cases hname
  · cases hname
    intro hhead
    cases hlower : lib.lower (beforeMark '%' parts.hostinfo.1) with
    | nil =>
        rw [hlower, List.nil_append] at hhead
        have hmark := List.head?_dropWhile_not (fun c => decide (c ≠ '%')) parts.hostinfo.1
        rw [hhead] at hmark
        exact absurd hmark (by decide)
    | cons c rest =>
        rw [hlower, List.cons_append] at hhead
        have hfirst := lib.lower_head (beforeMark '%' parts.hostinfo.1) (by rw [hlower]; exact hhead)
        have hprefix : (beforeMark '%' parts.hostinfo.1) <+: parts.hostinfo.1 :=
          List.takeWhile_prefix _
        obtain ⟨tail, htail⟩ := hprefix
        rw [← htail, List.head?_append, hfirst] at hhost
        exact hhost rfl

/-! ## The texts of origins -/

/-- A serialization has a host: an address in brackets or a small name. -/
theorem ofUri_shape {uri o : String} (h : Origin.ofUri lib idna uri = some o) :
    ∃ scheme rest, WebScheme scheme ∧ o = String.ofList (scheme ++ "://".toList ++ rest) ∧
      rest ≠ [] ∧ (rest.head? = some '[' ∨ ∀ c ∈ rest, Small c) := by
  unfold Origin.ofUri at h
  split at h
  · rename_i parts _
    obtain ⟨origin, horigin, rfl⟩ := Option.map_eq_some_iff.mp h
    unfold Origin.ofParts at horigin
    dsimp only at horigin
    split at horigin
    · cases horigin
    · rename_i hweb
      push Not at hweb
      obtain ⟨name, hname, horigin⟩ := Option.bind_eq_some_iff.mp horigin
      obtain ⟨port, -, horigin⟩ := Option.bind_eq_some_iff.mp horigin
      split at horigin
      · cases horigin
      · rename_i hne
        cases horigin
        refine ⟨parts.scheme, _, hweb.1, rfl, by simp [hne], ?_⟩
        unfold Origin.hostName at hname
        split at hname
        · rename_i hhead
          cases hname
          left
          rw [List.head?_append, List.head?_map, hhead]
          rfl
        · right
          intro c hc
          rcases List.mem_append.mp hc with hc | hc
          · dsimp only at hname
            split at hname
            · rename_i hascii
              cases hname
              obtain ⟨d, hd, rfl⟩ := List.mem_map.mp hc
              exact small_toLower (of_decide_eq_true (List.all_eq_true.mp hascii d hd))
            · obtain ⟨a, ha, rfl⟩ := Option.map_eq_some_iff.mp hname
              obtain ⟨d, hd, rfl⟩ := List.mem_map.mp hc
              exact small_toLower (idna.ascii _ a ha d hd)
          · exact small_portSuffix _ c hc
  · cases h

/-- What `origin_of_uri` computes on a URI of the web with an authority. -/
theorem originOfUri_eq {uri : String} {parts : SplitResult} (h : urlsplit lib uri = .ok parts)
    (hweb : parts.Web) (hnetloc : parts.netloc ≠ []) :
    originOfUri lib uri = match parts.hostname lib with
      | none => .ok (some (String.ofList (parts.scheme ++ "://".toList)))
      | some host => parts.port >>= fun port =>
          .ok (some (String.ofList (parts.scheme ++ "://".toList ++ host ++
            portSuffix (port.filter fun port => port ≠ parts.defaultPort)))) := by
  unfold originOfUri
  rw [h]
  show (if _ then _ else _) = _
  exact if_neg (by simp [hweb, hnetloc])

/-- The host of a computed origin does not start with a bracket. -/
theorem originOfUri_shape {uri o : String} (h : originOfUri lib uri = .ok (some o)) :
    ∃ scheme rest, WebScheme scheme ∧ o = String.ofList (scheme ++ "://".toList ++ rest) ∧
      rest.head? ≠ some '[' := by
  have hsplit : ∃ parts, urlsplit lib uri = .ok parts ∧ parts.Web ∧ parts.netloc ≠ [] := by
    unfold originOfUri at h
    obtain ⟨parts, hparts, h⟩ := bind_eq_ok.mp h
    split at h
    · cases h
    · rename_i hweb
      push Not at hweb
      exact ⟨parts, hparts, hweb⟩
  obtain ⟨parts, hparts, hweb, hnetloc⟩ := hsplit
  rw [originOfUri_eq lib hparts hweb hnetloc] at h
  split at h
  · cases h
    exact ⟨parts.scheme, [], hweb, by rw [List.append_nil], by simp⟩
  · rename_i host hhost
    obtain ⟨port, -, h⟩ := bind_eq_ok.mp h
    cases h
    refine ⟨parts.scheme, _, hweb, by rw [List.append_assoc], ?_⟩
    have hhead := head_hostname lib hparts hhost
    cases host with
    | nil =>
        cases port.filter fun port => port ≠ parts.defaultPort <;> simp [portSuffix]
    | cons c rest => exact hhead

/-! ## Agreement -/

theorem hostname_ne_nil {parts : SplitResult} {name : List Char}
    (h : parts.hostname lib = some name) : name ≠ [] := by
  unfold SplitResult.hostname at h
  dsimp only at h
  split at h
  · cases h
  · rename_i hhost
    cases h
    intro hnil
    obtain ⟨hlower, hzone⟩ := List.append_eq_nil_iff.mp hnil
    have hbefore : beforeMark '%' parts.hostinfo.1 = [] := by
      by_contra hne
      exact lib.lower_ne_nil _ hne hlower
    have hcut : parts.hostinfo.1 = beforeMark '%' parts.hostinfo.1 ++
        parts.hostinfo.1.dropWhile (· ≠ '%') := List.takeWhile_append_dropWhile.symm
    rw [hzone, List.append_nil] at hcut
    exact hhost (hcut.trans hbefore)

/-- The two readings of a port agree. -/
theorem portNumber_of_port {parts : SplitResult} {text : List Char} {port : Option Nat}
    (htext : parts.hostinfo.2 = text) (h : parts.port = .ok port) :
    ∃ n, Origin.portNumber parts.defaultPort text = some n ∧
      (if n = parts.defaultPort then none else some n) =
        port.filter fun port => port ≠ parts.defaultPort := by
  subst htext
  unfold SplitResult.port at h
  unfold Origin.portNumber
  dsimp only at h
  by_cases hnil : parts.hostinfo.2 = []
  · rw [if_pos hnil] at h
    cases h
    exact ⟨parts.defaultPort, if_pos hnil, if_pos rfl⟩
  · rw [if_neg hnil] at h
    split at h
    · rename_i hdigits
      cases h
      refine ⟨decimal parts.hostinfo.2, ?_, ?_⟩
      · rw [if_neg hnil, if_pos ⟨hdigits.1, hdigits.2.2⟩]
      · by_cases hdefault : decimal parts.hostinfo.2 = parts.defaultPort
        · simp [hdefault, Option.filter_some]
        · simp [hdefault, Option.filter_some]
    · cases h

theorem hostinfo_of_noBracket {parts : SplitResult} (h : '[' ∉ parts.hostPort) :
    parts.hostinfo = Origin.authority parts.hostPort := by
  have hhead : parts.hostPort.head? ≠ some '[' := fun hhead => h (List.mem_of_mem_head? hhead)
  rw [SplitResult.hostinfo, if_neg h, Origin.authority, if_neg hhead]

/-- The serialization of the origin of parts whose host has a name. -/
theorem ofUri_eq {uri : String} {parts : SplitResult} (h : urlsplit lib uri = .ok parts)
    (hweb : parts.Web) {host text name : List Char} {n : Nat}
    (hauthority : Origin.authority parts.hostPort = (host, text)) (hhost : host ≠ [])
    (hname : Origin.hostName lib idna host = some name) (hne : name ≠ [])
    (hport : Origin.portNumber parts.defaultPort text = some n) :
    Origin.ofUri lib idna uri = some (String.ofList (parts.scheme ++ "://".toList ++
      (name ++ portSuffix (if n = parts.defaultPort then none else some n)))) := by
  have hparts : Origin.ofParts lib idna parts =
      some { scheme := parts.scheme, host := name, port := n } := by
    unfold Origin.ofParts
    rw [hauthority]
    dsimp only
    rw [if_neg (by simp [hweb, hhost]), hname, hport]
    show (if name = [] then none else _) = _
    rw [if_neg hne]
  rw [Origin.ofUri, h]
  simp only [hparts]
  rfl

/-- The two functions leave out the same ports. -/
theorem filter_defaultPort {parts : SplitResult} (hweb : parts.Web) (port : Option Nat) :
    (port.filter fun port => ¬ ((parts.scheme = "http".toList ∧ port = 80) ∨
      (parts.scheme = "https".toList ∧ port = 443))) =
      port.filter fun port => port ≠ parts.defaultPort := by
  congr 1
  funext n
  rcases hweb with hscheme | hscheme <;> simp [SplitResult.defaultPort, hscheme]

/-- A plain authority has the origin of RFC 6454, by both functions. -/
theorem agree_of_plain {uri : String} {parts : SplitResult} (h : urlsplit lib uri = .ok parts)
    (hweb : parts.Web) (hnetloc : parts.netloc ≠ []) (hplain : parts.Plain lib) :
    ∃ o, originOfUri lib uri = .ok (some o) ∧ Origin.ofUri lib idna uri = some o ∧
      originOfUrl lib uri = .ok o := by
  obtain ⟨name, hname, hsmall, hascii⟩ := hplain.host
  obtain ⟨port, hport⟩ := hplain.port
  have hinfo := hostinfo_of_noBracket hplain.noBracket
  have hhead : parts.hostPort.head? ≠ some '[' :=
    fun hhead => hplain.noBracket (List.mem_of_mem_head? hhead)
  have hauthority : Origin.authority parts.hostPort =
      (beforeMark ':' parts.hostPort, afterMark ':' parts.hostPort) := by
    rw [Origin.authority, if_neg hhead]
  have hhost : parts.hostinfo.1 = beforeMark ':' parts.hostPort := by rw [hinfo, hauthority]
  have hread := hname
  unfold SplitResult.hostname at hread
  rw [hhost] at hread
  dsimp only at hread
  split at hread
  · cases hread
  · rename_i hne
    have hrfc : Origin.hostName lib idna (beforeMark ':' parts.hostPort) = some name := by
      have hfirst : (beforeMark ':' parts.hostPort).head? ≠ some '[' := fun hfirst =>
        hplain.noBracket ((List.takeWhile_prefix _).subset (List.mem_of_mem_head? hfirst))
      rw [Origin.hostName, if_neg hfirst, Option.some.inj hread]
      dsimp only
      rw [if_pos, hsmall]
      exact List.all_eq_true.mpr fun c hc => decide_eq_true (hascii c hc)
    obtain ⟨n, hn, hsuffix⟩ := portNumber_of_port
      (show parts.hostinfo.2 = afterMark ':' parts.hostPort by rw [hinfo, hauthority]) hport
    refine ⟨String.ofList (parts.scheme ++ "://".toList ++ name ++
      portSuffix (port.filter fun port => port ≠ parts.defaultPort)), ?_, ?_, ?_⟩
    · rw [originOfUri_eq lib h hweb hnetloc, hname, hport]
      rfl
    · rw [ofUri_eq lib idna h hweb hauthority hne hrfc (hostname_ne_nil lib hname) hn, hsuffix]
      simp only [List.append_assoc]
    · unfold originOfUrl
      rw [h]
      dsimp only [bind, Except.bind]
      rw [hport, hname]
      simp only [Option.getD_some, filter_defaultPort hweb]

/-- Where the authority is not plain and an origin is computed, a text tells the two apart: the
origin that is computed, which no URI has, or the origin the URI has, which is never computed. -/
theorem apart_of_not_plain {uri o : String} {parts : SplitResult}
    (h : urlsplit lib uri = .ok parts) (hweb : parts.Web) (hnetloc : parts.netloc ≠ [])
    (hplain : ¬ parts.Plain lib) (ho : originOfUri lib uri = .ok (some o)) :
    (∀ uri', Origin.ofUri lib idna uri' ≠ some o) ∨
      ∃ o', Origin.ofUri lib idna uri = some o' ∧ ∀ uri', originOfUri lib uri' ≠ .ok (some o') := by
  rw [originOfUri_eq lib h hweb hnetloc] at ho
  split at ho
  · -- an empty host: no serialization ends behind `://`
    cases ho
    left
    intro uri' huri'
    obtain ⟨scheme, rest, hscheme, heq, hne, -⟩ := ofUri_shape lib idna huri'
    have hlist := String.ofList_inj.mp heq
    rw [← List.append_nil (parts.scheme ++ "://".toList)] at hlist
    exact hne (append_inj_of_web hweb hscheme hlist).2.symm
  · rename_i name hname
    obtain ⟨port, hport, ho⟩ := bind_eq_ok.mp ho
    cases ho
    by_cases hbracket : '[' ∈ parts.hostPort
    · -- an address: its origin has the brackets, which are never written
      right
      obtain ⟨hhead, -⟩ := bracket_head lib h hbracket
      have hauthority : Origin.authority parts.hostPort =
          (beforeMark ']' parts.hostPort ++ [']'],
            afterMark ':' (afterMark ']' parts.hostPort)) := by
        rw [Origin.authority, if_pos hhead]
      obtain ⟨rest, hrest⟩ : ∃ rest, parts.hostPort = '[' :: rest := by
        cases hlist : parts.hostPort with
        | nil =>
            rw [hlist] at hhead
            cases hhead
        | cons c rest =>
            rw [hlist] at hhead
            cases hhead
            exact ⟨rest, rfl⟩
      have hfirst : (beforeMark ']' parts.hostPort ++ [']']).head? = some '[' := by
        rw [hrest, beforeMark, List.takeWhile_cons]
        simp
      have hrfc : Origin.hostName lib idna (beforeMark ']' parts.hostPort ++ [']']) =
          some ((beforeMark ']' parts.hostPort ++ [']']).map Char.toLower) := if_pos hfirst
      have htext : parts.hostinfo.2 = afterMark ':' (afterMark ']' parts.hostPort) := by
        rw [SplitResult.hostinfo, if_pos hbracket, hrest]
        simp [afterMark]
      obtain ⟨n, hn, -⟩ := portNumber_of_port htext hport
      refine ⟨_, ofUri_eq lib idna h hweb hauthority (by simp) hrfc (by simp) hn, ?_⟩
      intro uri' huri'
      obtain ⟨scheme, rest', hscheme, heq, hne⟩ := originOfUri_shape lib huri'
      have htail := (append_inj_of_web hweb hscheme (String.ofList_inj.mp heq)).2
      rw [← htail, List.head?_append, List.head?_map, hfirst] at hne
      exact hne rfl
    · -- a name that is not small: no serialization has one
      left
      intro uri' huri'
      obtain ⟨scheme, rest, hscheme, heq, -, hrest⟩ := ofUri_shape lib idna huri'
      have hlist := String.ofList_inj.mp heq
      rw [List.append_assoc (parts.scheme ++ "://".toList)] at hlist
      have htail := (append_inj_of_web hweb hscheme hlist).2
      rcases hrest with hhead | hsmall
      · rw [← htail] at hhead
        have hfirst := head_hostname lib h hname
        cases hcons : name with
        | nil => exact hostname_ne_nil lib hname hcons
        | cons c tail =>
            rw [hcons] at hhead hfirst
            exact hfirst hhead
      · have hname_small : ∀ c ∈ name, Small c := fun c hc =>
          hsmall c (htail ▸ List.mem_append_left _ hc)
        refine hplain ⟨hbracket, ⟨name, hname, ?_, fun c hc => (hname_small c hc).1⟩, ⟨port, hport⟩⟩
        calc name.map Char.toLower = name.map id :=
              List.map_congr_left fun c hc => (hname_small c hc).2
          _ = name := List.map_id name

/-- The URI can be cut, and an authority of the web is plain. -/
def Canonical (uri : String) : Prop :=
  ∃ parts, urlsplit lib uri = .ok parts ∧ (parts.Web → parts.netloc ≠ [] → parts.Plain lib)

/-- A canonical URI has the origin that is computed. -/
theorem originOfUri_of_canonical {uri : String} (h : Canonical lib uri) :
    originOfUri lib uri = .ok (Origin.ofUri lib idna uri) := by
  obtain ⟨parts, hparts, hplain⟩ := h
  by_cases hweb : parts.Web ∧ parts.netloc ≠ []
  · obtain ⟨o, ho, hrfc, -⟩ :=
      agree_of_plain lib idna hparts hweb.1 hweb.2 (hplain hweb.1 hweb.2)
    rw [ho, hrfc]
  · have hnone : Origin.ofParts lib idna parts = none := by
      unfold Origin.ofParts
      by_cases hscheme : parts.Web
      · have hnetloc : parts.netloc = [] := by
          by_contra hne
          exact hweb ⟨hscheme, hne⟩
        have hhostPort : parts.hostPort = [] := by rw [SplitResult.hostPort, hnetloc]; rfl
        rw [hhostPort]
        exact if_pos (.inr rfl)
      · exact if_pos (.inl hscheme)
    have hcode : originOfUri lib uri = .ok none := by
      unfold originOfUri
      rw [hparts]
      show (if _ then _ else _) = _
      rw [if_pos]
      rw [not_and_or, not_not] at hweb
      exact hweb
    rw [hcode, Origin.ofUri, hparts]
    simp only [hnone, Option.map_none]

/-- Of a URI that is not canonical no origin is computed, or one that a text tells apart. -/
theorem apart_of_not_canonical {uri : String} (h : ¬ Canonical lib uri) :
    (∃ e, originOfUri lib uri = .error e) ∨
      ∃ o, originOfUri lib uri = .ok (some o) ∧
        ((∀ uri', Origin.ofUri lib idna uri' ≠ some o) ∨
          ∃ o', Origin.ofUri lib idna uri = some o' ∧
            ∀ uri', originOfUri lib uri' ≠ .ok (some o')) := by
  cases hparts : urlsplit lib uri with
  | error e =>
      left
      refine ⟨e, ?_⟩
      rw [originOfUri, hparts]
      rfl
  | ok parts =>
      have hplain : parts.Web ∧ parts.netloc ≠ [] ∧ ¬ parts.Plain lib := by
        by_contra hno
        refine h ⟨parts, hparts, fun hweb hnetloc => ?_⟩
        by_contra hplain
        exact hno ⟨hweb, hnetloc, hplain⟩
      obtain ⟨hweb, hnetloc, hplain⟩ := hplain
      cases ho : originOfUri lib uri with
      | error e => exact .inl ⟨e, rfl⟩
      | ok origin =>
          cases origin with
          | none =>
              rw [originOfUri_eq lib hparts hweb hnetloc] at ho
              split at ho
              · cases ho
              · obtain ⟨_, -, ho⟩ := bind_eq_ok.mp ho
                cases ho
          | some o =>
              exact .inr ⟨o, rfl, apart_of_not_plain lib idna hparts hweb hnetloc hplain ho⟩

end Urls

end PurIdentityServer
