import PurIdentityServer.Domain.EventOrigins
import PurIdentityServer.Application.Token
import PurIdentityServer.Infrastructure.DpopProof

/-!
# HtuMatching — what `_htu_matches` takes for one target

A proof names the target of its request by a URL. `_normalize_htu` writes a
URL again from its scheme, its host, its port and its path, and two URLs
match when they are written the same. What the writing loses is where it
takes two targets for one: the user information, a port that cannot be
read, and the difference between an authority and a path without a slash
(`htuMatches_iff`).
-/

namespace PurIdentityServer

open Effects FormUrl Urls

/-! ## Targets -/

namespace Urls.SplitResult

variable (lib : UrlLibrary) (parts : SplitResult)

/-- The user information of the authority, `none` without one. -/
def userinfo : Option (List Char) :=
  if '@' ∈ parts.netloc then some (beforeLast '@' parts.netloc) else none

/-- The port of the scheme. -/
def schemePort : Option Nat :=
  if parts.scheme = "http".toList then some 80
  else if parts.scheme = "https".toList then some 443
  else none

/-- The path, `/` for the empty one. -/
def fullPath : List Char := if parts.path = [] then ['/'] else parts.path

/-- The port that is written: none when it cannot be read or is the scheme's. -/
def writtenPort : Option Nat :=
  match parts.port with
  | .ok port => port.filter fun port => some port ≠ parts.schemePort
  | .error _ => none

/-- The host that is written, an address in brackets. -/
def writtenHost : List Char :=
  let host := (parts.hostname lib).getD []
  if ':' ∈ host then '[' :: (host ++ [']']) else host

/-- What is written behind the scheme. -/
def writtenRest : List Char :=
  parts.writtenHost lib ++ portSuffix parts.writtenPort ++ parts.fullPath

/-- The path is empty or begins with a slash. -/
def Rooted : Prop := parts.fullPath.head? = some '/'

instance : Decidable parts.Rooted := inferInstanceAs (Decidable (_ = _))

/-- The parts as the validator sees them. -/
def toUrlParts : UrlParts where
  scheme := String.ofList parts.scheme
  netloc := String.ofList parts.netloc
  path := String.ofList parts.path
  query := String.ofList parts.query
  fragment := String.ofList parts.fragment
  hostname := (parts.hostname lib).map String.ofList
  port :=
    match parts.port with
    | .ok port => port
    | .error _ => none

end Urls.SplitResult

/-- The target of a request: a host regardless of case, and the port in effect. -/
structure Target where
  scheme : List Char
  userinfo : Option (List Char)
  host : List Char
  port : Option Nat
  path : List Char
  deriving DecidableEq

/-- The target of the parts of a URL, `none` when the port cannot be read. -/
def Target.ofParts (lib : UrlLibrary) (parts : SplitResult) : Option Target :=
  match parts.port with
  | .error _ => none
  | .ok port =>
      some {
        scheme := parts.scheme
        userinfo := parts.userinfo
        host := ((parts.hostname lib).getD []).map Char.toLower
        port := port.or parts.schemePort
        path := parts.fullPath }

/-- The target of a URL, its query and its fragment ignored. -/
def Target.ofUrl (lib : UrlLibrary) (url : String) : Option Target :=
  match urlsplit lib url with
  | .error _ => none
  | .ok parts => Target.ofParts lib parts

/-- The platform splits URLs as `urllib.parse` does. -/
def Platform.Splits (p : Platform) (lib : UrlLibrary) : Prop :=
  ∀ url, p.urlsplit url = (Urls.urlsplit lib url).map (SplitResult.toUrlParts lib)

/-! ## The query and the fragment -/

/-- The text before the query and the fragment. -/
def stripped (url : List Char) : List Char := url.takeWhile fun c => c ∉ ['?', '#']

theorem beforeMark_beforeMark (s : List Char) : beforeMark '#' (beforeMark '?' s) = stripped s := by
  rw [beforeMark, beforeMark, List.takeWhile_takeWhile, stripped]
  congr 1
  funext c
  by_cases hquery : c = '?'
  · simp [hquery]
  · by_cases hfragment : c = '#'
    · simp [hfragment]
    · simp [hquery, hfragment]

theorem beforeMark_comm (a b : Char) (s : List Char) :
    beforeMark a (beforeMark b s) = beforeMark b (beforeMark a s) := by
  simp only [beforeMark, List.takeWhile_takeWhile, and_comm]

theorem toList_stripQueryFragment (url : String) :
    (PyJWTDpopProofValidator.stripQueryFragment url).toList = stripped url.toList := by
  rw [PyJWTDpopProofValidator.stripQueryFragment, String.toList_ofList]
  exact beforeMark_beforeMark url.toList

section Stripped

variable {p q f : Char → Bool}

theorem dropWhile_takeWhile (h : ∀ c, q c = true → p c = true) (s : List Char) :
    (s.takeWhile p).dropWhile q = (s.dropWhile q).takeWhile p := by
  induction s with
  | nil => rfl
  | cons c rest ih =>
      by_cases hq : q c = true
      · rw [List.takeWhile_cons, if_pos (h c hq), List.dropWhile_cons, if_pos hq,
          List.dropWhile_cons, if_pos hq, ih]
      · rw [List.dropWhile_cons, if_neg hq, List.takeWhile_cons]
        split
        · rw [List.dropWhile_cons, if_neg hq]
        · rfl

theorem filter_takeWhile (h : ∀ c, p c = false → f c = true) (s : List Char) :
    (s.takeWhile p).filter f = (s.filter f).takeWhile p := by
  induction s with
  | nil => rfl
  | cons c rest ih =>
      by_cases hp : p c = true
      · rw [List.takeWhile_cons, if_pos hp, List.filter_cons, List.filter_cons]
        split
        · rw [List.takeWhile_cons, if_pos hp, ih]
        · exact ih
      · have hpf : p c = false := by simpa using hp
        rw [List.takeWhile_cons, if_neg hp, List.filter_cons, if_pos (h c hpf), List.takeWhile_cons,
          if_neg hp]
        rfl

theorem stripped_isPrefix (s : List Char) : stripped s <+: s := List.takeWhile_prefix _

theorem stripped_cons {c : Char} (h : c ∉ ['?', '#']) (rest : List Char) :
    stripped (c :: rest) = c :: stripped rest := by
  rw [stripped, List.takeWhile_cons, if_pos (decide_eq_true h)]
  rfl

theorem clean_stripped (s : List Char) : clean (stripped s) = stripped (clean s) := by
  unfold clean stripped
  rw [dropWhile_takeWhile, filter_takeWhile]
  · intro c hc
    have hmark : c ∈ ['?', '#'] := not_not.mp (of_decide_eq_false hc)
    rcases List.mem_cons.mp hmark with rfl | hmark
    · decide
    · rcases List.mem_cons.mp hmark with rfl | hmark
      · decide
      · cases hmark
  · intro c hc
    refine decide_eq_true fun hmark => ?_
    have hlow : c.toNat ≤ 32 := of_decide_eq_true hc
    rcases List.mem_cons.mp hmark with rfl | hmark
    · exact absurd hlow (by decide)
    · rcases List.mem_cons.mp hmark with rfl | hmark
      · exact absurd hlow (by decide)
      · cases hmark

theorem stripped_append {a : List Char} (h : ∀ c ∈ a, c ∉ ['?', '#']) (b : List Char) :
    stripped (a ++ b) = a ++ stripped b :=
  List.takeWhile_append_of_pos fun c hc => decide_eq_true (h c hc)

theorem not_mem_of_stripped {s : List Char} {c : Char} (h : c ∈ stripped s) : c ∉ ['?', '#'] :=
  of_decide_eq_true (List.mem_takeWhile_imp (p := fun c => decide (c ∉ ['?', '#'])) h)

theorem splitScheme_stripped (s : List Char) :
    splitScheme (stripped s) = ((splitScheme s).1, stripped (splitScheme s).2) := by
  rcases beforeMark_afterMark ':' s with ⟨hnot, -⟩ | hsplit
  · have hnot' : ':' ∉ stripped s := fun hmem => hnot ((stripped_isPrefix s).subset hmem)
    simp [splitScheme, hnot, hnot']
  · have hmem : ':' ∈ s := by
      rw [hsplit]
      simp
    by_cases hplain : ∀ c ∈ beforeMark ':' s, c ∉ ['?', '#']
    · -- the colon is kept, and with it what comes before
      have hstripped : stripped s =
          beforeMark ':' s ++ ':' :: stripped (afterMark ':' s) := by
        conv_lhs => rw [hsplit]
        rw [stripped_append hplain, stripped_cons (by decide)]
      have hfree := not_mem_beforeMark ':' s
      have hbefore : beforeMark ':' (stripped s) = beforeMark ':' s := by
        rw [hstripped, beforeMark_append hfree]
      have hafter : afterMark ':' (stripped s) = stripped (afterMark ':' s) := by
        rw [hstripped, afterMark_append hfree]
      have hmem' : ':' ∈ stripped s := by
        rw [hstripped]
        simp
      unfold splitScheme
      dsimp only
      rw [hbefore, hafter]
      by_cases hscheme : ((beforeMark ':' s).head?.any Char.isAlpha) = true ∧
          (beforeMark ':' s).all isSchemeChar = true
      · rw [if_pos ⟨hmem', hscheme⟩, if_pos ⟨hmem, hscheme⟩]
      · rw [if_neg fun h => hscheme h.2, if_neg fun h => hscheme h.2]
    · -- the colon is cut off, and stood behind no scheme
      have hno : ¬(beforeMark ':' s).all isSchemeChar = true := by
        intro hall
        apply hplain
        intro c hc hmark
        have hchar := List.all_eq_true.mp hall c hc
        simp only [List.mem_cons, List.not_mem_nil, or_false] at hmark
        rcases hmark with rfl | rfl
        · exact absurd hchar (by decide)
        · exact absurd hchar (by decide)
      have hnot' : ':' ∉ stripped s := by
        intro hcolon
        apply hplain
        intro c hc
        obtain ⟨rest, hrest⟩ := stripped_isPrefix s
        rcases beforeMark_afterMark ':' (stripped s) with ⟨hnot, -⟩ | hcut
        · exact absurd hcolon hnot
        · have hwhole : s = beforeMark ':' (stripped s) ++
              ':' :: (afterMark ':' (stripped s) ++ rest) := by
            conv_lhs => rw [← hrest, hcut]
            simp
          have hbefore : beforeMark ':' s = beforeMark ':' (stripped s) := by
            conv_lhs => rw [hwhole]
            exact beforeMark_append (not_mem_beforeMark ':' _) _
          rw [hbefore] at hc
          exact not_mem_of_stripped ((List.takeWhile_prefix _).subset hc)
      unfold splitScheme
      dsimp only
      rw [if_neg fun h => hnot' h.1, if_neg fun h => hno h.2.2]

theorem splitNetloc_of_not {s : List Char} (h : ∀ rest, s ≠ '/' :: '/' :: rest) :
    splitNetloc s = ([], s) := by
  unfold splitNetloc
  split
  · exact absurd rfl (h _)
  · rfl

theorem splitNetloc_stripped (s : List Char) :
    splitNetloc (stripped s) = ((splitNetloc s).1, stripped (splitNetloc s).2) := by
  by_cases hslashes : ∃ rest, s = '/' :: '/' :: rest
  · obtain ⟨rest, rfl⟩ := hslashes
    rw [stripped_cons (by decide), stripped_cons (by decide)]
    have himp : ∀ c : Char, decide (c ∉ ['/', '?', '#']) = true → decide (c ∉ ['?', '#']) = true := by
      intro c hc
      have hfree := of_decide_eq_true hc
      refine decide_eq_true fun hmark => hfree (List.mem_cons_of_mem _ hmark)
    have htake : (stripped rest).takeWhile (fun c => decide (c ∉ ['/', '?', '#'])) =
        rest.takeWhile fun c => decide (c ∉ ['/', '?', '#']) := by
      rw [stripped, List.takeWhile_takeWhile]
      congr 1
      funext c
      by_cases hc : decide (c ∉ ['/', '?', '#']) = true
      · simp only [hc, himp c hc, and_self, decide_true]
      · simp only [hc]
        simp
    show (_, _) = (_, _)
    rw [htake, stripped, dropWhile_takeWhile himp]
    rfl
  · rw [splitNetloc_of_not fun rest heq => hslashes ⟨rest, heq⟩, splitNetloc_of_not]
    intro rest heq
    obtain ⟨tail, htail⟩ := stripped_isPrefix s
    exact hslashes ⟨rest ++ tail, by rw [← htail, heq]; rfl⟩

/-- Cutting the query and the fragment off first changes nothing else. -/
theorem urlsplit_stripQueryFragment (lib : UrlLibrary) (url : String) :
    urlsplit lib (PyJWTDpopProofValidator.stripQueryFragment url) =
      (urlsplit lib url).map fun parts => { parts with query := [], fragment := [] } := by
  unfold urlsplit
  rw [toList_stripQueryFragment, clean_stripped, splitScheme_stripped]
  dsimp only
  rw [splitNetloc_stripped]
  dsimp only
  generalize (splitNetloc (splitScheme (clean url.toList)).2).2 = rest
  cases checkBrackets lib (splitNetloc (splitScheme (clean url.toList)).2).1 with
  | error e => rfl
  | ok _ =>
      cases checkNetloc lib (splitNetloc (splitScheme (clean url.toList)).2).1 with
      | error e => rfl
      | ok _ =>
          have hfree : ∀ c ∈ ['?', '#'], c ∉ stripped rest :=
            fun c hc hmem => not_mem_of_stripped hmem hc
          have hpath : beforeMark '?' (beforeMark '#' rest) = stripped rest := by
            rw [beforeMark_comm, beforeMark_beforeMark]
          dsimp only [bind, Except.bind, Except.map]
          rw [beforeMark_eq_self (hfree '#' (by simp)), afterMark_eq_nil (hfree '#' (by simp)),
            beforeMark_eq_self (hfree '?' (by simp)), afterMark_eq_nil (hfree '?' (by simp)), hpath]

end Stripped

namespace PyJWTDpopProofValidator

variable {κ : Type} (v : PyJWTDpopProofValidator κ) (lib : UrlLibrary)

/-! ## What is written -/

/-- The `htu` check of a proof: both URLs without their query and fragment. -/
def htuAccepted (htu url : String) : Raising Bool := v.htuMatches (stripQueryFragment htu) url

theorem defaultPort_ofList (parts : SplitResult) :
    defaultPort (String.ofList parts.scheme) = parts.schemePort := by
  unfold defaultPort SplitResult.schemePort
  split
  · rename_i h
    rw [if_pos (String.ofList_inj.mp (h.trans String.ofList_toList.symm))]
  · rename_i h
    have hscheme := String.ofList_inj.mp (h.trans String.ofList_toList.symm)
    rw [hscheme, if_neg (by decide), if_pos rfl]
  · rename_i hhttp hhttps
    rw [if_neg fun h => hhttp (by rw [h, String.ofList_toList]),
      if_neg fun h => hhttps (by rw [h, String.ofList_toList])]

variable {v lib}

/-- The text a URL is written as. -/
theorem normalizeHtu_parts (hsplits : v.platform.Splits lib) {url : String} {parts : SplitResult}
    (h : urlsplit lib url = .ok parts) :
    v.normalizeHtu url =
      .ok (String.ofList (parts.scheme ++ "://".toList ++ parts.writtenRest lib)) := by
  have hport : (SplitResult.toUrlParts lib parts).port.filter
      (fun port => decide (some port ≠ parts.schemePort)) = parts.writtenPort := by
    unfold SplitResult.toUrlParts SplitResult.writtenPort
    cases parts.port with
    | error e => rfl
    | ok port => rfl
  unfold normalizeHtu
  rw [hsplits, h]
  dsimp only [bind, Except.bind, Except.map]
  congr 1
  apply String.toList_inj.mp
  have hname : ((SplitResult.toUrlParts lib parts).hostname.getD "").toList =
      (parts.hostname lib).getD [] := by
    cases hhost : parts.hostname lib with
    | none => simp [SplitResult.toUrlParts, hhost]
    | some name => simp [SplitResult.toUrlParts, hhost]
  have hpath : (if (SplitResult.toUrlParts lib parts).path = "" then "/"
      else (SplitResult.toUrlParts lib parts).path).toList = parts.fullPath := by
    unfold SplitResult.fullPath
    by_cases hempty : parts.path = []
    · simp [SplitResult.toUrlParts, hempty]
    · have hne : ¬String.ofList parts.path = "" := by
        intro heq
        exact hempty (String.ofList_inj.mp (heq.trans String.ofList_toList.symm))
      rw [if_neg hempty]
      show (if String.ofList parts.path = "" then "/" else String.ofList parts.path).toList = _
      rw [if_neg hne, String.toList_ofList]
  have hhost : (if ':' ∈ ((SplitResult.toUrlParts lib parts).hostname.getD "").toList then
        "[" ++ (SplitResult.toUrlParts lib parts).hostname.getD "" ++ "]"
      else (SplitResult.toUrlParts lib parts).hostname.getD "").toList = parts.writtenHost lib := by
    unfold SplitResult.writtenHost
    rw [hname]
    dsimp only
    split
    · simp [hname]
    · exact hname
  rw [String.toList_ofList, SplitResult.writtenRest, ← hpath, ← hhost, ← hport]
  cases hread : (SplitResult.toUrlParts lib parts).port with
  | none => simp [SplitResult.toUrlParts, portSuffix]
  | some port =>
      have hscheme : (SplitResult.toUrlParts lib parts).scheme = String.ofList parts.scheme := rfl
      dsimp only
      rw [hscheme, defaultPort_ofList]
      by_cases hdefault : parts.schemePort = some port
      · simp [hdefault, portSuffix, Option.filter_some]
      · have hne : ¬some port = parts.schemePort := fun heq => hdefault heq.symm
        simp [hdefault, hne, portSuffix, Option.filter_some]

/-! ## What the writing tells apart -/

section Parts

/-- What is known of the parts of a URL: its scheme has no colon, its host no
slash and no bracket in front, and without a slash its path stands alone. -/
structure Cut (lib : UrlLibrary) (parts : SplitResult) : Prop where
  scheme : ':' ∉ parts.scheme
  host : '/' ∉ (parts.hostname lib).getD []
  head : ((parts.hostname lib).getD []).head? ≠ some '['
  rootless : ¬parts.Rooted → parts.netloc = []

theorem colon_splitScheme (url : List Char) : ':' ∉ (splitScheme url).1 := by
  unfold splitScheme
  dsimp only
  split
  · intro hmem
    obtain ⟨c, hc, hlow⟩ := List.mem_map.mp hmem
    rw [eq_of_toLower hlow (by decide)] at hc
    exact not_mem_beforeMark ':' _ hc
  · exact List.not_mem_nil

/-- Behind an authority the path is empty or begins with a slash. -/
theorem rooted_splitNetloc {url : List Char} (h : (splitNetloc url).1 ≠ []) :
    beforeMark '?' (beforeMark '#' (splitNetloc url).2) = [] ∨
      (beforeMark '?' (beforeMark '#' (splitNetloc url).2)).head? = some '/' := by
  by_cases hslashes : ∃ rest, url = '/' :: '/' :: rest
  · obtain ⟨rest, rfl⟩ := hslashes
    rw [splitNetloc]
    dsimp only
    cases hdrop : rest.dropWhile fun c => decide (c ∉ ['/', '?', '#']) with
    | nil => exact .inl rfl
    | cons c tail =>
        have hc : c ∈ ['/', '?', '#'] := by
          have hhead := List.head?_dropWhile_not (fun c => decide (c ∉ ['/', '?', '#'])) rest
          rw [hdrop] at hhead
          have hmark : decide (c ∉ ['/', '?', '#']) = false := hhead
          exact not_not.mp (of_decide_eq_false hmark)
        simp only [List.mem_cons, List.not_mem_nil, or_false] at hc
        rcases hc with rfl | rfl | rfl
        · right
          simp [beforeMark]
        · left
          simp [beforeMark]
        · left
          simp [beforeMark]
  · rw [splitNetloc_of_not fun rest heq => hslashes ⟨rest, heq⟩] at h
    exact absurd rfl h

theorem hostinfo_subset {parts : SplitResult} {c : Char} (h : c ∈ parts.hostinfo.1) :
    c ∈ parts.hostPort := by
  unfold SplitResult.hostinfo at h
  split at h
  · have hbefore := (List.takeWhile_prefix _).subset h
    exact (List.dropWhile_suffix _).subset (List.mem_of_mem_drop hbefore)
  · exact (List.takeWhile_prefix _).subset h

theorem cut_of_urlsplit (hlower : LowerKeepsMarks lib) {url : String} {parts : SplitResult}
    (h : urlsplit lib url = .ok parts) : Cut lib parts where
  scheme := by
    unfold urlsplit at h
    dsimp only at h
    obtain ⟨_, -, h⟩ := bind_eq_ok.mp h
    obtain ⟨_, -, h⟩ := bind_eq_ok.mp h
    cases h
    exact colon_splitScheme _
  host := by
    have hfree : '/' ∉ parts.hostinfo.1 := fun hmem =>
      netloc_plain lib h '/' (mem_of_mem_afterLast (hostinfo_subset hmem)) (by simp)
    intro hmem
    unfold SplitResult.hostname at hmem
    dsimp only at hmem
    split at hmem
    · cases hmem
    · rw [Option.getD_some] at hmem
      apply hfree
      rcases List.mem_append.mp hmem with hmem | hmem
      · exact (List.takeWhile_prefix _).subset (hlower _ '/' (by simp) hmem)
      · exact (List.dropWhile_suffix _).subset hmem
  head := by
    cases hname : parts.hostname lib with
    | none => simp
    | some name => exact head_hostname lib h hname
  rootless := by
    unfold urlsplit at h
    dsimp only at h
    obtain ⟨_, -, h⟩ := bind_eq_ok.mp h
    obtain ⟨_, -, h⟩ := bind_eq_ok.mp h
    cases h
    intro hrootless
    by_contra hnetloc
    apply hrootless
    unfold SplitResult.Rooted SplitResult.fullPath
    dsimp only
    rcases rooted_splitNetloc hnetloc with hnil | hhead
    · rw [if_pos hnil]
      rfl
    · split
      · rfl
      · exact hhead

theorem portSuffix_injective {port port' : Option Nat} (h : portSuffix port = portSuffix port') :
    port = port' := by
  cases port with
  | none =>
      cases port' with
      | none => rfl
      | some n' => cases h
  | some n =>
      cases port' with
      | none => cases h
      | some n' =>
          have hdigits : Nat.toDigits 10 n = Nat.toDigits 10 n' := by
            simpa [portSuffix] using h
          rw [← decimal_toDigits n, hdigits, decimal_toDigits]

/-- A host and a port are recovered from what is written of them. -/
theorem authority_injective {parts parts' : SplitResult} (hcut : Cut lib parts)
    (hcut' : Cut lib parts')
    (h : parts.writtenHost lib ++ portSuffix parts.writtenPort =
      parts'.writtenHost lib ++ portSuffix parts'.writtenPort) :
    (parts.hostname lib).getD [] = (parts'.hostname lib).getD [] ∧
      parts.writtenPort = parts'.writtenPort := by
  have hhead := hcut.head
  have hhead' := hcut'.head
  unfold SplitResult.writtenHost at h
  generalize (parts.hostname lib).getD [] = host at h hhead ⊢
  generalize (parts'.hostname lib).getD [] = host' at h hhead' ⊢
  generalize parts.writtenPort = port at h ⊢
  generalize parts'.writtenPort = port' at h ⊢
  have hopen : ∀ port : Option Nat, '[' ∉ portSuffix port :=
    fun _ => not_mem_portSuffix (by decide) (by decide)
  have hclose : ∀ port : Option Nat, ']' ∉ portSuffix port :=
    fun _ => not_mem_portSuffix (by decide) (by decide)
  -- a text that begins with a bracket is not that of a bare host
  have hbare : ∀ (host : List Char) (port : Option Nat), host.head? ≠ some '[' →
      (host ++ portSuffix port).head? ≠ some '[' := by
    intro host port hne
    cases host with
    | nil =>
        intro heq
        exact hopen port (List.mem_of_mem_head? heq)
    | cons c rest => exact hne
  dsimp only at h
  by_cases hcolon : ':' ∈ host
  · rw [if_pos hcolon] at h
    by_cases hcolon' : ':' ∈ host'
    · rw [if_pos hcolon'] at h
      have hsplit : ('[' :: host) ++ ']' :: portSuffix port =
          ('[' :: host') ++ ']' :: portSuffix port' := by
        simpa using h
      have hbefore := congrArg (beforeLast ']') hsplit
      have hafter := congrArg (Urls.afterLast ']') hsplit
      rw [(rsplit_append (hclose port)).1, (rsplit_append (hclose port')).1] at hbefore
      rw [(rsplit_append (hclose port)).2, (rsplit_append (hclose port')).2] at hafter
      exact ⟨(List.cons.inj hbefore).2, portSuffix_injective hafter⟩
    · rw [if_neg hcolon'] at h
      refine absurd ?_ (hbare host' port' hhead')
      rw [← h]
      rfl
  · rw [if_neg hcolon] at h
    by_cases hcolon' : ':' ∈ host'
    · rw [if_pos hcolon'] at h
      refine absurd ?_ (hbare host port hhead)
      rw [h]
      rfl
    · rw [if_neg hcolon'] at h
      have hbefore : ∀ (host : List Char) (port : Option Nat), ':' ∉ host →
          beforeMark ':' (host ++ portSuffix port) = host := by
        intro host port hfree
        cases port with
        | none => rw [portSuffix, List.append_nil, beforeMark_eq_self hfree]
        | some n => exact beforeMark_append hfree _
      have hhosts := congrArg (beforeMark ':') h
      rw [hbefore host port hcolon, hbefore host' port' hcolon'] at hhosts
      subst hhosts
      exact ⟨rfl, portSuffix_injective (List.append_cancel_left h)⟩

/-- The two URLs agree in all that is written of them. -/
def Alike (lib : UrlLibrary) (parts parts' : SplitResult) : Prop :=
  parts.scheme = parts'.scheme ∧
    ((parts.Rooted ↔ parts'.Rooted) ∧
        (parts.hostname lib).getD [] = (parts'.hostname lib).getD [] ∧
        parts.writtenPort = parts'.writtenPort ∧ parts.fullPath = parts'.fullPath ∨
      ¬parts.Rooted ∧ parts'.Rooted ∧ parts.fullPath = parts'.writtenRest lib ∨
      parts.Rooted ∧ ¬parts'.Rooted ∧ parts.writtenRest lib = parts'.fullPath)

/-- A path that stands alone is all that is written behind the scheme. -/
theorem writtenRest_of_rootless {parts : SplitResult} (hcut : Cut lib parts)
    (h : ¬parts.Rooted) :
    (parts.hostname lib).getD [] = [] ∧ parts.writtenPort = none ∧
      parts.writtenRest lib = parts.fullPath := by
  have hnetloc := hcut.rootless h
  have hinfo : parts.hostinfo = ([], []) := by
    rw [SplitResult.hostinfo, SplitResult.hostPort, hnetloc]
    rfl
  have hname : (parts.hostname lib).getD [] = [] := by
    rw [SplitResult.hostname, hinfo]
    rfl
  have hport : parts.writtenPort = none := by
    rw [SplitResult.writtenPort, SplitResult.port, hinfo]
    rfl
  refine ⟨hname, hport, ?_⟩
  rw [SplitResult.writtenRest, SplitResult.writtenHost, hname, hport]
  rfl

theorem slash_not_mem_authority {parts : SplitResult} (hcut : Cut lib parts) :
    '/' ∉ parts.writtenHost lib ++ portSuffix parts.writtenPort := by
  intro hmem
  rcases List.mem_append.mp hmem with hmem | hmem
  · have hhost := hcut.host
    unfold SplitResult.writtenHost at hmem
    dsimp only at hmem
    split at hmem
    · simp [hhost] at hmem
    · exact hhost hmem
  · exact not_mem_portSuffix (by decide) (by decide) hmem

theorem rooted_path {parts : SplitResult} (h : parts.Rooted) :
    ∃ tail, parts.fullPath = '/' :: tail := by
  unfold SplitResult.Rooted at h
  cases hpath : parts.fullPath with
  | nil =>
      rw [hpath] at h
      cases h
  | cons c tail =>
      rw [hpath] at h
      cases h
      exact ⟨tail, rfl⟩

/-- Two URLs are written the same when they agree in what is written. -/
theorem written_eq_iff {parts parts' : SplitResult} (hcut : Cut lib parts)
    (hcut' : Cut lib parts') :
    parts.scheme ++ "://".toList ++ parts.writtenRest lib =
        parts'.scheme ++ "://".toList ++ parts'.writtenRest lib ↔
      Alike lib parts parts' := by
  have hscheme : parts.scheme ++ "://".toList ++ parts.writtenRest lib =
      parts'.scheme ++ "://".toList ++ parts'.writtenRest lib ↔
        parts.scheme = parts'.scheme ∧ parts.writtenRest lib = parts'.writtenRest lib := by
    constructor
    · intro h
      have hcolons : parts.scheme ++ ':' :: ("//".toList ++ parts.writtenRest lib) =
          parts'.scheme ++ ':' :: ("//".toList ++ parts'.writtenRest lib) := by
        simpa using h
      obtain ⟨heq, hrest⟩ := cut_at_mark hcut.scheme hcut'.scheme hcolons
      exact ⟨heq, List.append_cancel_left hrest⟩
    · rintro ⟨heq, hrest⟩
      rw [heq, hrest]
  rw [hscheme, Alike, and_congr_right_iff]
  intro _
  by_cases hrooted : parts.Rooted
  · by_cases hrooted' : parts'.Rooted
    · simp only [hrooted, hrooted', not_true_eq_false, false_and, and_false, or_false, true_and]
      constructor
      · intro h
        obtain ⟨tail, htail⟩ := rooted_path hrooted
        obtain ⟨tail', htail'⟩ := rooted_path hrooted'
        rw [SplitResult.writtenRest, SplitResult.writtenRest, htail, htail'] at h
        obtain ⟨hauthority, hpath⟩ := cut_at_mark (slash_not_mem_authority hcut)
          (slash_not_mem_authority hcut') h
        obtain ⟨hhost, hport⟩ := authority_injective hcut hcut' hauthority
        exact ⟨hhost, hport, by rw [htail, htail', hpath]⟩
      · rintro ⟨hhost, hport, hpath⟩
        rw [SplitResult.writtenRest, SplitResult.writtenRest, SplitResult.writtenHost,
          SplitResult.writtenHost, hhost, hport, hpath]
    · obtain ⟨_, _, hrest⟩ := writtenRest_of_rootless hcut' hrooted'
      simp [hrooted, hrooted', hrest]
  · obtain ⟨hhost, hport, hrest⟩ := writtenRest_of_rootless hcut hrooted
    by_cases hrooted' : parts'.Rooted
    · simp [hrooted, hrooted', hrest]
    · obtain ⟨hhost', hport', hrest'⟩ := writtenRest_of_rootless hcut' hrooted'
      simp [hrooted, hrooted', hrest, hrest', hhost, hhost', hport, hport']

/-! ## Matching -/

/-- What the writing loses is the same in both URLs: their ports can be read,
their user information is one, and both have an authority or a path with a
slash in front, or neither has. -/
structure Faithful (parts parts' : SplitResult) : Prop where
  port : ∃ port, parts.port = .ok port
  port' : ∃ port, parts'.port = .ok port
  userinfo : parts.userinfo = parts'.userinfo
  rooted : parts.Rooted ↔ parts'.Rooted

theorem written_or (default p : Option Nat) :
    (p.filter fun port => decide (some port ≠ default)).or default = p.or default := by
  cases p with
  | none => rfl
  | some n =>
      rw [Option.filter_some]
      by_cases h : some n = default
      · simp [← h]
      · simp [h]

theorem or_written (default p : Option Nat) :
    ((p.or default).filter fun port => decide (some port ≠ default)) =
      p.filter fun port => decide (some port ≠ default) := by
  cases p with
  | some n => rfl
  | none =>
      cases default with
      | none => rfl
      | some d => simp [Option.filter_some]

/-- The port that is written decides the port in effect, and the other way. -/
theorem written_port_iff (default p p' : Option Nat) :
    (p.filter fun port => decide (some port ≠ default)) =
        (p'.filter fun port => decide (some port ≠ default)) ↔
      p.or default = p'.or default := by
  constructor
  · intro h
    rw [← written_or, h, written_or]
  · intro h
    rw [← or_written, h, or_written]

theorem schemePort_congr {parts parts' : SplitResult} (h : parts.scheme = parts'.scheme) :
    parts.schemePort = parts'.schemePort := by
  rw [SplitResult.schemePort, SplitResult.schemePort, h]

theorem alike_faithful_iff (parts parts' : SplitResult) :
    Alike lib parts parts' ∧ Faithful parts parts' ↔
      (parts.hostname lib).getD [] = (parts'.hostname lib).getD [] ∧
        ∃ target, Target.ofParts lib parts = some target ∧
          Target.ofParts lib parts' = some target := by
  constructor
  · rintro ⟨⟨hscheme, halike⟩, hfaithful⟩
    obtain ⟨port, hport⟩ := hfaithful.port
    obtain ⟨port', hport'⟩ := hfaithful.port'
    have hrooted := hfaithful.rooted
    rcases halike with ⟨_, hhost, hwritten, hpath⟩ | ⟨hno, hyes, _⟩ | ⟨hyes, hno, _⟩
    · refine ⟨hhost, _, by rw [Target.ofParts, hport], ?_⟩
      rw [SplitResult.writtenPort, SplitResult.writtenPort, hport, hport',
        ← schemePort_congr hscheme] at hwritten
      rw [Target.ofParts, hport']
      simp only [hscheme, hhost, hpath, hfaithful.userinfo, ← schemePort_congr hscheme,
        (written_port_iff _ _ _).mp hwritten]
    · exact absurd (hrooted.mpr hyes) hno
    · exact absurd (hrooted.mp hyes) hno
  · rintro ⟨hhost, target, htarget, htarget'⟩
    unfold Target.ofParts at htarget htarget'
    cases hport : parts.port with
    | error e =>
        rw [hport] at htarget
        cases htarget
    | ok port =>
        cases hport' : parts'.port with
        | error e =>
            rw [hport'] at htarget'
            cases htarget'
        | ok port' =>
            rw [hport] at htarget
            rw [hport', ← Option.some.inj htarget] at htarget'
            have hsame := Option.some.inj htarget'
            simp only [Target.mk.injEq] at hsame
            obtain ⟨hscheme, huserinfo, _, heffective, hpath⟩ := hsame
            have hrooted : parts.Rooted ↔ parts'.Rooted := by
              rw [SplitResult.Rooted, SplitResult.Rooted, hpath]
            rw [schemePort_congr hscheme] at heffective
            have hwritten : parts.writtenPort = parts'.writtenPort := by
              rw [SplitResult.writtenPort, SplitResult.writtenPort, hport, hport',
                schemePort_congr hscheme]
              exact ((written_port_iff _ _ _).mpr heffective).symm
            exact ⟨⟨hscheme.symm, .inl ⟨hrooted, hhost, hwritten, hpath.symm⟩⟩,
              ⟨port, hport⟩, ⟨port', hport'⟩, huserinfo.symm, hrooted⟩

theorem path_of_ofParts {parts : SplitResult} {target : Target}
    (h : Target.ofParts lib parts = some target) : target.path = parts.fullPath := by
  unfold Target.ofParts at h
  split at h
  · cases h
  · cases h
    rfl

/-- Alike URLs of one target have the same host. -/
theorem host_of_alike {parts parts' : SplitResult} {target : Target}
    (halike : Alike lib parts parts') (htarget : Target.ofParts lib parts = some target)
    (htarget' : Target.ofParts lib parts' = some target) :
    (parts.hostname lib).getD [] = (parts'.hostname lib).getD [] := by
  have hrooted : parts.Rooted ↔ parts'.Rooted := by
    rw [SplitResult.Rooted, SplitResult.Rooted, ← path_of_ofParts htarget,
      ← path_of_ofParts htarget']
  rcases halike.2 with ⟨_, hhost, _⟩ | ⟨hno, hyes, _⟩ | ⟨hyes, hno, _⟩
  · exact hhost
  · exact absurd (hrooted.mpr hyes) hno
  · exact absurd (hrooted.mp hyes) hno

/-- The check succeeds when both URLs can be split and are written the same. -/
theorem htuAccepted_iff (hsplits : v.platform.Splits lib) (hlower : LowerKeepsMarks lib)
    {htu url : String} :
    v.htuAccepted htu url = .ok true ↔
      ∃ parts parts', urlsplit lib htu = .ok parts ∧ urlsplit lib url = .ok parts' ∧
        Alike lib parts parts' := by
  -- a URL without its query and fragment is written from the same parts
  have hwritten : ∀ {text : String} {parts : SplitResult}, urlsplit lib text = .ok parts →
      v.normalizeHtu (stripQueryFragment text) =
        .ok (String.ofList (parts.scheme ++ "://".toList ++ parts.writtenRest lib)) := by
    intro text parts h
    have hstripped := urlsplit_stripQueryFragment lib text
    rw [h, Except.map] at hstripped
    have htext := normalizeHtu_parts hsplits hstripped
    exact htext
  have hraises : ∀ {text : String} {e : Raised}, urlsplit lib text = .error e →
      v.normalizeHtu (stripQueryFragment text) = .error e := by
    intro text e h
    have hstripped := urlsplit_stripQueryFragment lib text
    rw [h] at hstripped
    rw [normalizeHtu, hsplits, hstripped]
    rfl
  unfold htuAccepted htuMatches
  cases hhtu : urlsplit lib htu with
  | error e =>
      rw [hraises hhtu]
      simp [bind, Except.bind]
  | ok parts =>
      rw [hwritten hhtu]
      cases hurl : urlsplit lib url with
      | error e =>
          rw [hraises hurl]
          simp [bind, Except.bind]
      | ok parts' =>
          rw [hwritten hurl]
          have hcut : Cut lib parts := cut_of_urlsplit hlower hhtu
          have hcut' : Cut lib parts' := cut_of_urlsplit hlower hurl
          simp only [bind, Except.bind, Except.ok.injEq, decide_eq_true_eq, String.ofList_inj,
            written_eq_iff hcut hcut', exists_and_left, exists_eq_left']

/-- Nothing that is lost in the writing sets the two URLs apart, and nothing
that is kept does when they have one target. -/
structure Told (lib : UrlLibrary) (parts parts' : SplitResult) : Prop where
  faithful : Alike lib parts parts' → Faithful parts parts'
  host : ∀ target, Target.ofParts lib parts = some target → Target.ofParts lib parts' = some target →
    (parts.hostname lib).getD [] = (parts'.hostname lib).getD []

/-- The `htu` check succeeds exactly for one target, unless the URLs differ only
in what the writing loses, or in the case of what stands behind a `%` of their
hosts. -/
theorem htuMatches_iff (hsplits : v.platform.Splits lib) (hlower : LowerKeepsMarks lib)
    (htu url : String) :
    (v.htuAccepted htu url = .ok true ↔
        ∃ target, Target.ofUrl lib htu = some target ∧ Target.ofUrl lib url = some target) ↔
      ∀ parts parts', urlsplit lib htu = .ok parts → urlsplit lib url = .ok parts' →
        Told lib parts parts' := by
  rw [htuAccepted_iff hsplits hlower, Target.ofUrl, Target.ofUrl]
  cases hhtu : urlsplit lib htu with
  | error e => simp
  | ok parts =>
      cases hurl : urlsplit lib url with
      | error e => simp
      | ok parts' =>
          have hiff : Alike lib parts parts' ∧ Faithful parts parts' ↔ _ :=
            alike_faithful_iff parts parts'
          simp only [Except.ok.injEq, exists_and_left, exists_eq_left']
          constructor
          · rintro h _ _ rfl rfl
            refine ⟨fun halike => ?_, fun target htarget htarget' => ?_⟩
            · obtain ⟨target, htarget, htarget'⟩ := h.mp halike
              have hhost := host_of_alike halike htarget htarget'
              exact (hiff.mpr ⟨hhost, target, htarget, htarget'⟩).2
            · exact host_of_alike (h.mpr ⟨target, htarget, htarget'⟩) htarget htarget'
          · intro htold
            have htold := htold parts parts' rfl rfl
            constructor
            · intro halike
              exact (hiff.mp ⟨halike, htold.faithful halike⟩).2
            · rintro ⟨target, htarget, htarget'⟩
              exact (hiff.mpr ⟨htold.host target htarget htarget', target, htarget, htarget'⟩).1

end Parts

end PyJWTDpopProofValidator

namespace Sample

/-- A validator that splits texts of ASCII characters. -/
def htuValidator : PyJWTDpopProofValidator Unit where
  platform := { platform with
    urlsplit := fun url =>
      (Urls.urlsplit UrlLibrary.ascii url).map (SplitResult.toUrlParts UrlLibrary.ascii) }
  jwt :=
    { header := fun _ => none
      payload := fun _ => none
      signed := fun _ _ _ => false
      publicKey := fun _ => none
      secretKey := fun _ => ()
      signed_algorithm := by
        intro token key algorithms h
        cases h }
  publicKeyFor := fun _ _ => none
  fromTimestamp := fun _ => .ok 0
  exceeds := fun _ _ => false

theorem htuValidator_splits : htuValidator.platform.Splits UrlLibrary.ascii := fun _ => rfl

theorem ascii_lower : LowerKeepsMarks UrlLibrary.ascii := lowerKeepsMarks_of_map fun _ => rfl

end Sample

namespace PyJWTDpopProofValidator

/-- The two URLs of the certification suite have one target. -/
theorem htuMatches_iff_suite :
    Sample.htuValidator.htuAccepted "HTTPS://HOST:443/path" "https://host/path?query" = .ok true := by
  refine ((htuMatches_iff Sample.htuValidator_splits Sample.ascii_lower _ _).mpr ?_).mpr
    ⟨⟨"https".toList, none, "host".toList, some 443, "/path".toList⟩, by decide +kernel,
      by decide +kernel⟩
  intro parts parts' h h'
  have hparts : urlsplit UrlLibrary.ascii "HTTPS://HOST:443/path" =
      .ok { scheme := "https".toList, netloc := "HOST:443".toList, path := "/path".toList } := by
    decide +kernel
  have hparts' : urlsplit UrlLibrary.ascii "https://host/path?query" =
      .ok { scheme := "https".toList, netloc := "host".toList, path := "/path".toList
            query := "query".toList } := by
    decide +kernel
  cases hparts.symm.trans h
  cases hparts'.symm.trans h'
  refine ⟨fun _ => ⟨⟨some 443, by decide +kernel⟩, ⟨none, by decide +kernel⟩, by decide +kernel,
    by decide +kernel⟩, fun _ _ _ => by decide +kernel⟩

/-- A port that cannot be read, a user, and a path without a slash are taken for
the target of the request; the case of an escape in the host is not. -/
theorem htu_flaws :
    (Sample.htuValidator.htuAccepted "https://host:99999/token" "https://host/token" = .ok true ∧
      Target.ofUrl UrlLibrary.ascii "https://host:99999/token" = none) ∧
    (Sample.htuValidator.htuAccepted "https://mallory@host/token" "https://host/token" = .ok true ∧
      Target.ofUrl UrlLibrary.ascii "https://mallory@host/token" ≠
        Target.ofUrl UrlLibrary.ascii "https://host/token") ∧
    (Sample.htuValidator.htuAccepted "https:host/token" "https://host/token" = .ok true ∧
      Target.ofUrl UrlLibrary.ascii "https:host/token" ≠
        Target.ofUrl UrlLibrary.ascii "https://host/token") ∧
    (Sample.htuValidator.htuAccepted "https://a%2Db/token" "https://a%2db/token" = .ok false ∧
      Target.ofUrl UrlLibrary.ascii "https://a%2Db/token" =
        Target.ofUrl UrlLibrary.ascii "https://a%2db/token") := by
  decide +kernel

end PyJWTDpopProofValidator

end PurIdentityServer
