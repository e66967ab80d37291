import PurIdentityServer.Domain.Origins

/-!
# EventOrigins — the origin a browser gives with a message

`origin_of_url` names the page a `session_state` is made for, and
`_is_valid_origin` accepts the origin the browser gives with a message of
that page. The first is the second, and is accepted, exactly for a plain
authority whose host name has no space and no bracket in it
(`agrees_iff`).
-/

namespace PurIdentityServer

open Effects FormUrl

namespace Urls

/-- `str.lower` makes none of the marks of a URL. -/
def LowerKeepsMarks (lib : UrlLibrary) : Prop :=
  ∀ text, ∀ c ∈ ['/', '?', '#', '@', ':', '[', '%', '\t', '\r', '\n'],
    c ∈ lib.lower text → c ∈ text

/-- Lower case character by character makes no mark. -/
theorem lowerKeepsMarks_of_map {lib : UrlLibrary}
    (h : ∀ text, lib.lower text = text.map Char.toLower) : LowerKeepsMarks lib := by
  intro text c hc hmem
  rw [h] at hmem
  obtain ⟨d, hd, hlow⟩ := List.mem_map.mp hmem
  have hsmall : c.toNat < 97 := by
    simp only [List.mem_cons, List.not_mem_nil, or_false] at hc
    rcases hc with rfl | rfl | rfl | rfl | rfl | rfl | rfl | rfl | rfl | rfl
    all_goals decide
  rw [← eq_of_toLower hlow hsmall]
  exact hd

variable (lib : UrlLibrary)

/-- `_is_valid_origin` -/
def isValidOrigin (origin : String) : Except Raised Bool :=
  let text := origin.toList
  if ("http://".toList <+: text ∨ "https://".toList <+: text) ∧ ' ' ∉ text then do
    let own ← originOfUrl lib origin
    .ok (decide (own = origin))
  else .ok false

/-! ## The characters of a host -/

theorem clean_plain {url : List Char} : ∀ c ∈ clean url, c ∉ ['\t', '\r', '\n'] := by
  intro c hc
  have hmem := (List.mem_filter.mp hc).2
  exact of_decide_eq_true hmem

theorem splitScheme_subset {url : List Char} : ∀ c ∈ (splitScheme url).2, c ∈ url := by
  intro c hc
  unfold splitScheme at hc
  dsimp only at hc
  split at hc
  · exact (List.dropWhile_suffix _).subset (List.mem_of_mem_drop hc)
  · exact hc

theorem splitNetloc_plain {url : List Char} : ∀ c ∈ (splitNetloc url).1,
    c ∈ url ∧ c ∉ ['/', '?', '#'] := by
  intro c hc
  unfold splitNetloc at hc
  split at hc
  · rename_i rest
    constructor
    · have hrest := (List.takeWhile_prefix _).subset hc
      exact List.mem_cons_of_mem _ (List.mem_cons_of_mem _ hrest)
    · simpa using List.mem_takeWhile_imp hc
  · cases hc

/-- No mark stands in the authority of a URL, but those of its parts. -/
theorem netloc_plain {uri : String} {parts : SplitResult} (h : urlsplit lib uri = .ok parts) :
    ∀ c ∈ parts.netloc, c ∉ ['/', '?', '#', '\t', '\r', '\n'] := by
  unfold urlsplit at h
  dsimp only at h
  obtain ⟨_, -, h⟩ := bind_eq_ok.mp h
  obtain ⟨_, -, h⟩ := bind_eq_ok.mp h
  cases h
  intro c hc
  obtain ⟨hmem, hmarks⟩ := splitNetloc_plain c hc
  have hclean := clean_plain c (splitScheme_subset c hmem)
  simp only [List.mem_cons, List.not_mem_nil, or_false, not_or] at hmarks hclean ⊢
  exact ⟨hmarks.1, hmarks.2.1, hmarks.2.2, hclean⟩

theorem not_mem_afterLast (mark : Char) (text : List Char) : mark ∉ afterLast mark text := by
  intro h
  simpa using List.mem_takeWhile_imp (List.mem_reverse.mp h)

/-- The host name of an authority without brackets has none of the marks. -/
theorem hostname_plain (hlower : LowerKeepsMarks lib) {uri : String} {parts : SplitResult}
    (h : urlsplit lib uri = .ok parts) (hbracket : '[' ∉ parts.hostPort) {name : List Char}
    (hname : parts.hostname lib = some name) :
    ∀ c ∈ ['/', '?', '#', '@', ':', '[', '\t', '\r', '\n'], c ∉ name := by
  have hhead : parts.hostPort.head? ≠ some '[' :=
    fun hhead => hbracket (List.mem_of_mem_head? hhead)
  have hhost : parts.hostinfo.1 = beforeMark ':' parts.hostPort := by
    rw [hostinfo_of_noBracket hbracket, Origin.authority, if_neg hhead]
  have hfree : ∀ c ∈ ['/', '?', '#', '@', ':', '[', '\t', '\r', '\n'], c ∉ parts.hostinfo.1 := by
    intro c hc hmem
    rw [hhost] at hmem
    have hport : c ∈ parts.hostPort := (List.takeWhile_prefix _).subset hmem
    have hnetloc := netloc_plain lib h c (mem_of_mem_afterLast hport)
    simp only [List.mem_cons, List.not_mem_nil, or_false, not_or] at hc hnetloc
    rcases hc with rfl | rfl | rfl | rfl | rfl | rfl | rfl | rfl | rfl
    · exact hnetloc.1 rfl
    · exact hnetloc.2.1 rfl
    · exact hnetloc.2.2.1 rfl
    · exact not_mem_afterLast '@' _ hport
    · exact not_mem_beforeMark ':' _ hmem
    · exact hbracket hport
    · exact hnetloc.2.2.2.1 rfl
    · exact hnetloc.2.2.2.2.1 rfl
    · exact hnetloc.2.2.2.2.2 rfl
  unfold SplitResult.hostname at hname
  dsimp only at hname
  split at hname
  · cases hname
  · cases hname
    intro c hc hmem
    apply hfree c hc
    rcases List.mem_append.mp hmem with hmem | hmem
    · have hmarks : ['/', '?', '#', '@', ':', '[', '\t', '\r', '\n'] ⊆
          ['/', '?', '#', '@', ':', '[', '%', '\t', '\r', '\n'] := by decide
      exact (List.takeWhile_prefix _).subset (hlower _ c (hmarks hc) hmem)
    · exact (List.dropWhile_suffix _).subset hmem

theorem dropWhile_of_not_mem {mark : Char} {text : List Char} (h : mark ∉ text) :
    text.dropWhile (· ≠ mark) = [] := by
  rw [List.dropWhile_eq_nil_iff]
  intro c hc
  exact decide_eq_true fun heq => h (heq ▸ hc)

/-- A host name in lower case is read as it is. -/
theorem lower_hostname (hlower : LowerKeepsMarks lib) {parts : SplitResult} {name : List Char}
    (hname : parts.hostname lib = some name) (hsmall : ∀ c ∈ name, Small c) :
    lib.lower (beforeMark '%' name) ++ name.dropWhile (· ≠ '%') = name := by
  unfold SplitResult.hostname at hname
  dsimp only at hname
  split at hname
  · cases hname
  · cases hname
    generalize parts.hostinfo.1 = host at hsmall ⊢
    have hfree : '%' ∉ lib.lower (beforeMark '%' host) := fun hmem =>
      not_mem_beforeMark '%' host (hlower _ '%' (by simp) hmem)
    have hself : lib.lower (lib.lower (beforeMark '%' host)) = lib.lower (beforeMark '%' host) := by
      have hlow : ∀ c ∈ lib.lower (beforeMark '%' host), Small c :=
        fun c hc => hsmall c (List.mem_append_left _ hc)
      rw [lib.lower_ascii _ fun c hc => (hlow c hc).1]
      calc (lib.lower (beforeMark '%' host)).map Char.toLower
          = (lib.lower (beforeMark '%' host)).map id :=
            List.map_congr_left fun c hc => (hlow c hc).2
        _ = lib.lower (beforeMark '%' host) := List.map_id _
    cases hdrop : host.dropWhile (· ≠ '%') with
    | nil => rw [List.append_nil, beforeMark_eq_self hfree, hself, dropWhile_of_not_mem hfree,
        List.append_nil]
    | cons c rest =>
        have hc : c = '%' := by
          have hhead := List.head?_dropWhile_not (· ≠ '%') host
          rw [hdrop] at hhead
          simpa using hhead
        subst hc
        rw [beforeMark_append hfree, hself, List.dropWhile_append_of_pos (fun c hc => ?_)]
        · simp
        · exact decide_eq_true fun heq => hfree (heq ▸ hc)

/-! ## An origin is read back -/

/-- The text of an origin: scheme, host name and port. -/
def originText (scheme name : List Char) (port : Option Nat) : List Char :=
  scheme ++ "://".toList ++ (name ++ portSuffix port)

theorem digits_portSuffix (port : Option Nat) :
    ∀ c ∈ portSuffix port, c = ':' ∨ c.isDigit = true := by
  cases port with
  | none => exact fun _ hc => absurd hc List.not_mem_nil
  | some n =>
      intro c hc
      rcases List.mem_cons.mp hc with rfl | hc
      · exact .inl rfl
      · have hdigit : c ∈ Nat.toDigits 10 n := by simpa using hc
        exact .inr (Nat.isDigit_of_mem_toDigits (by decide) (by decide) hdigit)

theorem not_mem_portSuffix {port : Option Nat} {c : Char} (hc : c ≠ ':')
    (hdigit : c.isDigit = false) : c ∉ portSuffix port := by
  intro hmem
  rcases digits_portSuffix port c hmem with heq | heq
  · exact hc heq
  · rw [hdigit] at heq
    cases heq

/-- An origin is cut into its scheme and its authority. -/
theorem urlsplit_originText {scheme name : List Char} {port : Option Nat}
    (hscheme : WebScheme scheme) (hname : ∀ c ∈ name, Small c)
    (hmarks : ∀ c ∈ ['/', '?', '#', '@', ':', '[', '\t', '\r', '\n'], c ∉ name) :
    urlsplit lib (String.ofList (originText scheme name port)) =
      if ']' ∈ name then .error valueError
      else .ok { scheme, netloc := name ++ portSuffix port } := by
  have hfree : ∀ c ∈ ['/', '?', '#', '@', '[', '\t', '\r', '\n'], c ∉ name ++ portSuffix port := by
    intro c hc hmem
    rcases List.mem_append.mp hmem with hmem | hmem
    · refine hmarks c ?_ hmem
      simp only [List.mem_cons, List.not_mem_nil, or_false] at hc ⊢
      tauto
    · simp only [List.mem_cons, List.not_mem_nil, or_false] at hc
      rcases hc with rfl | rfl | rfl | rfl | rfl | rfl | rfl | rfl
      all_goals exact not_mem_portSuffix (by decide) (by decide) hmem
  have htext : originText scheme name port =
      scheme ++ ':' :: ("//".toList ++ (name ++ portSuffix port)) := by
    simp [originText]
  have hclean : clean (originText scheme name port) = originText scheme name port := by
    have hdrop : (originText scheme name port).dropWhile (fun c => c.toNat ≤ 32) =
        originText scheme name port := by
      rcases hscheme with rfl | rfl
      · rfl
      · rfl
    rw [clean, hdrop, List.filter_eq_self]
    intro c hc
    refine decide_eq_true fun hmark => ?_
    have hrest : c ∉ name ++ portSuffix port := by
      refine hfree c ?_
      simp only [List.mem_cons, List.not_mem_nil, or_false] at hmark ⊢
      tauto
    rw [originText] at hc
    rcases List.mem_append.mp hc with hc | hc
    · simp only [List.mem_cons, List.not_mem_nil, or_false] at hmark
      rcases hscheme with rfl | rfl
      all_goals rcases hmark with rfl | rfl | rfl
      all_goals exact absurd hc (by decide)
    · exact hrest hc
  have hsplit : splitScheme (originText scheme name port) =
      (scheme, "//".toList ++ (name ++ portSuffix port)) := by
    have hcolon : ':' ∉ scheme := by
      rcases hscheme with rfl | rfl
      · decide
      · decide
    unfold splitScheme
    rw [htext, beforeMark_append hcolon, afterMark_append hcolon]
    rcases hscheme with rfl | rfl
    · exact if_pos ⟨by simp, by decide, by decide⟩
    · exact if_pos ⟨by simp, by decide, by decide⟩
  have hnetloc : splitNetloc ("//".toList ++ (name ++ portSuffix port)) =
      (name ++ portSuffix port, []) := by
    have hall : ∀ c ∈ name ++ portSuffix port, decide (c ∉ ['/', '?', '#']) = true := by
      intro c hc
      refine decide_eq_true fun hmark => hfree c ?_ hc
      simp only [List.mem_cons, List.not_mem_nil, or_false] at hmark ⊢
      tauto
    show ((name ++ portSuffix port).takeWhile fun c => decide (c ∉ ['/', '?', '#']),
      (name ++ portSuffix port).dropWhile fun c => decide (c ∉ ['/', '?', '#'])) = _
    rw [List.takeWhile_eq_self_iff.mpr hall, List.dropWhile_eq_nil_iff.mpr hall]
  have hascii : (name ++ portSuffix port).all (fun c => decide (c.toNat < 128)) = true := by
    rw [List.all_eq_true]
    intro c hc
    rcases List.mem_append.mp hc with hc | hc
    · exact decide_eq_true (hname c hc).1
    · exact decide_eq_true (small_portSuffix port c hc).1
  have hopen : '[' ∉ name ++ portSuffix port := hfree '[' (by simp)
  have hclose : ']' ∈ name ++ portSuffix port ↔ ']' ∈ name := by
    rw [List.mem_append, or_iff_left]
    exact not_mem_portSuffix (by decide) (by decide)
  unfold urlsplit
  rw [String.toList_ofList, hclean, hsplit]
  dsimp only
  rw [hnetloc]
  dsimp only
  unfold checkBrackets
  by_cases hname' : ']' ∈ name
  · have hne : ('[' ∈ name ++ portSuffix port) ≠ (']' ∈ name ++ portSuffix port) := by
      rw [hclose]
      simp [hopen, hname']
    rw [if_pos hne, if_pos hname']
    rfl
  · have heq : ¬('[' ∈ name ++ portSuffix port) ≠ (']' ∈ name ++ portSuffix port) := by
      rw [hclose]
      simp [hopen, hname']
    rw [if_neg heq, if_neg hopen, if_neg hname', checkNetloc, if_pos (.inr hascii)]
    rfl

theorem decimal_toDigits (n : Nat) : decimal (Nat.toDigits 10 n) = n := by
  have hread := Nat.ofDigitChars_toDigits (b := 10) (n := n) (by omega) (by omega)
  rwa [Nat.ofDigitChars_eq_foldl] at hread

/-- The port of an origin is read back. -/
theorem port_originText (scheme : List Char) {name : List Char} {port : Option Nat}
    (hport : ∀ n, port = some n → n ≤ 65535) (hcolon : ':' ∉ name)
    (hhost : ∀ c ∈ ['@', '['], c ∉ name ++ portSuffix port) :
    SplitResult.hostinfo { scheme, netloc := name ++ portSuffix port } =
        (name, (portSuffix port).drop 1) ∧
      SplitResult.port { scheme, netloc := name ++ portSuffix port } = .ok port := by
  have hself : afterLast '@' (name ++ portSuffix port) = name ++ portSuffix port := by
    have hrev : '@' ∉ (name ++ portSuffix port).reverse := fun hmem =>
      hhost '@' (by simp) (List.mem_reverse.mp hmem)
    have htake := beforeMark_eq_self hrev
    rw [beforeMark] at htake
    rw [afterLast, htake, List.reverse_reverse]
  have hinfo : SplitResult.hostinfo { scheme, netloc := name ++ portSuffix port } =
      (name, (portSuffix port).drop 1) := by
    rw [SplitResult.hostinfo, SplitResult.hostPort, hself, if_neg (hhost '[' (by simp))]
    cases port with
    | none =>
        rw [portSuffix, List.append_nil, beforeMark_eq_self hcolon, afterMark_eq_nil hcolon]
        rfl
    | some n =>
        rw [portSuffix, beforeMark_append hcolon, afterMark_append hcolon]
        rfl
  refine ⟨hinfo, ?_⟩
  rw [SplitResult.port, hinfo]
  cases port with
  | none => rfl
  | some n =>
      have hdigits : (portSuffix (some n)).drop 1 = Nat.toDigits 10 n := by
        simp [portSuffix]
      have hall : (Nat.toDigits 10 n).all Char.isDigit = true := by
        rw [List.all_eq_true]
        exact fun c hc => Nat.isDigit_of_mem_toDigits (by omega) (by omega) hc
      have hle := hport n rfl
      have hlength : (Nat.toDigits 10 n).length ≤ 5 :=
        (Nat.length_toDigits_le_iff (by omega) (by omega)).mpr (by omega)
      rw [hdigits]
      dsimp only
      rw [if_neg Nat.toDigits_ne_nil, decimal_toDigits, if_pos ⟨hall, by omega, hle⟩]

/-- The origin of an origin is itself, unless a bracket stands in its host. -/
theorem originOfUrl_originText {scheme name : List Char}
    {port : Option Nat} (hscheme : WebScheme scheme) (hname : ∀ c ∈ name, Small c)
    (hne : name ≠ [])
    (hmarks : ∀ c ∈ ['/', '?', '#', '@', ':', '[', '\t', '\r', '\n'], c ∉ name)
    (hread : lib.lower (beforeMark '%' name) ++ name.dropWhile (· ≠ '%') = name)
    (hport : ∀ n, port = some n → n ≤ 65535 ∧
      ¬((scheme = "http".toList ∧ n = 80) ∨ (scheme = "https".toList ∧ n = 443))) :
    originOfUrl lib (String.ofList (originText scheme name port)) =
      if ']' ∈ name then .error valueError
      else .ok (String.ofList (originText scheme name port)) := by
  unfold originOfUrl
  rw [urlsplit_originText lib hscheme hname hmarks]
  by_cases hclose : ']' ∈ name
  · rw [if_pos hclose, if_pos hclose]
    rfl
  · rw [if_neg hclose, if_neg hclose]
    have hhost : ∀ c ∈ ['@', '['], c ∉ name ++ portSuffix port := by
      intro c hc hmem
      simp only [List.mem_cons, List.not_mem_nil, or_false] at hc
      rcases List.mem_append.mp hmem with hmem | hmem
      · rcases hc with rfl | rfl
        · exact hmarks '@' (by simp) hmem
        · exact hmarks '[' (by simp) hmem
      · rcases hc with rfl | rfl
        all_goals exact not_mem_portSuffix (by decide) (by decide) hmem
    obtain ⟨hinfo, hparsed⟩ := port_originText scheme (fun n hn => (hport n hn).1)
      (hmarks ':' (by simp)) hhost
    have hhostname : SplitResult.hostname lib { scheme, netloc := name ++ portSuffix port } =
        some name := by
      rw [SplitResult.hostname, hinfo]
      dsimp only
      rw [if_neg hne, hread]
    have hfilter : (port.filter fun n => decide (¬((scheme = "http".toList ∧ n = 80) ∨
        (scheme = "https".toList ∧ n = 443)))) = port := by
      cases port with
      | none => rfl
      | some n =>
          rw [Option.filter_some, if_pos]
          exact decide_eq_true (hport n rfl).2
    dsimp only [bind, Except.bind]
    rw [hparsed, hhostname]
    simp only [Option.getD_some, hfilter]
    rw [originText, List.append_assoc, List.append_assoc]

/-! ## Agreement -/

/-- What a plain authority has for origin, by the function and by RFC 6454. -/
theorem originText_of_plain (idna : Idna) {uri : String} {parts : SplitResult}
    (h : urlsplit lib uri = .ok parts) (hweb : parts.Web) (hnetloc : parts.netloc ≠ [])
    (hplain : parts.Plain lib) :
    ∃ name port, parts.hostname lib = some name ∧ (∀ c ∈ name, Small c) ∧
      (∀ n, port = some n → n ≤ 65535 ∧ n ≠ parts.defaultPort) ∧
      originOfUrl lib uri = .ok (String.ofList (originText parts.scheme name port)) ∧
      Origin.ofUri lib idna uri = some (String.ofList (originText parts.scheme name port)) := by
  obtain ⟨o, ho, hrfc, hown⟩ := agree_of_plain lib idna h hweb hnetloc hplain
  obtain ⟨name, hname, hlow, hascii⟩ := hplain.host
  obtain ⟨port, hport⟩ := hplain.port
  rw [originOfUri_eq lib h hweb hnetloc, hname, hport] at ho
  have htext : o = String.ofList (originText parts.scheme name
      (port.filter fun port => port ≠ parts.defaultPort)) := by
    have heq := Option.some.inj (Except.ok.inj ho)
    rw [← heq, originText, ← List.append_assoc]
  rw [htext] at hrfc hown
  refine ⟨name, _, hname, fun c hc => ⟨hascii c hc, ?_⟩, ?_, hown, hrfc⟩
  · have hmap : name.map Char.toLower = name.map id := hlow.trans (List.map_id name).symm
    exact List.map_inj_left.mp hmap c hc
  · intro n hn
    obtain ⟨hsome, hdefault⟩ := Option.filter_eq_some_iff.mp hn
    refine ⟨?_, of_decide_eq_true hdefault⟩
    subst hsome
    unfold SplitResult.port at hport
    dsimp only at hport
    split at hport
    · cases hport
    · split at hport
      · rename_i hdigits
        cases hport
        exact hdigits.2.2
      · cases hport

theorem isValidOrigin_originText {scheme name : List Char} {port : Option Nat}
    (hscheme : WebScheme scheme)
    (hown : originOfUrl lib (String.ofList (originText scheme name port)) =
      if ']' ∈ name then .error valueError
      else .ok (String.ofList (originText scheme name port))) :
    isValidOrigin lib (String.ofList (originText scheme name port)) = .ok true ↔
      ' ' ∉ name ∧ ']' ∉ name := by
  have hstart : "http://".toList <+: originText scheme name port ∨
      "https://".toList <+: originText scheme name port := by
    rcases hscheme with rfl | rfl
    · exact .inl (List.prefix_append _ _)
    · exact .inr (List.prefix_append _ _)
  have hspace : ' ' ∈ originText scheme name port ↔ ' ' ∈ name := by
    have hport : ' ' ∉ portSuffix port := not_mem_portSuffix (by decide) (by decide)
    rw [originText, List.mem_append, List.mem_append, List.mem_append]
    rcases hscheme with rfl | rfl
    · simp [hport]
    · simp [hport]
  unfold isValidOrigin
  rw [String.toList_ofList]
  dsimp only
  rw [hown]
  by_cases hname : ' ' ∈ name
  · rw [if_neg fun h => h.2 (hspace.mpr hname)]
    simp [hname]
  · rw [if_pos ⟨hstart, fun h => hname (hspace.mp h)⟩]
    by_cases hclose : ']' ∈ name
    · rw [if_pos hclose]
      simp only [hclose, not_true_eq_false, and_false, iff_false]
      intro h
      cases h
    · rw [if_neg hclose]
      simp [hname, hclose, bind, Except.bind]

/-- The parts of a URL that has an origin. -/
theorem parts_of_ofUri (idna : Idna) {uri o : String} {parts : SplitResult}
    (h : urlsplit lib uri = .ok parts) (ho : Origin.ofUri lib idna uri = some o) :
    parts.Web ∧ (Origin.authority parts.hostPort).1 ≠ [] ∧
      ∃ name rest, Origin.hostName lib idna (Origin.authority parts.hostPort).1 = some name ∧
        name ≠ [] ∧ o = String.ofList (parts.scheme ++ "://".toList ++ (name ++ rest)) := by
  rw [Origin.ofUri, h] at ho
  obtain ⟨origin, horigin, rfl⟩ := Option.map_eq_some_iff.mp ho
  unfold Origin.ofParts at horigin
  dsimp only at horigin
  split at horigin
  · cases horigin
  · rename_i hparts
    push Not at hparts
    obtain ⟨name, hname, horigin⟩ := Option.bind_eq_some_iff.mp horigin
    obtain ⟨port, -, horigin⟩ := Option.bind_eq_some_iff.mp horigin
    split at horigin
    · cases horigin
    · rename_i hne
      cases horigin
      exact ⟨hparts.1, hparts.2, name, _, hname, hne, rfl⟩

theorem hostPort_ne_nil {parts : SplitResult} (h : (Origin.authority parts.hostPort).1 ≠ []) :
    parts.netloc ≠ [] := by
  intro hnetloc
  apply h
  rw [SplitResult.hostPort, hnetloc]
  rfl

/-- Where a URL has an origin and its authority is not plain, another origin or
none is computed. -/
theorem originOfUrl_of_not_plain (idna : Idna) {uri o : String} {parts : SplitResult}
    (h : urlsplit lib uri = .ok parts) (ho : Origin.ofUri lib idna uri = some o)
    (hplain : ¬parts.Plain lib) : originOfUrl lib uri ≠ .ok o := by
  obtain ⟨hweb, hhost, name', rest', hname', hne', htext⟩ := parts_of_ofUri lib idna h ho
  have hnetloc := hostPort_ne_nil hhost
  intro hown
  unfold originOfUrl at hown
  rw [h] at hown
  dsimp only [bind, Except.bind] at hown
  cases hport : parts.port with
  | error e =>
      rw [hport] at hown
      have hempty : "" = o := Except.ok.inj hown
      obtain ⟨scheme, rest, _, heq, hrest, _⟩ := ofUri_shape lib idna ho
      rw [← hempty] at heq
      have hlist := congrArg String.toList heq
      rw [String.toList_ofList] at hlist
      simp at hlist
  | ok port =>
      rw [hport] at hown
      dsimp only at hown
      cases hname : parts.hostname lib with
      | none =>
          -- an address without a text between its brackets
          by_cases hbracket : '[' ∈ parts.hostPort
          · obtain ⟨hhead, -⟩ := bracket_head lib h hbracket
            have hfirst : (Origin.authority parts.hostPort).1.head? = some '[' := by
              rw [Origin.authority, if_pos hhead]
              cases hlist : parts.hostPort with
              | nil =>
                  rw [hlist] at hhead
                  cases hhead
              | cons c rest =>
                  rw [hlist] at hhead
                  cases hhead
                  simp [beforeMark]
            rw [Origin.hostName, if_pos hfirst] at hname'
            cases hname'
            rw [hname, Option.getD_none, List.append_nil, htext] at hown
            have hrest := (append_inj_of_web hweb hweb
              (String.ofList_inj.mp (Except.ok.inj hown))).2
            have hmem : '[' ∈ (Origin.authority parts.hostPort).1 := List.mem_of_mem_head? hfirst
            have hmark := List.mem_append_left rest' (List.mem_map_of_mem (f := Char.toLower) hmem)
            rw [← hrest] at hmark
            exact not_mem_portSuffix (by decide) (by decide) hmark
          · have hinfo := hostinfo_of_noBracket hbracket
            unfold SplitResult.hostname at hname
            rw [hinfo] at hname
            dsimp only at hname
            rw [if_neg hhost] at hname
            cases hname
      | some name =>
          rw [hname] at hown
          simp only [Option.getD_some, filter_defaultPort hweb] at hown
          have huri : originOfUri lib uri = .ok (some o) := by
            rw [originOfUri_eq lib h hweb hnetloc, hname, hport, ← Except.ok.inj hown]
            rfl
          rcases apart_of_not_plain lib idna h hweb hnetloc hplain huri with hapart | hapart
          · exact hapart uri ho
          · obtain ⟨o', ho', hnever⟩ := hapart
            rw [ho] at ho'
            cases ho'
            exact hnever uri huri

/-- The origin of a page is what `origin_of_url` computes, and is accepted,
exactly when its authority is plain and its host name has neither a space nor
a bracket. -/
theorem agrees_iff (hlower : LowerKeepsMarks lib) (idna : Idna) {uri o : String}
    {parts : SplitResult} (h : urlsplit lib uri = .ok parts)
    (ho : Origin.ofUri lib idna uri = some o) :
    (originOfUrl lib uri = .ok o ∧ isValidOrigin lib o = .ok true) ↔
      parts.Plain lib ∧ ∀ name, parts.hostname lib = some name → ' ' ∉ name ∧ ']' ∉ name := by
  obtain ⟨hweb, hhost, -⟩ := parts_of_ofUri lib idna h ho
  have hnetloc := hostPort_ne_nil hhost
  by_cases hplain : parts.Plain lib
  · obtain ⟨name, port, hname, hsmall, hport, hown, hrfc⟩ :=
      originText_of_plain lib idna h hweb hnetloc hplain
    rw [ho] at hrfc
    cases hrfc
    have hmarks := hostname_plain lib hlower h hplain.noBracket hname
    have hread := lower_hostname lib hlower hname hsmall
    have hwritten : ∀ n, port = some n → n ≤ 65535 ∧
        ¬((parts.scheme = "http".toList ∧ n = 80) ∨ (parts.scheme = "https".toList ∧ n = 443)) := by
      intro n hn
      obtain ⟨hle, hdefault⟩ := hport n hn
      refine ⟨hle, fun hweb' => hdefault ?_⟩
      rcases hweb' with ⟨hscheme, hn⟩ | ⟨hscheme, hn⟩
      · simp [SplitResult.defaultPort, hscheme, hn]
      · simp [SplitResult.defaultPort, hscheme, hn]
    have hself := originOfUrl_originText lib hweb hsmall (hostname_ne_nil lib hname) hmarks hread
      hwritten
    rw [isValidOrigin_originText lib hweb hself]
    simp [hown, hplain, hname]
  · have hother := originOfUrl_of_not_plain lib idna h ho hplain
    simp [hplain, hother]

end Urls

end PurIdentityServer
