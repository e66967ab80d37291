import Mathlib.Data.List.DropRight
import PurIdentityServer.Application.Authorize
import PurIdentityServer.Application.BackchannelAuthorize
import PurIdentityServer.Lib.JsonList

/-!
# ResourceFolding — repeated `resource` values in one text

A parameter has one value: a single resource travels as it is, several as
a JSON array. The decoder tells the two apart by the opening bracket. So a
list of values comes back as its distinct values, except where a single
value is itself the text of an array (`resource_folding_iff`).
-/

namespace PurIdentityServer

open Effects

/-! ## Texts without white space around them -/

namespace Text

/-- No white space at either end. -/
def Stripped (s : String) : Prop := strip s = s

theorem dropWhile_of_isPrefix {p : Char → Bool} {l m : List Char} (h : l.dropWhile p = l)
    (hstart : m <+: l) : m.dropWhile p = m := by
  cases m with
  | nil => rfl
  | cons c rest =>
      obtain ⟨more, rfl⟩ := hstart
      rw [List.cons_append, List.dropWhile_cons] at h
      rw [List.dropWhile_cons]
      split
      · rename_i hspace
        rw [if_pos hspace] at h
        have hlength := congrArg List.length h
        have hle := (List.dropWhile_suffix p (l := rest ++ more)).length_le
        simp only [List.length_cons] at hlength
        omega
      · rfl

theorem rdropWhile_isPrefix (p : Char → Bool) (l : List Char) : rdropWhile p l <+: l := by
  unfold rdropWhile
  rw [← List.reverse_suffix, List.reverse_reverse]
  exact List.dropWhile_suffix p

theorem rdropWhile_rdropWhile (p : Char → Bool) (l : List Char) :
    rdropWhile p (rdropWhile p l) = rdropWhile p l := by
  unfold rdropWhile
  rw [List.reverse_reverse, List.dropWhile_idempotent]

theorem strip_stripped (s : String) : Stripped (strip s) := by
  unfold Stripped strip
  rw [String.toList_ofList]
  have hleft : (s.toList.dropWhile isSpace).dropWhile isSpace = s.toList.dropWhile isSpace :=
    List.dropWhile_idempotent _ _
  rw [dropWhile_of_isPrefix hleft (rdropWhile_isPrefix _ _), rdropWhile_rdropWhile]

/-- A text between two marks that are no white space. -/
theorem stripped_between {first last : Char} {middle : List Char} (hfirst : isSpace first = false)
    (hlast : isSpace last = false) : Stripped (String.ofList (first :: (middle ++ [last]))) := by
  unfold Stripped strip rdropWhile
  rw [String.toList_ofList, List.dropWhile_cons, hfirst, if_neg Bool.false_ne_true,
    List.reverse_cons, List.reverse_append, List.reverse_singleton, List.cons_append,
    List.nil_append, List.cons_append, List.dropWhile_cons, hlast, if_neg Bool.false_ne_true]
  simp

/-- Values that were not seen yet and differ are kept. -/
theorem dedupFirst_of_nodup {l seen : List String} (h : (seen.reverse ++ l).Nodup) :
    dedupFirst l seen = seen.reverse ++ l := by
  induction l generalizing seen with
  | nil => simp [dedupFirst]
  | cons s rest ih =>
      have hnew : s ∉ seen := by
        intro hmem
        rw [List.nodup_append] at h
        exact h.2.2 s (List.mem_reverse.mpr hmem) s List.mem_cons_self rfl
      unfold dedupFirst
      rw [if_neg hnew, ih]
      · simp
      · simpa using h

theorem nodup_dedupFirst {l seen : List String} (h : seen.Nodup) : (dedupFirst l seen).Nodup := by
  induction l generalizing seen with
  | nil => exact List.nodup_reverse.mpr h
  | cons s rest ih =>
      unfold dedupFirst
      split
      · exact ih h
      · rename_i hnew
        exact ih (List.nodup_cons.mpr ⟨hnew, h⟩)

end Text

/-! ## The values of the parameter -/

section
variable (p : Platform)

/-- The stripped values that are not empty, each once, in order. -/
def distinctResources (values : List String) : List String :=
  Text.dedupFirst ((values.map Text.strip).filter (· ≠ "")) []

/-- `encode_resource_parameter` -/
def foldResources (values : List String) : String := encodeResourceParameter JsonList.dumps values

/-- `json.loads` reads a list of strings that `json.dumps` wrote. -/
def ReadsLists (p : Platform) : Prop :=
  ∀ values : List String, p.jsonLoads (JsonList.dumps values) = some (.arr (values.map .str))

/-- The texts of the values that a JSON array holds. -/
def arrayTexts (decoded : Json) : List String :=
  let items := match decoded with
    | .arr items => items
    | other => [other]
  Text.dedupFirst ((items.map (resourceText p)).filter (· ≠ "")) []

/-- A single value is the JSON text of an array that stands for other values. -/
def ReadsAsArray (values : List String) : Prop :=
  ∃ value decoded, distinctResources values = [value] ∧ Text.startsWith value "[" = true ∧
    p.jsonLoads value = some decoded ∧ arrayTexts p decoded ≠ [value]

variable {p}

theorem mem_distinctResources {values : List String} {value : String}
    (h : value ∈ distinctResources values) : Text.Stripped value ∧ value ≠ "" := by
  unfold distinctResources at h
  rw [Text.mem_dedupFirst, List.mem_filter, List.mem_map] at h
  rcases h with hseen | ⟨⟨raw, -, rfl⟩, hne⟩
  · cases hseen
  · exact ⟨Text.strip_stripped raw, by simpa using hne⟩

/-- Values that are stripped, not empty and distinct are the distinct ones. -/
theorem dedup_stripped {values : List String} (hnodup : values.Nodup)
    (hvalues : ∀ value ∈ values, Text.Stripped value ∧ value ≠ "") :
    distinctResources values = values := by
  have hstrip : values.map Text.strip = values := by
    rw [List.map_congr_left (g := id) fun value hmem => (hvalues value hmem).1, List.map_id]
  have hfilter : values.filter (· ≠ "") = values := by
    rw [List.filter_eq_self]
    intro value hmem
    exact decide_eq_true (hvalues value hmem).2
  unfold distinctResources
  rw [hstrip, hfilter, Text.dedupFirst_of_nodup (by simpa using hnodup)]
  rfl

theorem distinctResources_distinct (values : List String) :
    distinctResources (distinctResources values) = distinctResources values :=
  dedup_stripped (Text.nodup_dedupFirst List.nodup_nil) fun _ => mem_distinctResources

/-- Only the distinct values are written. -/
theorem foldResources_distinct (values : List String) :
    foldResources (distinctResources values) = foldResources values := by
  have h := distinctResources_distinct values
  unfold distinctResources at h
  unfold foldResources encodeResourceParameter distinctResources
  rw [h]

theorem resourceText_str (value : String) : resourceText p (.str value) = Text.strip value := rfl

theorem arrayTexts_strings (values : List String) :
    arrayTexts p (.arr (values.map .str)) = distinctResources values := by
  unfold arrayTexts distinctResources
  dsimp only
  rw [List.map_map]
  rfl

/-- What the decoder makes of a text without white space around it. -/
theorem parse_stripped {value : String} (hstripped : Text.Stripped value) (hne : value ≠ "") :
    parseResourceParameter p value =
      match (if Text.startsWith value "[" then p.jsonLoads value else none) with
      | some decoded => arrayTexts p decoded
      | none => [value] := by
  have hsingle : Text.dedupFirst (([Json.str value].map (resourceText p)).filter (· ≠ "")) [] =
      [value] := by
    rw [List.map_singleton, resourceText_str, hstripped, List.filter_cons_of_pos (by simpa using hne)]
    rfl
  unfold parseResourceParameter resourceCandidates
  rw [hstripped]
  dsimp only
  rw [if_neg hne]
  by_cases hbracket : Text.startsWith value "[" = true
  · rw [if_pos hbracket, if_pos hbracket]
    cases hloads : p.jsonLoads value with
    | none => exact hsingle
    | some decoded => cases decoded <;> rfl
  · rw [if_neg hbracket, if_neg hbracket]
    exact hsingle

theorem foldResources_nil {values : List String} (h : distinctResources values = []) :
    foldResources values = "" := by
  unfold distinctResources at h
  unfold foldResources encodeResourceParameter
  rw [h]

theorem foldResources_single {values : List String} {value : String}
    (h : distinctResources values = [value]) : foldResources values = value := by
  unfold distinctResources at h
  unfold foldResources encodeResourceParameter
  rw [h]

theorem foldResources_many {values rest : List String} {value next : String}
    (h : distinctResources values = value :: next :: rest) :
    foldResources values = JsonList.dumps (value :: next :: rest) := by
  unfold distinctResources at h
  unfold foldResources encodeResourceParameter
  rw [h]

/-- The values come back exactly when no single one reads as an array of others. -/
theorem parse_foldResources_iff (hread : ReadsLists p) (values : List String) :
    parseResourceParameter p (foldResources values) = distinctResources values ↔
      ¬ ReadsAsArray p values := by
  cases hordered : distinctResources values with
  | nil =>
      rw [foldResources_nil hordered]
      constructor
      · rintro - ⟨value, decoded, hsingle, -⟩
        rw [hordered] at hsingle
        cases hsingle
      · intro _
        rfl
  | cons value rest =>
      have hvalue : Text.Stripped value ∧ value ≠ "" :=
        mem_distinctResources (hordered ▸ List.mem_cons_self)
      cases rest with
      | nil =>
          rw [foldResources_single hordered]
          rw [parse_stripped hvalue.1 hvalue.2]
          constructor
          · rintro hparsed ⟨other, decoded, hsingle, hbracket, hloads, htexts⟩
            rw [hordered] at hsingle
            cases hsingle
            rw [if_pos hbracket, hloads] at hparsed
            exact htexts hparsed
          · intro hplain
            split
            · rename_i decoded hloads
              by_contra hother
              split at hloads
              · rename_i hbracket
                exact hplain ⟨value, decoded, hordered, hbracket, hloads, hother⟩
              · cases hloads
            · rfl
      | cons next rest =>
          rw [foldResources_many hordered]
          have hstripped : Text.Stripped (JsonList.dumps (value :: next :: rest)) :=
            Text.stripped_between (by decide) (by decide)
          have hlist : (JsonList.dumps (value :: next :: rest)).toList =
              '[' :: (JsonList.items (value :: next :: rest) ++ [']']) := String.toList_ofList
          have hne : JsonList.dumps (value :: next :: rest) ≠ "" := by
            intro hempty
            rw [hempty] at hlist
            cases hlist
          have hbracket : Text.startsWith (JsonList.dumps (value :: next :: rest)) "[" = true := by
            unfold Text.startsWith
            rw [hlist]
            rfl
          have hdistinct := distinctResources_distinct values
          rw [hordered] at hdistinct
          rw [parse_stripped hstripped hne, if_pos hbracket, hread]
          dsimp only
          rw [arrayTexts_strings, hdistinct]
          constructor
          · rintro - ⟨other, decoded, hsingle, -⟩
            rw [hordered] at hsingle
            cases hsingle
          · intro _
            rfl

/-! ## The resources of a request -/

/-- The resources a token endpoint settles on are those of the grant, or the requested ones. -/
theorem effectiveResources_answers {u : TokenUseCase} {request : TokenRequest}
    {bound resources : List String} {ports : Ports} {w w' : World}
    (h : (u.effectiveResources request bound).run (exec ports) w = (.ok resources, w')) :
    (resources = if parseResourceParameter u.platform request.resource = [] then bound
      else parseResourceParameter u.platform request.resource) ∧
      (bound ≠ [] → ∀ uri ∈ resources, uri ∈ bound) := by
  unfold TokenUseCase.effectiveResources at h
  generalize parseResourceParameter u.platform request.resource = requested at h ⊢
  dsimp only at h
  split at h
  · rename_i hnone
    rw [Prog.run_pure_ok] at h
    rw [if_pos hnone, ← h.1]
    exact ⟨rfl, fun _ _ hmem => hmem⟩
  rename_i hsome
  rw [if_neg hsome]
  split at h
  · rw [run_refuseIf_bind_ok, Prog.run_pure_ok] at h
    obtain ⟨houtside, rfl, -⟩ := h
    refine ⟨rfl, fun _ uri hmem => ?_⟩
    by_contra hnot
    have hfound : uri ∈ requested.filter fun uri => uri ∉ bound :=
      List.mem_filter.mpr ⟨hmem, by simpa using hnot⟩
    rw [not_not.mp houtside] at hfound
    cases hfound
  · rename_i hunbound
    refine ⟨?_, fun hbound => absurd hbound hunbound⟩
    obtain ⟨malformed, w₁, -, h⟩ := Prog.run_bind_ok.mp h
    rw [run_refuseIf_bind_ok] at h
    obtain ⟨-, h⟩ := h
    split at h
    · rw [Prog.run_pure_ok] at h
      exact h.1.symm
    · obtain ⟨unknown, w₂, -, h⟩ := Prog.run_bind_ok.mp h
      rw [run_refuseIf_bind_ok, Prog.run_pure_ok] at h
      exact h.2.1.symm

/-- The resources a CIBA request is accepted with. -/
theorem checkRequest_resources {κ : Type} {b : BackchannelAuthenticationUseCase κ}
    {client : Client} {params : BackchannelAuthenticationParams} {ports : Ports} {w w' : World}
    {accepted : BackchannelAuthenticationUseCase.Accepted}
    (h : (b.checkRequest client params).run (exec ports) w = (.ok accepted, w')) :
    accepted.resources = parseResourceParameter b.platform params.resource := by
  unfold BackchannelAuthenticationUseCase.checkRequest at h
  dsimp only at h
  rw [run_refuseIf_bind_ok] at h
  obtain ⟨-, h⟩ := h
  iterate 3 obtain ⟨_, _, -, h⟩ := Prog.run_bind_ok.mp h
  rw [run_refuseIf_bind_ok] at h
  obtain ⟨-, h⟩ := h
  iterate 3 obtain ⟨_, _, -, h⟩ := Prog.run_bind_ok.mp h
  rw [run_refuseIf_bind_ok, Prog.run_pure_ok] at h
  rw [← h.2.1]

/-- The values a client sends repeated are the ones that a grant stores, that the token endpoint
compares with a grant and that an access token carries. -/
structure Folds (p : Platform) (values : List String) : Prop where
  parsed : parseResourceParameter p (foldResources values) = distinctResources values
  stable : foldResources (parseResourceParameter p (foldResources values)) = foldResources values
  code : ∀ (u : AuthorizeUseCase) (request : AuthorizeRequest) (scopes : Finset Scope)
    (client : Client) (value : String) (now : Instant), u.platform = p →
    request.resource = foldResources values →
      (u.codeRow request scopes client value now).resourceUris = distinctResources values
  ciba : ∀ {κ : Type} (b : BackchannelAuthenticationUseCase κ) (client : Client)
    (params : BackchannelAuthenticationParams) (ports : Ports) (w w' : World)
    (accepted : BackchannelAuthenticationUseCase.Accepted), b.platform = p →
    params.resource = foldResources values →
    (b.checkRequest client params).run (exec ports) w = (.ok accepted, w') →
      accepted.resources = distinctResources values
  token : ∀ (u : TokenUseCase) (request : TokenRequest) (bound resources : List String)
    (ports : Ports) (w w' : World), u.platform = p → request.resource = foldResources values →
    (u.effectiveResources request bound).run (exec ports) w = (.ok resources, w') →
      (resources = if distinctResources values = [] then bound else distinctResources values) ∧
        (bound ≠ [] → ∀ uri ∈ resources, uri ∈ bound)
  audience : (resourceAudience (parseResourceParameter p (foldResources values))).toList =
    distinctResources values

theorem folds_of_parsed {values : List String}
    (h : parseResourceParameter p (foldResources values) = distinctResources values) :
    Folds p values where
  parsed := h
  stable := by rw [h, foldResources_distinct]
  code u request scopes client value now hplatform hresource := by
    unfold AuthorizeUseCase.codeRow
    dsimp only
    rw [hplatform, hresource, h]
  ciba b client params ports w w' accepted hplatform hresource hrun := by
    rw [checkRequest_resources hrun, hplatform, hresource, h]
  token u request bound resources ports w w' hplatform hresource hrun := by
    have hanswer := effectiveResources_answers hrun
    rw [hplatform, hresource, h] at hanswer
    exact hanswer
  audience := by rw [resourceAudience_toList, h]

/-- Repeated values are folded into one text and come back as the distinct ones, everywhere they
are used, exactly when no single value reads as an array of others. -/
theorem resource_folding_iff (hread : ReadsLists p) (values : List String) :
    Folds p values ↔ ¬ ReadsAsArray p values := by
  rw [← parse_foldResources_iff hread]
  constructor
  · intro hfolds
    exact hfolds.parsed
  · exact folds_of_parsed

end

/-! ## A value that is an array -/

namespace Sample

/-- The library, with a reader of lists of strings. -/
def listPlatform : Platform :=
  { platform with
    jsonLoads := fun text => (JsonList.loads text).map fun values => .arr (values.map .str) }

theorem listPlatform_readsLists : ReadsLists listPlatform := by
  intro values
  show (JsonList.loads (JsonList.dumps values)).map _ = _
  rw [JsonList.loads_dumps]
  rfl

/-- Two resources, sent one by one. -/
theorem resource_folding_pair :
    Folds listPlatform ["https://a.example", "https://b.example"] ↔
      ¬ ReadsAsArray listPlatform ["https://a.example", "https://b.example"] :=
  resource_folding_iff listPlatform_readsLists ["https://a.example", "https://b.example"]

/-- The same two, sent as one value. -/
def arrayValue : String := JsonList.dumps ["https://a.example", "https://b.example"]

/-- One value that is the text of an array counts as two. -/
theorem resource_not_folded : ¬ Folds listPlatform [arrayValue] := by
  intro hfolds
  have hparsed := hfolds.parsed
  rw [parse_foldResources_iff listPlatform_readsLists] at hparsed
  apply hparsed
  refine ⟨arrayValue, _, by decide, by decide, listPlatform_readsLists _, ?_⟩
  rw [arrayTexts_strings]
  decide

end Sample

end PurIdentityServer
