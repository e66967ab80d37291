import Mathlib.Data.List.Basic

/-!
# Dict — dictionaries in insertion order

A dictionary is the list of its items. `get` answers the first item of a
key, `set` changes the value of a key in place or adds the key at the
end, `update` sets the items of another dictionary one by one.

What a loop over items leaves at one key is itself a loop over the items
that concern that key: `get_foldl` is the rule, and the other keys are
dealt with by `get_foldl_of_ne`.
-/

namespace Effects

/-- The items of a dictionary, in insertion order. -/
abbrev Dict (κ V : Type) := List (κ × V)

namespace Dict

variable {κ V ι : Type} [DecidableEq κ]

/-- The value of key `k`. -/
def get (d : Dict κ V) (k : κ) : Option V := (d.find? fun item => item.1 = k).map Prod.snd

/-- Change the value of `k` in place, or add it at the end. -/
def set : Dict κ V → κ → V → Dict κ V
  | [], k, v => [(k, v)]
  | item :: rest, k, v => if item.1 = k then (k, v) :: rest else item :: set rest k v

/-- Set the items of `other` one by one. -/
def update (d other : Dict κ V) : Dict κ V :=
  other.foldl (fun acc item => acc.set item.1 item.2) d

/-- `d.setdefault(k, v)`: add the item unless its key is there. -/
def setDefault (d : Dict κ V) (item : κ × V) : Dict κ V :=
  if (d.get item.1).isSome then d else d ++ [item]

def setDefaults (d other : Dict κ V) : Dict κ V := other.foldl setDefault d

def keys (d : Dict κ V) : List κ := d.map Prod.fst

@[simp] theorem get_nil (k : κ) : get ([] : Dict κ V) k = none := rfl

theorem get_cons (item : κ × V) (rest : Dict κ V) (k : κ) :
    get (item :: rest) k = if item.1 = k then some item.2 else get rest k := by
  by_cases h : item.1 = k <;> simp [get, h]

theorem mem_of_get {d : Dict κ V} {k : κ} {v : V} (h : d.get k = some v) : (k, v) ∈ d := by
  induction d with
  | nil => simp at h
  | cons item rest ih =>
      rw [get_cons] at h
      by_cases hk : item.1 = k
      · rw [if_pos hk] at h
        have hv : item = (k, v) := Prod.ext hk (Option.some.inj h)
        exact hv ▸ List.mem_cons_self
      · rw [if_neg hk] at h
        exact List.mem_cons_of_mem _ (ih h)

theorem get_eq_none {d : Dict κ V} {k : κ} : d.get k = none ↔ k ∉ d.keys := by
  induction d with
  | nil => simp [keys]
  | cons item rest ih =>
      rw [get_cons]
      by_cases hk : item.1 = k
      · simp [keys, hk]
      · rw [if_neg hk, ih]
        have hk' : ¬k = item.1 := fun h => hk h.symm
        simp [keys, hk']

theorem get_set (d : Dict κ V) (k k' : κ) (v : V) :
    (d.set k v).get k' = if k' = k then some v else d.get k' := by
  induction d with
  | nil =>
      rw [set, get_cons]
      simp [eq_comm]
  | cons item rest ih =>
      rw [set]
      by_cases hk : item.1 = k
      · subst hk
        rw [if_pos rfl, get_cons, get_cons]
        by_cases hk' : item.1 = k'
        · simp [hk']
        · have : ¬k' = item.1 := fun h => hk' h.symm
          simp [hk', this]
      · rw [if_neg hk, get_cons, get_cons, ih]
        by_cases hk' : item.1 = k'
        · have : ¬k' = k := fun h => hk (hk'.trans h)
          simp [hk', this]
        · simp [hk']

@[simp] theorem get_set_self (d : Dict κ V) (k : κ) (v : V) : (d.set k v).get k = some v := by
  simp [get_set]

theorem get_set_of_ne (d : Dict κ V) {k k' : κ} (h : k' ≠ k) (v : V) :
    (d.set k v).get k' = d.get k' := by
  simp [get_set, h]

theorem keys_set (d : Dict κ V) (k : κ) (v : V) :
    (d.set k v).keys = if k ∈ d.keys then d.keys else d.keys ++ [k] := by
  induction d with
  | nil => simp [keys, set]
  | cons item rest ih =>
      rw [set]
      by_cases hk : item.1 = k
      · subst hk
        simp [keys]
      · rw [if_neg hk]
        simp only [keys, List.map_cons, List.mem_cons] at ih ⊢
        rw [ih]
        have hk' : ¬k = item.1 := fun h => hk h.symm
        by_cases hmem : k ∈ List.map Prod.fst rest <;> simp [hmem, hk']

theorem nodup_keys_set {d : Dict κ V} (h : d.keys.Nodup) (k : κ) (v : V) :
    (d.set k v).keys.Nodup := by
  rw [keys_set]
  split
  · exact h
  · rename_i hk
    exact List.nodup_append.mpr ⟨h, by simp, fun a ha b hb heq =>
      hk (List.mem_singleton.mp hb ▸ heq ▸ ha)⟩

theorem mem_set {d : Dict κ V} {k : κ} {v : V} {item : κ × V} (h : item ∈ d.set k v) :
    item ∈ d ∨ item = (k, v) := by
  induction d with
  | nil => exact Or.inr (List.mem_singleton.mp h)
  | cons first rest ih =>
      unfold set at h
      split at h
      · rcases List.mem_cons.mp h with heq | hrest
        · exact Or.inr heq
        · exact Or.inl (List.mem_cons_of_mem _ hrest)
      · rcases List.mem_cons.mp h with rfl | hrest
        · exact Or.inl List.mem_cons_self
        · exact (ih hrest).imp (List.mem_cons_of_mem _) id

/-- An item of the update comes from one of the two. -/
theorem mem_update {d other : Dict κ V} {item : κ × V} (h : item ∈ d.update other) :
    item ∈ d ∨ item ∈ other := by
  induction other generalizing d with
  | nil => exact Or.inl h
  | cons first rest ih =>
      rcases ih h with hset | hrest
      · rcases mem_set hset with hold | heq
        · exact Or.inl hold
        · have hfirst : item = first := heq
          exact Or.inr (hfirst ▸ List.mem_cons_self)
      · exact Or.inr (List.mem_cons_of_mem _ hrest)

theorem nodup_keys_update {d : Dict κ V} (h : d.keys.Nodup) (other : Dict κ V) :
    (d.update other).keys.Nodup := by
  induction other generalizing d with
  | nil => exact h
  | cons item rest ih => exact ih (nodup_keys_set h item.1 item.2)

theorem get_update {other : Dict κ V} (h : other.keys.Nodup) (d : Dict κ V) (k : κ) :
    (d.update other).get k = (other.get k).or (d.get k) := by
  induction other generalizing d with
  | nil => rfl
  | cons item rest ih =>
      obtain ⟨hnew, hrest⟩ := List.nodup_cons.mp h
      show ((d.set item.1 item.2).update rest).get k = _
      rw [ih hrest, get_cons]
      by_cases hk : item.1 = k
      · subst hk
        rw [get_eq_none.mpr hnew]
        simp
      · rw [if_neg hk, get_set_of_ne _ fun h => hk h.symm]

/-- The items of `other` are set over those of `d`, whatever keys occur twice in them. -/
theorem get_update_or (d other : Dict κ V) (k : κ) :
    (d.update other).get k = ((Dict.update [] other).get k).or (d.get k) := by
  induction other generalizing d with
  | nil => rfl
  | cons item rest ih =>
      show ((d.set item.1 item.2).update rest).get k
        = ((Dict.update (set [] item.1 item.2) rest).get k).or (d.get k)
      rw [ih (d.set item.1 item.2), ih (set [] item.1 item.2), get_set, get_set, Option.or_assoc]
      by_cases hk : k = item.1
      · rw [if_pos hk, if_pos hk, Option.some_or]
      · rw [if_neg hk, if_neg hk, get_nil, Option.none_or]

theorem set_of_not_mem {d : Dict κ V} {k : κ} (h : k ∉ d.keys) (v : V) :
    d.set k v = d ++ [(k, v)] := by
  induction d with
  | nil => rfl
  | cons item rest ih =>
      simp only [keys, List.map_cons, List.mem_cons, not_or] at h
      rw [set, if_neg fun heq => h.1 heq.symm, ih h.2]
      rfl

/-- Setting new keys one by one adds the items at the end. -/
theorem update_of_disjoint {d other : Dict κ V} (h : (d ++ other).keys.Nodup) :
    d.update other = d ++ other := by
  induction other generalizing d with
  | nil => simp [update]
  | cons item rest ih =>
      have hnew : item.1 ∉ d.keys := by
        simp only [keys, List.map_append, List.map_cons, List.nodup_append] at h
        intro hmem
        exact h.2.2 _ hmem _ List.mem_cons_self rfl
      have hstep : d.update (item :: rest) = (d.set item.1 item.2).update rest := rfl
      rw [hstep, set_of_not_mem hnew, ih (by simpa using h)]
      simp

theorem update_of_nodup {d : Dict κ V} (h : d.keys.Nodup) : Dict.update [] d = d :=
  update_of_disjoint (d := []) h

theorem get_filter (p : κ → Bool) (d : Dict κ V) (k : κ) :
    get (d.filter fun item => p item.1) k = if p k then d.get k else none := by
  induction d with
  | nil => simp
  | cons item rest ih =>
      rw [List.filter_cons]
      by_cases hp : p item.1 = true
      · rw [if_pos hp, get_cons, get_cons, ih]
        by_cases hk : item.1 = k
        · subst hk
          simp [hp]
        · simp [hk]
      · rw [if_neg hp, ih, get_cons]
        by_cases hk : item.1 = k
        · subst hk
          simp [hp]
        · simp [hk]

theorem get_map {W : Type} (f : V → W) (d : Dict κ V) (k : κ) :
    get (d.map fun item => (item.1, f item.2)) k = (d.get k).map f := by
  induction d with
  | nil => rfl
  | cons item rest ih =>
      rw [List.map_cons, get_cons, get_cons, ih]
      by_cases hk : item.1 = k <;> simp [hk]

omit [DecidableEq κ] in
theorem keys_map {W : Type} (f : V → W) (d : Dict κ V) :
    keys (d.map fun item => (item.1, f item.2)) = d.keys := by
  simp [keys]

omit [DecidableEq κ] in
theorem nodup_keys_filter {d : Dict κ V} (h : d.keys.Nodup) (p : κ × V → Bool) :
    (keys (d.filter p)).Nodup :=
  h.sublist (List.filter_sublist.map _)

theorem get_append (d other : Dict κ V) (k : κ) :
    get (d ++ other) k = (d.get k).or (other.get k) := by
  unfold get
  rw [List.find?_append, Option.map_or]

theorem get_append_of_some {d other : Dict κ V} {k : κ} {v : V} (h : d.get k = some v) :
    get (d ++ other) k = some v := by
  rw [get_append, h, Option.some_or]

theorem get_setDefault_of_some {d : Dict κ V} {k : κ} {v : V} (h : d.get k = some v)
    (item : κ × V) : get (d.setDefault item) k = some v := by
  unfold setDefault
  split
  · exact h
  · exact get_append_of_some h

theorem get_setDefault (d : Dict κ V) (item : κ × V) (k : κ) :
    get (d.setDefault item) k = (d.get k).or (if item.1 = k then some item.2 else none) := by
  unfold setDefault
  split
  · rename_i h
    by_cases hk : item.1 = k
    · subst hk
      rw [Option.or_of_isSome h]
    · rw [if_neg hk, Option.or_none]
  · rw [get_append, get_cons, get_nil]

/-- A default is served for the keys that were not there. -/
theorem get_setDefaults (d other : Dict κ V) (k : κ) :
    get (d.setDefaults other) k = (d.get k).or (other.get k) := by
  unfold setDefaults
  induction other generalizing d with
  | nil => simp
  | cons item rest ih =>
      rw [List.foldl_cons, ih, get_setDefault, get_cons, Option.or_assoc]
      by_cases hk : item.1 = k
      · rw [if_pos hk, if_pos hk, Option.some_or]
      · rw [if_neg hk, if_neg hk, Option.none_or]

/-- Defaults leave the items that are there alone. -/
theorem get_setDefaults_of_some {d : Dict κ V} {k : κ} {v : V} (h : d.get k = some v)
    (other : Dict κ V) : get (d.setDefaults other) k = some v := by
  unfold setDefaults
  induction other generalizing d with
  | nil => exact h
  | cons item rest ih =>
      exact ih (get_setDefault_of_some h item)

/-- A loop whose step acts on the value at `k` as `g` acts leaves there what
the loop of `g` leaves. -/
theorem get_foldl {f : Dict κ V → ι → Dict κ V} {g : Option V → ι → Option V} {k : κ}
    (h : ∀ d i, (f d i).get k = g (d.get k) i) (l : List ι) (d : Dict κ V) :
    (l.foldl f d).get k = l.foldl g (d.get k) := by
  induction l generalizing d with
  | nil => rfl
  | cons i rest ih =>
      rw [List.foldl_cons, List.foldl_cons, ih, h]

/-- A step that concerns the item's own key only. -/
theorem get_foldl_filter {f : Dict κ V → κ × ι → Dict κ V} {g : Option V → ι → Option V}
    (h : ∀ d i, (f d i).get i.1 = g (d.get i.1) i.2)
    (hne : ∀ d i k, k ≠ i.1 → (f d i).get k = d.get k)
    (items : Dict κ ι) (d : Dict κ V) (k : κ) :
    (items.foldl f d).get k
      = ((items.filter fun i => i.1 = k).map Prod.snd).foldl g (d.get k) := by
  induction items generalizing d with
  | nil => rfl
  | cons i rest ih =>
      rw [List.foldl_cons, ih]
      by_cases hk : i.1 = k
      · subst hk
        simp [h]
      · simp [hk, hne d i k fun h => hk h.symm]

end Dict

end Effects
