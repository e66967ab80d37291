import Mathlib.Data.List.Nodup

/-!
# Table — rows under a primary key

A table is a list of rows whose keys are distinct; the proof travels with
the rows, so no table with two rows of one key can be built. `save` is
the insert-or-replace of a row, `update` changes the row of a key in
place and does nothing when there is none, `delete` likewise.

Every operation is described by what `find` answers afterwards: at its
own key, and at every other key.
-/

namespace Effects

/-- Rows `V` under distinct keys. -/
structure Table {κ V : Type} (key : V → κ) where
  rows : List V
  nodup : (rows.map key).Nodup

namespace Table

variable {κ V : Type} [DecidableEq κ] {key : V → κ}

def empty : Table key := ⟨[], List.nodup_nil⟩

/-- The row of key `k`. -/
def find (t : Table key) (k : κ) : Option V := t.rows.find? fun v => key v = k

/-- The rows a query selects, in table order. -/
def select (t : Table key) (p : V → Bool) : List V := t.rows.filter p

omit [DecidableEq κ] in
theorem map_key_map (l : List V) (f : V → V) (hf : ∀ v, key (f v) = key v) :
    (l.map f).map key = l.map key := by
  rw [List.map_map]
  exact List.map_congr_left fun v _ => hf v

/-- Apply `f` to the row of key `k`, if there is one. -/
def update (t : Table key) (k : κ) (f : V → V) (hf : ∀ v, key (f v) = key v) :
    Table key where
  rows := t.rows.map fun v => if key v = k then f v else v
  nodup := by
    rw [map_key_map]
    · exact t.nodup
    · intro v
      split
      · exact hf v
      · rfl

def delete (t : Table key) (k : κ) : Table key where
  rows := t.rows.filter fun v => key v ≠ k
  nodup := t.nodup.sublist (List.filter_sublist.map key)

/-- Keep the rows that satisfy `p`. -/
def filter (t : Table key) (p : V → Bool) : Table key where
  rows := t.rows.filter p
  nodup := t.nodup.sublist (List.filter_sublist.map key)

/-- Insert the row, or replace the row of its key. -/
def save (t : Table key) (v : V) : Table key :=
  if h : key v ∈ t.rows.map key then
    { rows := t.rows.map fun u => if key u = key v then v else u
      nodup := by
        rw [map_key_map]
        · exact t.nodup
        · intro u
          split
          · rename_i hu
            exact hu.symm
          · rfl }
  else
    { rows := t.rows ++ [v]
      nodup := by
        rw [List.map_append, List.map_singleton, List.nodup_append]
        refine ⟨t.nodup, List.nodup_singleton _, ?_⟩
        rintro a ha b hb rfl
        exact h (List.mem_singleton.mp hb ▸ ha) }

/-! ## What `find` answers -/

@[simp] theorem find_empty (k : κ) : (empty : Table key).find k = none := rfl

theorem find_key {t : Table key} {k : κ} {v : V} (h : t.find k = some v) : key v = k := by
  simpa using List.find?_some h

theorem find_mem {t : Table key} {k : κ} {v : V} (h : t.find k = some v) : v ∈ t.rows :=
  List.mem_of_find?_eq_some h

theorem find_eq_none {t : Table key} {k : κ} :
    t.find k = none ↔ ∀ v ∈ t.rows, key v ≠ k := by
  simp [find]

/-- A row is what its key finds. -/
theorem find_of_mem {t : Table key} {v : V} (h : v ∈ t.rows) :
    t.find (key v) = some v := by
  cases hf : t.find (key v) with
  | none => exact absurd rfl (find_eq_none.mp hf v h)
  | some u =>
      have hu := List.inj_on_of_nodup_map t.nodup (find_mem hf) h (find_key hf)
      rw [hu]

/-- In-place edits of the rows act on the answers of `find`. -/
theorem find?_map (l : List V) (k : κ) (g : V → V) (hg : ∀ v, key (g v) = key v) :
    (l.map g).find? (fun v => key v = k) = (l.find? fun v => key v = k).map g := by
  rw [List.find?_map]
  congr 2
  funext v
  simp [hg]

theorem find_update (t : Table key) (k k' : κ) (f : V → V)
    (hf : ∀ v, key (f v) = key v) :
    (t.update k f hf).find k' = if k' = k then (t.find k').map f else t.find k' := by
  have hg : ∀ v, key (if key v = k then f v else v) = key v := by
    intro v
    split
    · exact hf v
    · rfl
  have h : (t.update k f hf).find k'
      = (t.find k').map fun v => if key v = k then f v else v :=
    find?_map t.rows k' _ hg
  rw [h]
  cases hfind : t.find k' with
  | none => simp
  | some v =>
      have hv := find_key hfind
      subst hv
      by_cases hk : key v = k <;> simp [hk]

@[simp] theorem find_update_self (t : Table key) (k : κ) (f : V → V)
    (hf : ∀ v, key (f v) = key v) : (t.update k f hf).find k = (t.find k).map f := by
  simp [find_update]

theorem find_update_of_ne (t : Table key) {k k' : κ} (h : k' ≠ k) (f : V → V)
    (hf : ∀ v, key (f v) = key v) : (t.update k f hf).find k' = t.find k' := by
  simp [find_update, h]

theorem find_delete (t : Table key) (k k' : κ) :
    (t.delete k).find k' = if k' = k then none else t.find k' := by
  by_cases h : k' = k
  · subst h
    simp only [if_true]
    rw [find_eq_none]
    intro v hv
    simpa using (List.mem_filter.mp hv).2
  · simp only [if_neg h, find, delete, List.find?_filter]
    congr 1
    funext v
    by_cases hv : key v = k' <;> simp [hv, h]

@[simp] theorem find_delete_self (t : Table key) (k : κ) : (t.delete k).find k = none := by
  simp [find_delete]

theorem find_delete_of_ne (t : Table key) {k k' : κ} (h : k' ≠ k) :
    (t.delete k).find k' = t.find k' := by
  simp [find_delete, h]

theorem find_save (t : Table key) (v : V) (k : κ) :
    (t.save v).find k = if k = key v then some v else t.find k := by
  unfold save
  split
  · rename_i hmem
    obtain ⟨u, hu, hkey⟩ := List.mem_map.mp hmem
    have hg : ∀ w, key (if key w = key v then v else w) = key w := by
      intro w
      split
      · rename_i hw
        exact hw.symm
      · rfl
    have h : (List.map (fun w => if key w = key v then v else w) t.rows).find?
          (fun w => decide (key w = k))
        = (t.find k).map fun w => if key w = key v then v else w :=
      find?_map t.rows k _ hg
    simp only [find] at h ⊢
    rw [h]
    by_cases hk : k = key v
    · subst hk
      have hfind := find_of_mem hu
      rw [hkey] at hfind
      simp only [find] at hfind
      simp [hfind, hkey]
    · cases hfind : t.rows.find? (fun w => decide (key w = k)) with
      | none => simp [hk]
      | some w =>
          have hw : key w = k := find_key (t := t) hfind
          simp [hk, hw]
  · rename_i hmem
    simp only [find, List.find?_append]
    by_cases hk : k = key v
    · subst hk
      have hnone : t.rows.find? (fun w => decide (key w = key v)) = none :=
        (find_eq_none (t := t)).mpr fun w hw hkey => hmem (hkey ▸ List.mem_map_of_mem hw)
      simp [hnone]
    · have hvk : key v ≠ k := fun h => hk h.symm
      simp [hk, hvk]

@[simp] theorem find_save_self (t : Table key) (v : V) :
    (t.save v).find (key v) = some v := by
  simp [find_save]

theorem find_save_of_ne (t : Table key) {v : V} {k : κ} (h : k ≠ key v) :
    (t.save v).find k = t.find k := by
  simp [find_save, h]

theorem find_filter (t : Table key) (p : V → Bool) (k : κ) :
    (t.filter p).find k = (t.find k).filter p := by
  cases hfind : t.find k with
  | none =>
      rw [Option.filter_none, find_eq_none]
      intro v hv
      exact find_eq_none.mp hfind v (List.mem_filter.mp hv).1
  | some v =>
      have hkey := find_key hfind
      by_cases hp : p v = true
      · have hmem : v ∈ (t.filter p).rows := List.mem_filter.mpr ⟨find_mem hfind, hp⟩
        have hfound := find_of_mem hmem
        rw [hkey] at hfound
        rw [hfound, Option.filter_some, if_pos hp]
      · rw [Option.filter_some, if_neg hp, find_eq_none]
        intro u hu hku
        obtain ⟨hmem, hpu⟩ := List.mem_filter.mp hu
        have hfound := find_of_mem hmem
        rw [hku, hfind] at hfound
        cases hfound
        exact hp hpu

/-! ## The same rows in another form -/

section Map

variable {R : Type} {rowKey : R → κ} (f : V → R) (hf : ∀ v, rowKey (f v) = key v)

/-- Every row in the form `f`, under the same keys. -/
def map (t : Table key) : Table rowKey where
  rows := t.rows.map f
  nodup := by
    have hkeys : (t.rows.map f).map rowKey = t.rows.map key := by
      rw [List.map_map]
      exact List.map_congr_left fun v _ => hf v
    rw [hkeys]
    exact t.nodup

omit [DecidableEq κ] in
theorem ext_rows {t u : Table key} (h : t.rows = u.rows) : t = u := by
  cases t
  cases u
  congr

theorem find_map (t : Table key) (k : κ) : (t.map f hf).find k = (t.find k).map f := by
  simp only [find, map, List.find?_map]
  congr 2
  funext v
  simp [hf v]

/-- What is looked up in the other form and read back is the row. -/
theorem map_find_map {g : R → V} (t : Table key) (k : κ) (h : ∀ v ∈ t.rows, g (f v) = v) :
    ((t.map f hf).find k).map g = t.find k := by
  rw [find_map, Option.map_map]
  cases hfind : t.find k with
  | none => rfl
  | some v => exact congrArg some (h v (find_mem hfind))

omit [DecidableEq κ] in
/-- A query selects the same rows, in the same order. -/
theorem select_map (t : Table key) {p : R → Bool} {q : V → Bool} (h : ∀ v, p (f v) = q v) :
    (t.map f hf).select p = (t.select q).map f := by
  simp only [select, map, List.filter_map]
  congr 2
  funext v
  exact h v

theorem map_delete (t : Table key) (k : κ) :
    (t.delete k).map f hf = (t.map f hf).delete k := by
  apply ext_rows
  simp only [map, delete, List.filter_map]
  congr 2
  funext v
  simp [hf v]

/-- Two edits that agree through `f` agree on the tables. -/
theorem map_update (t : Table key) (k : κ) {g : V → V} (hg : ∀ v, key (g v) = key v)
    {g' : R → R} (hg' : ∀ r, rowKey (g' r) = rowKey r) (h : ∀ v, g' (f v) = f (g v)) :
    (t.update k g hg).map f hf = (t.map f hf).update k g' hg' := by
  apply ext_rows
  simp only [map, update, List.map_map]
  apply List.map_congr_left
  intro v _
  simp only [Function.comp_apply, hf v]
  split
  · exact (h v).symm
  · rfl

theorem map_save (t : Table key) (v : V) : (t.save v).map f hf = (t.map f hf).save (f v) := by
  have hkeys : (t.map f hf).rows.map rowKey = t.rows.map key := by
    simp only [map, List.map_map]
    exact List.map_congr_left fun u _ => hf u
  apply ext_rows
  by_cases hmem : key v ∈ t.rows.map key
  · have hmem' : rowKey (f v) ∈ (t.map f hf).rows.map rowKey := by
      rw [hkeys, hf v]
      exact hmem
    rw [save, save, dif_pos hmem, dif_pos hmem']
    simp only [map, List.map_map]
    apply List.map_congr_left
    intro u _
    simp only [Function.comp_apply, hf u, hf v]
    split <;> rfl
  · have hmem' : rowKey (f v) ∉ (t.map f hf).rows.map rowKey := by
      rw [hkeys, hf v]
      exact hmem
    rw [save, save, dif_neg hmem, dif_neg hmem']
    simp [map]

end Map

omit [DecidableEq κ] in
/-- A query whose rows share one key selects one row at most. -/
theorem select_of_same_key (t : Table key) {p : V → Bool}
    (h : ∀ u ∈ t.rows, ∀ v ∈ t.rows, p u = true → p v = true → key u = key v) :
    t.select p = (t.select p).head?.toList := by
  have hnodup : ((t.select p).map key).Nodup := t.nodup.sublist (List.filter_sublist.map key)
  have hsame : ∀ u ∈ t.select p, ∀ v ∈ t.select p, key u = key v := by
    intro u hu v hv
    rw [select, List.mem_filter] at hu hv
    exact h u hu.1 v hv.1 hu.2 hv.2
  match t.select p, hnodup, hsame with
  | [], _, _ => rfl
  | [_], _, _ => rfl
  | u :: v :: _, hnodup, hsame =>
      have huv := hsame u (by simp) v (by simp)
      simp [huv] at hnodup

/-- The rows after `save` are the new row and rows that were there. -/
theorem mem_save {t : Table key} {u v : V} (h : u ∈ (t.save v).rows) : u = v ∨ u ∈ t.rows := by
  have hfind := find_of_mem h
  rw [find_save] at hfind
  split at hfind
  · cases hfind
    exact .inl rfl
  · exact .inr (find_mem hfind)

end Table

end Effects
