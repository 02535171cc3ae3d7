import Mathlib.Data.List.Nodup

/-!
# Rows of a table in insertion order

A table that is queried by more than its key is the list of its rows. A save
replaces the row with the same key, `List.find?` is a lookup and an insert
appends. The lemmas say which rows there are after a save, and that a save
keeps the keys.
-/

namespace HermesToken.Lib

open List

variable {R K : Type*} [DecidableEq K] (key : R → K) {rows : List R} {row : R}

/-- The rows after `row` was saved over the one with its key. -/
def saveRow (row : R) (rows : List R) : List R :=
  rows.map fun r => if key r = key row then row else r

variable {key}

theorem mem_saveRow :
    r ∈ saveRow key row rows ↔
      (r ∈ rows ∧ key r ≠ key row) ∨ (r = row ∧ ∃ r₀ ∈ rows, key r₀ = key row) := by
  simp only [saveRow, mem_map]
  constructor
  · rintro ⟨r₀, hmem, rfl⟩
    by_cases hkey : key r₀ = key row
    · exact .inr ⟨if_pos hkey, r₀, hmem, hkey⟩
    · rw [if_neg hkey]
      exact .inl ⟨hmem, hkey⟩
  · rintro (⟨hmem, hkey⟩ | ⟨rfl, r₀, hmem, hkey⟩)
    · exact ⟨r, hmem, if_neg hkey⟩
    · exact ⟨r₀, hmem, if_pos hkey⟩

/-- A save keeps a column in which the new row agrees with the old one. -/
theorem map_saveRow (column : R → C) (h : ∀ r ∈ rows, key r = key row → column row = column r) :
    (saveRow key row rows).map column = rows.map column := by
  simp only [saveRow, map_map]
  refine map_congr_left fun r hr => ?_
  by_cases hkey : key r = key row
  · simp [hkey, h r hr hkey]
  · simp [hkey]

@[simp] theorem map_key_saveRow (row : R) (rows : List R) :
    (saveRow key row rows).map key = rows.map key :=
  map_saveRow key fun _ _ hkey => hkey.symm

@[simp] theorem length_saveRow (row : R) (rows : List R) :
    (saveRow key row rows).length = rows.length := by
  simp [saveRow]

theorem saveRow_of_absent (h : ∀ r ∈ rows, key r ≠ key row) : saveRow key row rows = rows := by
  refine (map_congr_left fun r hr => ?_).trans (map_id rows)
  exact if_neg (h r hr)

theorem saveRow_saveRow (hkey : key row = key row') (rows : List R) :
    saveRow key row' (saveRow key row rows) = saveRow key row' rows := by
  simp only [saveRow, map_map]
  refine map_congr_left fun r _ => ?_
  by_cases h : key r = key row <;> simp [hkey ▸ h, hkey]

/-- A save does not depend on what an UPDATE of its row has done before. -/
theorem saveRow_update {k : K} (hkey : key row = k) {f : R → R} (hf : ∀ r, key (f r) = key r)
    (rows : List R) :
    saveRow key row (rows.map fun r => if key r = k then f r else r) = saveRow key row rows := by
  simp only [saveRow, map_map]
  refine map_congr_left fun r _ => ?_
  by_cases h : key r = k <;> simp [h, hf, hkey]

theorem find?_saveRow (row : R) (k : K) (rows : List R) :
    (saveRow key row rows).find? (key · = k) =
      (rows.find? (key · = k)).map fun r => if key row = k then row else r := by
  induction rows with
  | nil => rfl
  | cons r _ ih =>
  simp only [saveRow, map_cons] at ih ⊢
  by_cases hr : key r = key row
  · by_cases hk : key row = k
    · simp [hr, hk]
    · simp [hr, hk, ih]
  by_cases hk : key r = k
  · have hne : ¬ key row = k := fun h => hr (hk.trans h.symm)
    rw [if_neg hr, find?_cons_of_pos (by simpa using hk), find?_cons_of_pos (by simpa using hk)]
    simp [hne]
  · simp [hr, hk, ih]

omit [DecidableEq K] in
theorem eq_of_key (h : (rows.map key).Nodup) (hr : r ∈ rows) (hr' : r' ∈ rows)
    (hkey : key r = key r') : r = r' :=
  inj_on_of_nodup_map h hr hr' hkey

theorem saveRow_self (h : (rows.map key).Nodup) (hrow : row ∈ rows) :
    saveRow key row rows = rows := by
  refine (map_congr_left fun r hr => ?_).trans (map_id rows)
  split
  · rename_i hkey
    exact (eq_of_key h hr hrow hkey).symm
  · rfl

theorem find?_of_mem (h : (rows.map key).Nodup) (hr : r ∈ rows) :
    rows.find? (key · = key r) = some r := by
  cases hfind : rows.find? (key · = key r) with
  | none => simpa using find?_eq_none.mp hfind r hr
  | some =>
    exact congrArg some (eq_of_key h (mem_of_find?_eq_some hfind) hr
      (by simpa using find?_some hfind))

theorem map_find?_saveRow (column : R → C)
    (h : (rows.find? (key · = key row)).map column = some (column row)) (k : K) :
    ((saveRow key row rows).find? (key · = k)).map column =
      (rows.find? (key · = k)).map column := by
  rw [find?_saveRow]
  by_cases hk : key row = k
  · subst hk
    obtain ⟨r, hr, hcol⟩ := Option.map_eq_some_iff.mp h
    simp [hr, hcol]
  · simp [hk]

theorem find?_append_row (rows : List R) (row : R) (k : K) :
    (rows ++ [row]).find? (key · = k) =
      (rows.find? (key · = k)).or (if key row = k then some row else none) := by
  by_cases hk : key row = k <;> simp [hk]

/-! ## Tables whose rows change in place -/

/-- The rows of the second table are those of the first after changes by `R`. -/
def RowsBy (P : R → R → Prop) (rows rows' : List R) : Prop :=
  ∃ g, rows' = rows.map g ∧ ∀ r ∈ rows, P r (g r)

namespace RowsBy

omit [DecidableEq K] in
theorem refl (h : ∀ r, P r r) (rows : List R) : RowsBy P rows rows :=
  ⟨id, (map_id rows).symm, fun r _ => h r⟩

omit [DecidableEq K] in
theorem trans (hP : ∀ r r' r'', P r r' → P r' r'' → P r r'') (h : RowsBy P rows rows')
    (h' : RowsBy P rows' rows'') : RowsBy P rows rows'' := by
  obtain ⟨g, rfl, hg⟩ := h
  obtain ⟨g', rfl, hg'⟩ := h'
  exact ⟨g' ∘ g, map_map, fun r hr =>
    hP r (g r) _ (hg r hr) (hg' (g r) (mem_map_of_mem hr))⟩

omit [DecidableEq K] in
theorem mono (hPQ : ∀ r ∈ rows, ∀ r', P r r' → Q r r') (h : RowsBy P rows rows') :
    RowsBy Q rows rows' := by
  obtain ⟨g, rfl, hg⟩ := h
  exact ⟨g, rfl, fun r hr => hPQ r hr _ (hg r hr)⟩

omit [DecidableEq K] in
theorem mem (h : RowsBy P rows rows') (hr' : r' ∈ rows') : ∃ r ∈ rows, P r r' := by
  obtain ⟨g, rfl, hg⟩ := h
  obtain ⟨r, hr, rfl⟩ := mem_map.mp hr'
  exact ⟨r, hr, hg r hr⟩

omit [DecidableEq K] in
theorem map_column (column : R → C) (hP : ∀ r r', P r r' → column r' = column r)
    (h : RowsBy P rows rows') : rows'.map column = rows.map column := by
  obtain ⟨g, rfl, hg⟩ := h
  rw [map_map]
  exact map_congr_left fun r hr => hP r (g r) (hg r hr)

theorem save (hP : ∀ r, P r r) (hkeys : (rows.map key).Nodup) (hrow : row ∈ rows)
    (hkey : key row' = key row) (hchg : P row row') : RowsBy P rows (saveRow key row' rows) := by
  refine ⟨fun r => if key r = key row' then row' else r, rfl, fun r hr => ?_⟩
  dsimp only
  split
  · rename_i hr'
    rw [eq_of_key hkeys hr hrow (hr'.trans hkey)]
    exact hchg
  · exact hP r

end RowsBy

end HermesToken.Lib
