import Mathlib.Logic.Function.Basic

/-!
# Tables with a primary key

A table maps keys to rows, and every row it holds is stored under its own key:
the field `key_get` carries this, so a lookup never has to be checked again.
`save` overwrites the whole row stored under the row's key.

An `AutoTable` assigns the keys itself: they count up from 1, and a key that
was given out is not given out again.
-/

namespace HermesToken.Lib

variable {K R : Type*} [DecidableEq K]

/-- A table of rows `R` with primary key `key`. -/
structure Table (K R : Type*) (key : R → K) where
  get : K → Option R
  key_get : ∀ {k r}, get k = some r → key r = k

namespace Table

variable {key : R → K}

/-- The table without rows. -/
def empty (key : R → K) : Table K R key :=
  ⟨fun _ => none, fun h => by cases h⟩

variable (t : Table K R key) (r : R)

/-- Write the whole row under its key. -/
def save : Table K R key where
  get := Function.update t.get (key r) (some r)
  key_get := by
    intro k r' h
    by_cases hk : k = key r
    · subst hk
      rw [Function.update_self, Option.some.injEq] at h
      rw [h]
    · rw [Function.update_of_ne hk] at h
      exact t.key_get h

theorem get_save_self (h : key r = k) : (t.save r).get k = some r := by
  subst h
  exact Function.update_self ..

theorem get_save_ne (h : key r ≠ k) : (t.save r).get k = t.get k :=
  Function.update_of_ne h.symm ..

theorem get_save (k : K) : (t.save r).get k = if key r = k then some r else t.get k := by
  split
  · exact t.get_save_self r ‹_›
  · exact t.get_save_ne r ‹_›

end Table

/-! ## Keys that the table assigns -/

/-- A table whose keys come from a counter. -/
structure AutoTable (R : Type*) (key : R → Int) extends Table Int R key where
  nextID : Int
  nextID_pos : 0 < nextID
  inRange : ∀ {k r}, get k = some r → 0 < k ∧ k < nextID

namespace AutoTable

variable {key : R → Int}

/-- The table before its first row. -/
def empty (key : R → Int) : AutoTable R key := { Table.empty key with
  nextID := 1
  nextID_pos := Int.one_pos
  inRange := fun h => by cases h }

/-- An INSERT: `row` is given the key it is stored under. -/
def insert (t : AutoTable R key) (row : Int → R) (hrow : ∀ k, key (row k) = k) :
    AutoTable R key :=
  { t.toTable.save (row t.nextID) with
    nextID := t.nextID + 1
    nextID_pos := Int.lt_add_one_of_le (Int.le_of_lt t.nextID_pos)
    inRange := by
      intro k r h
      have hpos := t.nextID_pos
      rw [Table.get_save, hrow] at h
      split at h
      · omega
      · have := t.inRange h
        omega }

/-- A Save: a row that is there is overwritten. -/
def put (t : AutoTable R key) (r : R) : AutoTable R key :=
  match h : t.get (key r) with
  | none => t
  | some _ =>
    { t.toTable.save r with
      nextID := t.nextID
      nextID_pos := t.nextID_pos
      inRange := by
        intro k r' hget
        rw [Table.get_save] at hget
        split at hget
        · subst k
          exact t.inRange h
        · exact t.inRange hget }

/-- An UPDATE of the row under a key. -/
def modify (t : AutoTable R key) (k : Int) (f : R → R) : AutoTable R key :=
  match t.get k with
  | none => t
  | some r => t.put (f r)

/-- A DELETE of the row under a key. -/
def erase (t : AutoTable R key) (k : Int) : AutoTable R key where
  get j := if j = k then none else t.get j
  key_get := by
    intro j r h
    split at h
    · cases h
    · exact t.key_get h
  nextID := t.nextID
  nextID_pos := t.nextID_pos
  inRange := by
    intro j r h
    split at h
    · cases h
    · exact t.inRange h

variable (t : AutoTable R key)

@[simp] theorem get_insert (row : Int → R) (hrow : ∀ k, key (row k) = k) (k : Int) :
    (t.insert row hrow).get k = if k = t.nextID then some (row k) else t.get k := by
  have hget : (t.insert row hrow).get k = (t.toTable.save (row t.nextID)).get k := rfl
  rw [hget, Table.get_save, hrow]
  by_cases hk : k = t.nextID
  · rw [if_pos hk.symm, if_pos hk, hk]
  · rw [if_neg (Ne.symm hk), if_neg hk]

theorem get_nextID : t.get t.nextID = none := by
  cases h : t.get t.nextID with
  | none => rfl
  | some => exact absurd (t.inRange h).2 (Int.lt_irrefl _)

@[simp] theorem get_put (r : R) (k : Int) :
    (t.put r).get k = (t.get k).map fun r' => if key r = k then r else r' := by
  unfold put
  split
  · rename_i h
    by_cases hk : key r = k
    · subst hk
      rw [h]
      rfl
    · simp [hk]
  rename_i r' h
  have hget : (t.toTable.save r).get k = if key r = k then some r else t.get k :=
    Table.get_save ..
  refine hget.trans ?_
  by_cases hk : key r = k
  · subst hk
    rw [h]
    simp
  · simp [hk]

theorem put_self (h : t.get (key r) = some r) : t.put r = t := by
  have hget : (t.put r).get = t.get := by
    funext k
    by_cases hk : key r = k
    · subst hk
      simp [h]
    · simp [hk]
  unfold put at hget ⊢
  split
  · rfl
  rename_i h'
  simp only [Table.save] at hget ⊢
  congr
  split at hget
  · rename_i h''
    cases h'.symm.trans h''
  · exact hget

@[simp] theorem nextID_put (r : R) : (t.put r).nextID = t.nextID := by
  unfold put
  split <;> rfl

@[simp] theorem get_modify (hf : ∀ r, key (f r) = key r) (k j : Int) :
    (t.modify k f).get j = (t.get j).map fun r => if j = k then f r else r := by
  unfold modify
  split
  · rename_i h
    by_cases hj : j = k
    · rw [hj, h]
      rfl
    · simp [hj]
  rename_i r h
  have hkey : key (f r) = k := (hf r).trans (t.key_get h)
  rw [get_put, hkey]
  by_cases hj : j = k
  · simp [hj, h]
  · simp [hj, Ne.symm hj]

/-- An UPDATE depends on what it makes of the row that is there. -/
theorem modify_congr (h : ∀ r, t.get k = some r → f r = g r) : t.modify k f = t.modify k g := by
  unfold modify
  split
  · rfl
  · rename_i r hr
    rw [h r hr]

@[simp] theorem nextID_modify (k : Int) (f : R → R) : (t.modify k f).nextID = t.nextID := by
  unfold modify
  split
  · rfl
  · exact t.nextID_put _

theorem get_erase (k j : Int) : (t.erase k).get j = if j = k then none else t.get j := rfl

end AutoTable

end HermesToken.Lib
