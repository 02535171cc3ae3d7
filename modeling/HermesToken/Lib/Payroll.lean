import HermesToken.Lib.KeyedSum

/-!
# Rows that are paid to their owners

A table has rows, each of which owes its owner an amount, and the owners have
balances. A step PAYS when every balance grows by exactly the amounts of the
rows that were not paid before the step and are paid after it, and a paid row
is never touched again. Steps that pay compose, so a whole run pays: what an
owner got is what the rows of the owner that became paid add up to, and no row
counts twice.
-/

namespace HermesToken.Lib

open List

variable {R K O : Type*}

/-- How a row is read. -/
structure PayRule (R K O : Type*) where
  key : R → K
  owner : R → O
  amount : R → Int
  paid : R → Bool

/-- The rows and the balances of the owners that exist. -/
structure Payroll (R O : Type*) where
  rows : List R
  balance : O → Option Int

namespace PayRule

variable [DecidableEq K] (p : PayRule R K O)

/-- A row with the key was paid. -/
def paidIn (rows : List R) (k : K) : Bool :=
  rows.any fun r => p.key r = k && p.paid r

/-- The rows that were paid between two states of the table. -/
def gained (rows rows' : List R) : List R :=
  rows'.filter fun r => p.paid r && !p.paidIn rows (p.key r)

variable [DecidableEq O]

structure Pays (a b : Payroll R O) : Prop where
  unique : (b.rows.map p.key).Nodup
  stays : ∀ r ∈ a.rows, p.paid r = true → r ∈ b.rows
  balance : ∀ o, b.balance o =
    (a.balance o).map (· + keyedSum p.owner p.amount o (p.gained a.rows b.rows))

variable {p}

omit [DecidableEq O] in
theorem paidIn_iff : p.paidIn rows k ↔ ∃ r ∈ rows, p.key r = k ∧ p.paid r := by
  simp [paidIn]

omit [DecidableEq O] in
theorem mem_gained : r ∈ p.gained rows rows' ↔
    r ∈ rows' ∧ p.paid r ∧ p.paidIn rows (p.key r) = false := by
  simp [gained]

omit [DecidableEq O] in
theorem gained_self (rows : List R) : p.gained rows rows = [] := by
  refine filter_eq_nil_iff.mpr fun r hr hgain => ?_
  obtain ⟨hpaid, hnot⟩ := Bool.and_eq_true_iff.mp hgain
  rw [paidIn_iff.mpr ⟨r, hr, rfl, hpaid⟩] at hnot
  cases hnot

omit [DecidableEq O] in
theorem nodup_gained (h : (rows'.map p.key).Nodup) : (p.gained rows rows').Nodup :=
  h.of_map.filter _

namespace Pays

omit [DecidableEq O] in
theorem paidIn_mono (hstays : ∀ r ∈ rows, p.paid r → r ∈ rows')
    (h : p.paidIn rows k) : p.paidIn rows' k := by
  obtain ⟨r, hr, hkey, hpaid⟩ := paidIn_iff.mp h
  exact paidIn_iff.mpr ⟨r, hstays r hr hpaid, hkey, hpaid⟩

theorem refl (h : (a.rows.map p.key).Nodup) : p.Pays a a where
  unique := h
  stays _ hr _ := hr
  balance o := by simp [gained_self]

/-- The rows paid over two steps are those of the first and those of the
second. -/
theorem keyedSum_gained (hab : p.Pays a b) (hbc : p.Pays b c) (o : O) :
    keyedSum p.owner p.amount o (p.gained a.rows c.rows) =
      keyedSum p.owner p.amount o (p.gained a.rows b.rows) +
        keyedSum p.owner p.amount o (p.gained b.rows c.rows) := by
  have hfst : ((p.gained a.rows c.rows).filter fun r => p.paidIn b.rows (p.key r)).Perm
      (p.gained a.rows b.rows) := by
    refine (perm_ext_iff_of_nodup ((nodup_gained hbc.unique).filter _)
      (nodup_gained hab.unique)).mpr fun r => ?_
    simp only [mem_filter, mem_gained]
    constructor
    · -- the row of that key which was paid by the first step is this one
      rintro ⟨⟨hc, hpaid, hnot⟩, hin⟩
      obtain ⟨r₀, hr₀, hkey, hpaid₀⟩ := paidIn_iff.mp hin
      obtain rfl := eq_of_key hbc.unique (hbc.stays r₀ hr₀ hpaid₀) hc hkey
      exact ⟨hr₀, hpaid, hnot⟩
    · rintro ⟨hb, hpaid, hnot⟩
      exact ⟨⟨hbc.stays r hb hpaid, hpaid, hnot⟩, paidIn_iff.mpr ⟨r, hb, rfl, hpaid⟩⟩
  have hsec : ((p.gained a.rows c.rows).filter fun r => !p.paidIn b.rows (p.key r)) =
      p.gained b.rows c.rows := by
    simp only [gained, filter_filter]
    refine filter_congr fun r _ => ?_
    cases hb : p.paidIn b.rows (p.key r) with
    | true => simp
    | false =>
      have ha : p.paidIn a.rows (p.key r) = false := by
        by_contra hin
        rw [paidIn_mono hab.stays (by simpa using hin)] at hb
        cases hb
      simp [ha]
  rw [keyedSum_filter_add fun r => p.paidIn b.rows (p.key r), keyedSum_perm hfst, hsec]

/-- **Steps that pay compose.** -/
theorem trans (hab : p.Pays a b) (hbc : p.Pays b c) : p.Pays a c where
  unique := hbc.unique
  stays r hr hpaid := hbc.stays r (hab.stays r hr hpaid) hpaid
  balance o := by
    rw [hbc.balance, hab.balance, hab.keyedSum_gained hbc, Option.map_map]
    congr 1
    funext x
    simp only [Function.comp_apply]
    omega

omit [DecidableEq O] in
/-- **No row is paid twice**: what a later step pays was not paid before. -/
theorem gained_disjoint (hr : r ∈ p.gained rows₀ rows)
    (hr' : r' ∈ p.gained rows rows') : p.key r ≠ p.key r' := by
  intro hkey
  obtain ⟨hmem, hpaid, _⟩ := mem_gained.mp hr
  have hnot := (mem_gained.mp hr').2.2
  rw [paidIn_iff.mpr ⟨r, hmem, hkey, hpaid⟩] at hnot
  cases hnot

theorem of_same (h : (a.rows.map p.key).Nodup) (hrows : b.rows = a.rows)
    (hbal : b.balance = a.balance) : p.Pays a b := by
  obtain ⟨rows, balance⟩ := b
  subst hrows hbal
  exact refl h

theorem insert (r : R) (h : (a.rows.map p.key).Nodup) (hfrs : ∀ x ∈ a.rows, p.key x ≠ p.key r)
    (hpaid : p.paid r) (hrows : b.rows = a.rows ++ [r]) (hbal : ∀ o, b.balance o =
      (a.balance o).map (· + if p.owner r = o then p.amount r else 0)) : p.Pays a b where
  unique := by
    rw [hrows, map_append]
    refine nodup_append.mpr ⟨h, nodup_singleton _, ?_⟩
    intro k hk k' hk' heq
    obtain ⟨x, hx, rfl⟩ := mem_map.mp hk
    exact hfrs x hx (heq.trans (mem_singleton.mp hk'))
  stays x hx _ := hrows ▸ mem_append_left _ hx
  balance o := by
    have hnot : p.paidIn a.rows (p.key r) = false := by
      by_contra hin
      obtain ⟨x, hx, hkey, _⟩ := paidIn_iff.mp (by simpa using hin)
      exact hfrs x hx hkey
    have hgain : p.gained a.rows b.rows = [r] := by
      have hold := gained_self (p := p) a.rows
      unfold gained at hold ⊢
      rw [hrows, filter_append, hold]
      simp [hpaid, hnot]
    rw [hbal, hgain]
    simp

theorem mark (marks : R → Bool) (mark : R → R) (h : (a.rows.map p.key).Nodup)
    (hunpaid : ∀ x ∈ a.rows, marks x → p.paid x = false)
    (hpaid : ∀ x, p.paid (mark x)) (hkey : ∀ x, p.key (mark x) = p.key x)
    (howner : ∀ x, p.owner (mark x) = p.owner x) (hamt : ∀ x, p.amount (mark x) = p.amount x)
    (hrows : b.rows = a.rows.map fun x => if marks x then mark x else x)
    (hbal : ∀ o, b.balance o = (a.balance o).map
      (· + keyedSum p.owner p.amount o (a.rows.filter marks))) : p.Pays a b where
  unique := by
    have hkeys : b.rows.map p.key = a.rows.map p.key := by
      rw [hrows, map_map]
      refine map_congr_left fun x _ => ?_
      by_cases hx : marks x = true <;> simp [hx, hkey]
    rw [hkeys]
    exact h
  stays x hx hp := by
    rw [hrows]
    refine mem_map.mpr ⟨x, hx, if_neg fun hm => ?_⟩
    rw [hunpaid x hx hm] at hp
    cases hp
  balance o := by
    have hgain : p.gained a.rows b.rows = (a.rows.filter marks).map mark := by
      unfold gained
      rw [hrows, filter_map]
      have hfilt : a.rows.filter ((fun r => p.paid r && !p.paidIn a.rows (p.key r)) ∘
          fun x => if marks x then mark x else x) = a.rows.filter marks := by
        refine filter_congr fun x hx => ?_
        by_cases hm : marks x
        · have hnot : p.paidIn a.rows (p.key x) = false := by
            by_contra hin
            obtain ⟨y, hy, hyx, hp⟩ := paidIn_iff.mp (by simpa using hin)
            obtain rfl := eq_of_key h hy hx hyx
            rw [hunpaid y hy hm] at hp
            cases hp
          simp [hm, hpaid, hkey, hnot]
        · have hself : p.paid x → p.paidIn a.rows (p.key x) :=
            fun hp => paidIn_iff.mpr ⟨x, hx, rfl, hp⟩
          cases hp : p.paid x <;> simp [hm, hp, hself]
      rw [hfilt]
      refine map_congr_left fun x hx => ?_
      exact if_pos (mem_filter.mp hx).2
    rw [hbal, hgain]
    simp only [keyedSum, map_map, Function.comp_def, howner, hamt]

end Pays

end PayRule

end HermesToken.Lib
