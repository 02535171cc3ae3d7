import HermesToken.Lib.Payroll
import HermesToken.Marketplace.Order

/-!
# Paying sellers

`marketplace_settlement.go`: what the insert of a settlement does to the
tables, and `ReleaseSellerAvailableMarketplaceSettlements`, which pays the
settlements that were stored as pending.
-/

namespace HermesToken.Marketplace

open Lib List

variable {F : Type} {settings : Settings F}

/-! ## Inserting a settlement -/

/-- The row as it is inserted. -/
def MarketplaceSettlement.released (st : MarketplaceSettlement F) (now : Int) :
    MarketplaceSettlement F :=
  { st with
    availableAt := if st.availableAt ≤ 0 then now else st.availableAt
    status := .available }

/-- The database with the row and the seller's credit. -/
def DB.paySettlement (db : DB F) (st : MarketplaceSettlement F) : DB F :=
  let db := { db with settlements := db.settlements ++ [st] }
  if st.sellerIncome ≤ 0 then db else db.addUserQuota st.sellerUserID st.sellerIncome

/-- The checks a settlement passes before it is inserted. -/
structure Payable (db : DB F) (st : MarketplaceSettlement F) : Prop where
  charge : 0 < st.buyerCharge
  seller : 0 < st.sellerUserID
  named : trimSpace st.requestID ≠ ""
  income : 0 ≤ st.sellerIncome
  range : st.sellerIncome ≤ maxInt64
  fresh : ∀ x ∈ db.settlements, x.requestID ≠ st.requestID
  found : 0 < st.sellerIncome → (db.users.get st.sellerUserID).isSome

/-- **The insert.** Nothing happens, or the row is there and the seller is
paid. -/
theorem createReleased_ok (h : createReleasedMarketplaceSettlementTx db st now = .ok db') :
    db' = db ∨ Payable db st ∧ db' = db.paySettlement (st.released now) := by
  unfold createReleasedMarketplaceSettlementTx at h
  split at h
  · cases h
    exact .inl rfl
  rename_i hchg
  simp only [require_seq_ok] at h
  obtain ⟨hsell, hnamed, hinc, hrange, h⟩ := h
  split at h
  · cases h
    exact .inl rfl
  rename_i hany
  have hfrs : ∀ x ∈ db.settlements, x.requestID ≠ st.requestID := by
    intro x hx heq
    exact hany (any_eq_true.mpr ⟨x, hx, by simpa using heq⟩)
  right
  split at h
  · rename_i hzero
    cases h
    refine ⟨⟨not_le.mp hchg, hsell, hnamed, hinc, hrange, hfrs, fun hpos => ?_⟩, ?_⟩
    · exact absurd hzero (not_le.mpr hpos)
    · exact (if_pos hzero).symm
  · rename_i hpos
    obtain ⟨hfound, h⟩ := require_seq_ok.mp h
    cases h
    exact ⟨⟨not_le.mp hchg, hsell, hnamed, hinc, hrange, hfrs, fun _ => hfound⟩, (if_neg hpos).symm⟩

theorem Payable.inserted (h : Payable db st) (now : Int) :
    createReleasedMarketplaceSettlementTx db st now = .ok (db.paySettlement (st.released now)) := by
  have hany : ¬ db.settlements.any (·.requestID = st.requestID) := by
    simpa using h.fresh
  unfold createReleasedMarketplaceSettlementTx
  rw [if_neg (not_le.mpr h.charge)]
  simp only [require_seq_ok]
  refine ⟨h.seller, h.named, h.income, h.range, ?_⟩
  rw [if_neg hany]
  by_cases hzero : st.sellerIncome ≤ 0
  · rw [if_pos hzero]
    exact congrArg _ (if_pos hzero).symm
  · rw [if_neg hzero, require_seq_ok]
    exact ⟨h.found (not_le.mp hzero), congrArg _ (if_neg hzero).symm⟩

@[simp] theorem DB.addUserQuota_settlements (db : DB F) (userID delta : Int) :
    (db.addUserQuota userID delta).settlements = db.settlements := by
  unfold addUserQuota
  split <;> rfl

@[simp] theorem DB.paySettlement_settlements (db : DB F) (st : MarketplaceSettlement F) :
    (db.paySettlement st).settlements = db.settlements ++ [st] := by
  unfold paySettlement
  split
  · rfl
  · exact addUserQuota_settlements ..

/-! ## Releasing pending settlements -/

structure MarketplaceSettlementReleaseResult where
  (releasedCount releasedIncome : Int := 0)

/-- The condition of the SELECT. -/
def releasable (sellerUserID now : Int) (st : MarketplaceSettlement F) : Bool :=
  st.sellerUserID = sellerUserID && st.status = .pending && st.availableAt ≤ now

/-- The rows a release pays: of the first `limit` rows that are found, those
with an income. Rows are in the order of their ids. -/
def releaseRows (db : DB F) (sellerUserID now limit : Int) : List (MarketplaceSettlement F) :=
  let limit := if limit ≤ 0 ∨ limit > 500 then 100 else limit
  ((db.settlements.filter (releasable sellerUserID now)).take limit.toNat).filter
    (0 < ·.sellerIncome)

/-- The condition of the UPDATE. The request id of a row stands for its id,
both are unique. -/
def releaseMarks (sellerUserID : Int) (ids : List String) (st : MarketplaceSettlement F) : Bool :=
  st.requestID ∈ ids && st.sellerUserID = sellerUserID && st.status = .pending

def markAvailable (st : MarketplaceSettlement F) : MarketplaceSettlement F :=
  { st with status := .available }

/-- The UPDATE of the rows. -/
def DB.markSettlements (db : DB F) (sellerUserID : Int) (ids : List String) : DB F :=
  { db with settlements := db.settlements.map fun st =>
      if releaseMarks sellerUserID ids st then markAvailable st else st }

/-- The sum of the incomes is an `int64`. -/
def releasedIncome (rows : List (MarketplaceSettlement F)) : Int :=
  rows.foldl (fun sum st => add64 sum st.sellerIncome) 0

/-- `clock` is the time now, for a call without one. -/
def releaseSellerAvailableMarketplaceSettlements (settings : Settings F) (db : DB F)
    (sellerUserID now limit clock : Int) :
    Except String (DB F × MarketplaceSettlementReleaseResult) := do
  validateMarketplaceEnabled settings
  require (sellerUserID > 0) "seller user id is required"
  let now := if now ≤ 0 then clock else now
  let rows := releaseRows db sellerUserID now limit
  if rows.isEmpty ∨ releasedIncome rows ≤ 0 then .ok (db, {})
  else do
    require (releasedIncome rows ≤ maxInt64)
      "released marketplace income exceeds supported user quota range"
    let _seller ← found (db.users.get sellerUserID) "record not found"
    let db := db.markSettlements sellerUserID (rows.map (·.requestID))
    .ok (db.addUserQuota sellerUserID (releasedIncome rows), ⟨rows.length, releasedIncome rows⟩)

/-! ## The payroll of the marketplace -/

def payRule : PayRule (MarketplaceSettlement F) String Int where
  key := (·.requestID)
  owner := (·.sellerUserID)
  amount := (·.sellerIncome)
  paid st := st.status = .available

def DB.payroll (db : DB F) : Payroll (MarketplaceSettlement F) Int where
  rows := db.settlements
  balance userID := (db.users.get userID).map (·.quota)

/-- The fee and the income are the two parts of the charge. -/
structure Fair (st : MarketplaceSettlement F) : Prop where
  platformFee : 0 ≤ st.platformFee
  sellerIncome : 0 ≤ st.sellerIncome
  buyerCharge : st.platformFee + st.sellerIncome = st.buyerCharge

section

variable {db db' : DB F}

theorem DB.addUserQuota_balance :
    (db.addUserQuota userID delta).payroll.balance o =
      (db.payroll.balance o).map (· + if userID = o then delta else 0) := by
  unfold addUserQuota
  cases huser : db.users.get userID with
  | none =>
    by_cases ho : userID = o
    · subst ho
      simp [payroll, huser]
    · simp [ho]
  | some u =>
    have hid : u.id = userID := db.users.key_get huser
    show ((db.users.save { u with quota := u.quota + delta }).get o).map (·.quota) = _
    rw [Table.get_save]
    by_cases ho : userID = o
    · subst ho
      rw [if_pos hid]
      simp [payroll, huser]
    · rw [if_neg (show ¬ u.id = o by rw [hid]; exact ho)]
      simp [payroll, ho, Function.comp_def]

theorem Payable.balance (h : Payable db st) (now o : Int) :
    (db.paySettlement (st.released now)).payroll.balance o =
      (db.payroll.balance o).map (· + if st.sellerUserID = o then st.sellerIncome else 0) := by
  by_cases hzero : st.sellerIncome ≤ 0
  · have hinc : st.sellerIncome = 0 := le_antisymm hzero h.income
    rw [show db.paySettlement (st.released now) =
      { db with settlements := db.settlements ++ [st.released now] } from if_pos hzero]
    simp [DB.payroll, hinc, Function.comp_def]
  · rw [show db.paySettlement (st.released now) = DB.addUserQuota
      { db with settlements := db.settlements ++ [st.released now] } st.sellerUserID
      st.sellerIncome from if_neg hzero]
    exact DB.addUserQuota_balance ..

theorem Payable.pays (h : Payable db st) (huniq : (db.settlements.map (·.requestID)).Nodup)
    (now : Int) : payRule.Pays db.payroll (db.paySettlement (st.released now)).payroll :=
  .insert (st.released now) huniq h.fresh rfl (DB.paySettlement_settlements ..) (h.balance now)

/-- By induction: as long as the sum fits it is the sum. -/
theorem releasedIncome_foldl (rows : List (MarketplaceSettlement F)) (sum : Int) (hsum : 0 ≤ sum)
    (hrows : ∀ st ∈ rows, 0 ≤ st.sellerIncome)
    (hmax : sum + (rows.map (·.sellerIncome)).sum ≤ maxInt64) :
    rows.foldl (fun sum st => add64 sum st.sellerIncome) sum =
      sum + (rows.map (·.sellerIncome)).sum := by
  induction rows generalizing sum with
  | nil => simp
  | cons st rows ih =>
  have hst := hrows st mem_cons_self
  have hrest : ∀ st ∈ rows, 0 ≤ st.sellerIncome :=
    fun x hx => hrows x (mem_cons_of_mem _ hx)
  have hnn : 0 ≤ (rows.map (·.sellerIncome)).sum :=
    sum_nonneg (by simpa using hrest)
  simp only [map_cons, sum_cons] at hmax
  simp only [foldl_cons, map_cons, sum_cons]
  rw [add64_eq (InInt64.of_nonneg (by omega) (by omega)), ih _ (by omega) hrest (by omega)]
  omega

section

variable {sellerUserID now limit : Int}

theorem mem_releaseRows (h : st ∈ releaseRows db sellerUserID now limit) :
    st ∈ db.settlements ∧ st.sellerUserID = sellerUserID ∧ st.status = .pending ∧
      0 < st.sellerIncome := by
  simp only [releaseRows, mem_filter, decide_eq_true_eq] at h
  obtain ⟨hmem, hpos⟩ := h
  obtain ⟨hmem, hrel⟩ := mem_filter.mp (mem_of_mem_take hmem)
  simp only [releasable, Bool.and_eq_true, decide_eq_true_eq] at hrel
  exact ⟨hmem, hrel.1.1, hrel.1.2, hpos⟩

theorem nodup_releaseRows (h : (db.settlements.map (·.requestID)).Nodup) :
    (releaseRows db sellerUserID now limit).Nodup :=
  ((h.of_map.filter _).sublist (take_sublist ..)).filter _

theorem filter_releaseMarks (h : (db.settlements.map (·.requestID)).Nodup) :
    (db.settlements.filter (releaseMarks sellerUserID
      ((releaseRows db sellerUserID now limit).map (·.requestID)))).Perm
      (releaseRows db sellerUserID now limit) := by
  refine (perm_ext_iff_of_nodup (h.of_map.filter _) (nodup_releaseRows h)).mpr fun st => ?_
  simp only [mem_filter, releaseMarks, Bool.and_eq_true, decide_eq_true_eq, mem_map]
  constructor
  · rintro ⟨hst, ⟨⟨row, hrow, hkey⟩, _⟩, _⟩
    obtain rfl := eq_of_key h (mem_releaseRows hrow).1 hst hkey
    exact hrow
  · intro hst
    obtain ⟨hmem, hsell, hpend, _⟩ := mem_releaseRows hst
    exact ⟨hmem, ⟨⟨st, hst, rfl⟩, hsell⟩, hpend⟩

theorem keyedSum_releaseRows (o : Int) :
    keyedSum payRule.owner payRule.amount o (releaseRows db sellerUserID now limit) =
      if sellerUserID = o then ((releaseRows db sellerUserID now limit).map (·.sellerIncome)).sum
      else 0 := by
  have hsell : ∀ st ∈ releaseRows db sellerUserID now limit,
      payRule.owner st = sellerUserID := fun st hst => (mem_releaseRows hst).2.1
  by_cases ho : sellerUserID = o
  · subst ho
    rw [if_pos rfl]
    unfold keyedSum
    congr 1
    exact map_congr_left fun st hst => if_pos (hsell st hst)
  · rw [if_neg ho]
    exact keyedSum_eq_zero fun st hst => by rw [hsell st hst]; exact ho

def pendingSettlements (settlements : List (MarketplaceSettlement F)) :
    List (MarketplaceSettlement F) :=
  settlements.filter (·.status = .pending)

/-- What a seller waits for. -/
def waitingSettlements (settlements : List (MarketplaceSettlement F)) (sellerUserID : Int) :
    List (MarketplaceSettlement F) :=
  (pendingSettlements settlements).filter fun st =>
    st.sellerUserID = sellerUserID && 0 < st.sellerIncome

/-- The incomes that a seller waits for add up to a 64-bit integer. -/
def PendingFits (settlements : List (MarketplaceSettlement F)) : Prop :=
  ∀ sellerUserID, ((waitingSettlements settlements sellerUserID).map (·.sellerIncome)).sum ≤
    maxInt64

namespace PendingFits

variable {settlements : List (MarketplaceSettlement F)} (h : PendingFits settlements)
include h

theorem of_sublist {rows : List (MarketplaceSettlement F)}
    (hsub : rows <+ waitingSettlements settlements sellerUserID) :
    (rows.map (·.sellerIncome)).sum ≤ maxInt64 := by
  refine ((hsub.map _).sum_le_sum fun income hincome => ?_).trans (h sellerUserID)
  obtain ⟨st, hst, rfl⟩ := mem_map.mp hincome
  have hpos := (mem_filter.mp hst).2
  simp only [Bool.and_eq_true, decide_eq_true_eq] at hpos
  exact hpos.2.le

theorem mono {settlements' : List (MarketplaceSettlement F)}
    (hsub : pendingSettlements settlements' <+ pendingSettlements settlements) :
    PendingFits settlements' :=
  fun _ => h.of_sublist (hsub.filter _)

end PendingFits

theorem releaseRows_waiting :
    releaseRows db sellerUserID now limit <+ waitingSettlements db.settlements sellerUserID := by
  refine ((take_sublist _ _).filter _).trans ?_
  rw [waitingSettlements, pendingSettlements, filter_filter, filter_filter]
  refine monotone_filter_right _ fun st hst => ?_
  simp only [releasable, Bool.and_eq_true, decide_eq_true_eq] at hst ⊢
  exact ⟨⟨hst.2.1.1, hst.1⟩, hst.2.1.2⟩

theorem pending_markSettlements :
    pendingSettlements (db.markSettlements sellerUserID ids).settlements <+
      pendingSettlements db.settlements := by
  unfold pendingSettlements DB.markSettlements
  induction db.settlements with
  | nil => exact .refl _
  | cons st rest ih =>
    rw [map_cons]
    by_cases hmarks : releaseMarks sellerUserID ids st
    · rw [if_pos hmarks, filter_cons_of_neg (by simp [markAvailable])]
      exact ih.trans ((sublist_cons_self st rest).filter _)
    · rw [if_neg hmarks]
      by_cases hpending : st.status = .pending
      · rw [filter_cons_of_pos (by simpa using hpending),
          filter_cons_of_pos (by simpa using hpending)]
        exact ih.cons_cons st
      · rw [filter_cons_of_neg (by simpa using hpending),
          filter_cons_of_neg (by simpa using hpending)]
        exact ih

/-- Marking the rows of a release and crediting their sum pays them. -/
theorem markSettlements_pays (huniq : (db.settlements.map (·.requestID)).Nodup) :
    let rows := releaseRows db sellerUserID now limit
    payRule.Pays db.payroll ((db.markSettlements sellerUserID (rows.map (·.requestID))).addUserQuota
      sellerUserID (rows.map (·.sellerIncome)).sum).payroll := by
  intro rows
  refine .mark (releaseMarks sellerUserID (rows.map (·.requestID))) markAvailable huniq
    ?_ (fun _ => rfl) (fun _ => rfl) (fun _ => rfl) (fun _ => rfl) ?_ fun o => ?_
  · intro st _ hmarks
    simp only [releaseMarks, Bool.and_eq_true, decide_eq_true_eq] at hmarks
    simp [payRule, hmarks.2]
  · exact DB.addUserQuota_settlements ..
  have hrows : keyedSum payRule.owner payRule.amount o (db.payroll.rows.filter
      (releaseMarks sellerUserID (rows.map (·.requestID)))) =
        if sellerUserID = o then (rows.map (·.sellerIncome)).sum else 0 :=
    (keyedSum_perm (filter_releaseMarks huniq)).trans (keyedSum_releaseRows o)
  rw [hrows]
  exact DB.addUserQuota_balance ..

theorem fair_markSettlements (h : ∀ st ∈ db.settlements, Fair st) :
    ∀ st ∈ (db.markSettlements sellerUserID ids).settlements, Fair st := by
  intro st hst
  obtain ⟨x, hx, rfl⟩ := mem_map.mp hst
  have hold := h x hx
  split
  · exact ⟨hold.platformFee, hold.sellerIncome, hold.buyerCharge⟩
  · exact hold

variable {clock : Int} {result : MarketplaceSettlementReleaseResult}
  (h : releaseSellerAvailableMarketplaceSettlements settings db sellerUserID now limit clock =
    .ok (db', result))
include h

/-- A release marks the rows and credits their income, or does nothing. -/
theorem releaseSettlements_ok :
    let rows := releaseRows db sellerUserID (if now ≤ 0 then clock else now) limit
    db' = db ∨ db' = (db.markSettlements sellerUserID (rows.map (·.requestID))).addUserQuota
      sellerUserID (releasedIncome rows) := by
  obtain ⟨_, _, h⟩ := seq_ok.mp h
  obtain ⟨_, h⟩ := require_seq_ok.mp h
  dsimp only at h ⊢
  generalize (if now ≤ 0 then clock else now) = now at h ⊢
  split at h
  · obtain ⟨rfl, _⟩ := Prod.mk.inj (Except.ok.inj h)
    exact .inl rfl
  obtain ⟨_, h⟩ := require_seq_ok.mp h
  obtain ⟨_, _, h⟩ := found_seq_ok.mp h
  obtain ⟨rfl, _⟩ := Prod.mk.inj (Except.ok.inj h)
  exact .inr rfl

/-- **Releasing** pays the rows it selects. -/
theorem releaseSettlements_pays (huniq : (db.settlements.map (·.requestID)).Nodup)
    (hfits : PendingFits db.settlements) : payRule.Pays db.payroll db'.payroll := by
  rcases releaseSettlements_ok h with rfl | rfl
  · exact .refl huniq
  generalize (if now ≤ 0 then clock else now) = now
  have hnn : ∀ st ∈ releaseRows db sellerUserID now limit, 0 ≤ st.sellerIncome :=
    fun st hst => (mem_releaseRows hst).2.2.2.le
  have hsum : releasedIncome (releaseRows db sellerUserID now limit) =
      0 + ((releaseRows db sellerUserID now limit).map (·.sellerIncome)).sum :=
    releasedIncome_foldl _ 0 (le_refl 0) hnn
      (by rw [zero_add]; exact hfits.of_sublist releaseRows_waiting)
  rw [hsum, zero_add]
  exact markSettlements_pays huniq

end

end

end HermesToken.Marketplace
