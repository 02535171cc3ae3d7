import HermesToken.Referral.Payout

/-!
# Reversal and repair of a settlement

`reverseReferralSettlementBatch` of `model/subscription_referral.go` takes the
rewards of a batch back, as far as the beneficiaries still have the quota, and
books the rest as debt. `RepairSubscriptionReferralSettlementBatchByID` of
`model/subscription_referral_repair.go` sets the direct rewards of a batch that
was not reversed to those of its snapshots. `TransferAffQuotaToQuota` of
`model/user.go` moves affiliate quota to the quota of a user.
-/

namespace HermesToken.Referral

open Lib Tx List
open Subscription

variable {b : Int} {st st' : Store} {record : ReferralSettlementRecord}
  {records : List ReferralSettlementRecord} {batch : ReferralSettlementBatch}
  {money : Option ℚ}
  {immediate reversed : ReferralSettlementRecord}

/-! ## Reversal -/

def takeAffQuota (userID recovered : Int) : SubTx Unit :=
  if 0 < recovered then
    Tx.update (.user userID) fun st => st.updateUser userID fun user =>
      { user with affQuota := user.affQuota - recovered }
  else return ()

/-- The record after `recovered` was taken back and `debt` was not. -/
def reversedRecord (record : ReferralSettlementRecord) (recovered debt : Int) :
    ReferralSettlementRecord :=
  { record with
    reversedQuota := record.reversedQuota + recovered
    debtQuota := record.debtQuota + debt
    status := if 0 < debt then .partiallyReversed else .reversed }

def reverseRecord (record : ReferralSettlementRecord) : SubTx ReferralSettlementRecord := do
  let reversible := record.rewardQuota - record.reversedQuota - record.debtQuota
  if reversible ≤ 0 then return record
  else
    let row ← Tx.select fun st => st.user? record.beneficiaryUserId
    let user ← found row SubError.recordNotFound
    let recovered := if user.affQuota < reversible then user.affQuota else reversible
    let debt := reversible - recovered
    takeAffQuota user.id recovered
    let reversed := reversedRecord record recovered debt
    Tx.update (.record record.id) fun st => st.saveRecord reversed
    return reversed

def reverseRecords : List ReferralSettlementRecord → SubTx (List ReferralSettlementRecord)
  | [] => return []
  | record :: records => do
    let reversed ← reverseRecord record
    let rest ← reverseRecords records
    return reversed :: rest

def resolveReferralSettlementBatchStatus (records : List ReferralSettlementRecord) :
    ReferralStatus :=
  if records.isEmpty then .credited
  else if records.any fun record =>
    record.status = .partiallyReversed || decide (0 < record.debtQuota) then .partiallyReversed
  else if records.all (·.status = .reversed) then .reversed
  else .credited

def recordsOf (st : Store) (batchID : Int) : List ReferralSettlementRecord :=
  st.records.filter (·.batchId = batchID)

def reverseReferralSettlementBatch (batchID : Int) : SubTx Unit := do
  require (0 < batchID) SubError.referralRecordNotFound
  let row ← Tx.select fun st => st.batches.get batchID
  let batch ← found row SubError.referralRecordNotFound
  let records ← Tx.select fun st => recordsOf st batchID
  require (records ≠ []) SubError.referralRecordNotFound
  let reversed ← reverseRecords records
  Tx.update (.batch batchID) fun st =>
    st.saveBatch { batch with status := resolveReferralSettlementBatchStatus reversed }

/-! ## Repair -/

structure RepairResult where
  batchID : Int
  sourceTradeNo : String
  immediateRecordID : Int
  inviteeRecordID : Int := 0
  immediateBeneficiaryUserID : Int
  inviteeBeneficiaryUserID : Int := 0
  (immediateOldQuota immediateNewQuota : Int)
  (inviteeOldQuota inviteeNewQuota : Int := 0)
  changed : Bool

def statusText : ReferralStatus → String
  | .credited => "credited"
  | .reversed => "reversed"
  | .partiallyReversed => "partially_reversed"

def loadRepairableSubscriptionReferralBatchTx (batchID : Int) :
    SubTx (ReferralSettlementBatch × List ReferralSettlementRecord) := do
  let row ← Tx.select fun st => st.batches.get batchID
  let batch ← found row SubError.recordNotFound
  require (batch.referralType = referralTypeSubscription) (SubError.text
    ("batch " ++ toString batchID ++ " is not a subscription referral batch"))
  require (batch.status = .credited) (SubError.text
    ("batch " ++ toString batchID ++ " status \"" ++ statusText batch.status ++
      "\" is not repairable"))
  let records ← Tx.select fun st => recordsOf st batch.id
  require (records ≠ []) (SubError.text
    ("batch " ++ toString batchID ++ " has no settlement records"))
  require (∀ record ∈ records, record.status = .credited ∧ record.reversedQuota = 0 ∧
    record.debtQuota = 0) (SubError.text
    ("batch " ++ toString batchID ++ " contains non-credited settlement state"))
  return (batch, records)

def immediateComponent : ReferralSettlementMode → RewardComponent
  | .teamDirect => .teamDirectReward
  | .directWithTeamChain => .directReward

def componentText : RewardComponent → String
  | .teamDirectReward => "team_direct_reward"
  | .directReward => "direct_reward"
  | .inviteeReward => "invitee_reward"
  | .teamReward => "team_reward"

/-- The last record of the immediate component. -/
def immediateRecord? (batch : ReferralSettlementBatch) (records : List ReferralSettlementRecord) :
    Option ReferralSettlementRecord :=
  (records.filter (·.rewardComponent = immediateComponent batch.settlementMode)).getLast?

/-- The last record of the payer's part of it. -/
def inviteeRecord? (batch : ReferralSettlementBatch) (records : List ReferralSettlementRecord) :
    Option ReferralSettlementRecord :=
  (records.filter fun record => record.rewardComponent = .inviteeReward &&
    record.sourceRewardComponent = some (immediateComponent batch.settlementMode)).getLast?

section

variable (batch immediate) (invitee : Option ReferralSettlementRecord) (money : ℚ)

/-- The rewards that the snapshots give to the inviter and to the payer. -/
def repairTargets : Int × Int :=
  let inviteeRateBps := match immediate.inviteeShareBpsSnapshot with
    | some bps => bps
    | none => (invitee.bind (·.inviteeShareBpsSnapshot)).getD 0
  let config := resolveSubscriptionReferralConfig (immediate.appliedRateBps.getD 0) inviteeRateBps
  (calculateSubscriptionReferralQuotaWithQuotaPerUnit money config.inviterRateBps
      batch.quotaPerUnitSnapshot,
    calculateSubscriptionReferralQuotaWithQuotaPerUnit money config.inviteeRateBps
      batch.quotaPerUnitSnapshot)

/-- The targets against what is booked, when both records are there. -/
def repairResult : RepairResult :=
  let targets := repairTargets batch immediate invitee money
  let result : RepairResult := {
    batchID := batch.id
    sourceTradeNo := batch.sourceTradeNo
    immediateRecordID := immediate.id
    immediateBeneficiaryUserID := immediate.beneficiaryUserId
    immediateOldQuota := immediate.rewardQuota
    immediateNewQuota := targets.1
    changed := decide (immediate.rewardQuota ≠ targets.1) }
  match invitee with
  | some invitee =>
    { result with
      inviteeRecordID := invitee.id
      inviteeBeneficiaryUserID := invitee.beneficiaryUserId
      inviteeOldQuota := invitee.rewardQuota
      inviteeNewQuota := targets.2
      changed := result.changed || decide (invitee.rewardQuota ≠ targets.2) }
  | none => result

end

/-- What a repair would do. The order counts with its money only. -/
def previewSubscriptionReferralSettlementBatchRepair (batch : ReferralSettlementBatch)
    (records : List ReferralSettlementRecord) (orderMoney : Option ℚ) :
    Except SubError RepairResult := do
  let component := componentText (immediateComponent batch.settlementMode)
  let immediate ← found (immediateRecord? batch records) (SubError.text
    ("batch " ++ toString batch.id ++ " missing " ++ component ++ " record"))
  let money ← found orderMoney SubError.recordNotFound
  let invitee := inviteeRecord? batch records
  require (0 < immediate.appliedRateBps.getD 0) (SubError.text
    ("batch " ++ toString batch.id ++ " missing applied_rate_bps on " ++ component ++ " record"))
  require (¬ (invitee = none ∧ 0 < (repairTargets batch immediate invitee money).2))
    (SubError.text ("batch " ++ toString batch.id ++ " missing invitee_reward record"))
  return repairResult batch immediate invitee money

def adjustReferralRepairUserQuotaTx (userID delta : Int) : SubTx Unit := do
  if userID ≤ 0 ∨ delta = 0 then return ()
  else
    let row ← Tx.select fun st => st.user? userID
    let user ← found row SubError.recordNotFound
    if 0 < delta then Tx.update (.user userID) fun st => st.updateUser userID (credit · delta)
    else
      let reduction := -delta
      require (reduction ≤ user.affQuota) (SubError.text
        ("user " ++ toString userID ++ " aff_quota " ++ toString user.affQuota ++
          " is insufficient for repair reduction " ++ toString reduction))
      require (reduction ≤ user.affHistoryQuota) (SubError.text
        ("user " ++ toString userID ++ " aff_history " ++ toString user.affHistoryQuota ++
          " is insufficient for repair reduction " ++ toString reduction))
      Tx.update (.user userID) fun st => st.updateUser userID (credit · (-reduction))

def setRewardQuota (id quota : Int) (record : ReferralSettlementRecord) :
    ReferralSettlementRecord :=
  if record.id = id then { record with rewardQuota := quota } else record

def updateRewardQuotaTx (id quota : Int) : SubTx Unit :=
  Tx.update (.record id) fun st => { st with records := st.records.map (setRewardQuota id quota) }

/-- The payer's part of a repair, if there is a record for it. -/
def repairInviteeTx (preview : RepairResult) (repair : SubTx Unit) : SubTx Unit :=
  if 0 < preview.inviteeRecordID then repair else return ()

def repairSubscriptionReferralSettlementBatchByID (batchID : Int) : SubTx RepairResult := do
  require (0 < batchID) (SubError.text "invalid batch id")
  let (batch, records) ← loadRepairableSubscriptionReferralBatchTx batchID
  let orderMoney ← Tx.select fun st => (st.orderByID? batch.sourceId).map (·.money)
  let preview ← previewSubscriptionReferralSettlementBatchRepair batch records orderMoney
  if !preview.changed then return preview
  else
    adjustReferralRepairUserQuotaTx preview.immediateBeneficiaryUserID
      (preview.immediateNewQuota - preview.immediateOldQuota)
    repairInviteeTx preview (adjustReferralRepairUserQuotaTx preview.inviteeBeneficiaryUserID
      (preview.inviteeNewQuota - preview.inviteeOldQuota))
    updateRewardQuotaTx preview.immediateRecordID preview.immediateNewQuota
    repairInviteeTx preview (updateRewardQuotaTx preview.inviteeRecordID preview.inviteeNewQuota)
    return preview

/-! ## Transfer -/

def transferAffQuotaToQuota (cfg : Settings) (userID quota : Int) : SubTx Unit := do
  require (userID ≠ 0) (SubError.text "id 为空！")
  require (¬ (quota : ℚ) < cfg.quotaPerUnit) (SubError.text "转移额度最小为")
  let updated ← Tx.updateWhere (.user userID)
    (fun st => (st.user? userID).any fun user => decide (quota ≤ user.affQuota))
    fun st => st.updateUser userID fun user =>
      { user with affQuota := user.affQuota - quota, quota := user.quota + quota }
  require (updated = true) (SubError.text "邀请额度不足！")

/-! ## What a reversal does -/

def affQuotaOf (st : Store) (userID : Int) : Int := ((st.user? userID).map (·.affQuota)).getD 0

/-- What was taken back from a user, by the records. -/
def reversedOf (st : Store) (userID : Int) : Int :=
  keyedSum (·.beneficiaryUserId) (·.reversedQuota) userID st.records

def AffNonneg (st : Store) : Prop := ∀ id user, st.user? id = some user → 0 ≤ user.affQuota

/-- What a record can look like. -/
structure SoundRecord (record : ReferralSettlementRecord) : Prop where
  reversed : 0 ≤ record.reversedQuota
  debt : 0 ≤ record.debtQuota
  le : record.reversedQuota + record.debtQuota ≤ record.rewardQuota

/-- Nothing of the reward is left. -/
def Settled (record : ReferralSettlementRecord) : Prop :=
  record.reversedQuota + record.debtQuota = record.rewardQuota

/-- The columns that a reversal leaves alone. -/
def creditedForm (record : ReferralSettlementRecord) : ReferralSettlementRecord :=
  { record with reversedQuota := 0, debtQuota := 0, status := .credited }

/-- What the reversal of records of the batch `b` does to the tables. -/
structure Reversing (b : Int) (st st' : Store) : Prop where
  keys : st'.records.map (fun r => (r.id, r.batchId)) = st.records.map fun r => (r.id, r.batchId)
  others : ∀ b', b' ≠ b → recordsOf st' b' = recordsOf st b'
  batches : st'.batches = st.batches
  orders : st'.orders = st.orders
  nextRecordID : st'.nextRecordID = st.nextRecordID
  aff : AffNonneg st → AffNonneg st'
  taken : ∀ u, affQuotaOf st' u + reversedOf st' u = affQuotaOf st u + reversedOf st u

theorem Reversing.refl (b : Int) (st : Store) : Reversing b st st :=
  ⟨rfl, fun _ _ => rfl, rfl, rfl, rfl, id, fun _ => rfl⟩

theorem Reversing.trans (h : Reversing b st st₁) (h' : Reversing b st₁ st') :
    Reversing b st st' where
  keys := h'.keys.trans h.keys
  others b' hb := (h'.others b' hb).trans (h.others b' hb)
  batches := h'.batches.trans h.batches
  orders := h'.orders.trans h.orders
  nextRecordID := h'.nextRecordID.trans h.nextRecordID
  aff := h'.aff ∘ h.aff
  taken u := (h'.taken u).trans (h.taken u)

theorem Reversing.ids (h : Reversing b st st') :
    st'.records.map (·.id) = st.records.map (·.id) := by
  have hkeys := congrArg (map Prod.fst) h.keys
  simpa only [map_map, Function.comp_def] using hkeys

theorem recordsOf_saveRecord
    (hold : ∀ r ∈ st.records, r.id = record.id → r.batchId = record.batchId) :
    recordsOf (st.saveRecord record) b = saveRow (·.id) record (recordsOf st b) := by
  simp only [recordsOf, Store.saveRecord, saveRow, filter_map]
  congr 1
  refine filter_congr fun r hr => ?_
  by_cases hid : r.id = record.id
  · simp [hid, hold r hr hid]
  · simp [hid]

theorem saveRow_middle {after} (hid : reversed.id = record.id)
    (hnodup : ((before ++ record :: after).map (·.id)).Nodup) :
    saveRow (·.id) reversed (before ++ record :: after) = before ++ reversed :: after := by
  rw [map_append, map_cons, nodup_append] at hnodup
  obtain ⟨-, hafter, hdisj⟩ := hnodup
  have hpre : saveRow (·.id) reversed before = before := by
    refine saveRow_of_absent fun r hr hkey => ?_
    exact hdisj r.id (mem_map_of_mem hr) record.id mem_cons_self (hkey.trans hid)
  have hrest : saveRow (·.id) reversed after = after := by
    refine saveRow_of_absent fun r hr hkey => ?_
    refine (nodup_cons.mp hafter).1 ?_
    rw [← hid, ← hkey]
    exact mem_map_of_mem hr
  have hcons : saveRow (·.id) reversed (before ++ record :: after) =
      saveRow (·.id) reversed before ++ reversed :: saveRow (·.id) reversed after := by
    simp [saveRow, hid]
  rw [hcons, hpre, hrest]

theorem takeAffQuota_run (userID : Int) (h : 0 ≤ recovered) (st : Store) :
    ∃ st', (takeAffQuota userID recovered).run st = .ok ((), st') ∧
      st'.records = st.records ∧ st'.batches = st.batches ∧ st'.orders = st.orders ∧
      st'.nextRecordID = st.nextRecordID ∧
      ∀ k, st'.user? k = (st.user? k).map fun user =>
        if k = userID then { user with affQuota := user.affQuota - recovered } else user := by
  unfold takeAffQuota
  by_cases hpos : 0 < recovered
  · rw [if_pos hpos]
    exact ⟨_, rfl, rfl, rfl, rfl, rfl, Store.user?_updateUser
      (f := fun user => { user with affQuota := user.affQuota - recovered })
      (fun _ => ⟨rfl, rfl⟩) userID⟩
  have hzero : recovered = 0 := by omega
  rw [if_neg hpos]
  refine ⟨st, rfl, rfl, rfl, rfl, rfl, fun k => ?_⟩
  subst hzero
  cases st.user? k <;> simp

/-- The reversal of one record: it is settled, in the bounds of what the
beneficiary has. -/
theorem reverseRecord_ok {after} (h : (reverseRecord record).run st = .ok (reversed, st'))
    (hnodup : (st.records.map (·.id)).Nodup) (hsplit : recordsOf st b = before ++ record :: after)
    (hsnd : SoundRecord record) (haff : AffNonneg st) :
    Reversing b st st' ∧ recordsOf st' b = before ++ reversed :: after ∧
      creditedForm reversed = creditedForm record ∧ SoundRecord reversed ∧ Settled reversed := by
  have hof : record ∈ recordsOf st b := by
    rw [hsplit]
    simp
  obtain ⟨hmem, hbat⟩ := mem_filter.mp hof
  have hbat : record.batchId = b := by simpa using hbat
  have hrev := hsnd.reversed
  have hdebt := hsnd.debt
  have hle := hsnd.le
  unfold reverseRecord at h
  by_cases hrever : record.rewardQuota - record.reversedQuota - record.debtQuota ≤ 0
  · simp only [if_pos hrever] at h
    cases h
    exact ⟨.refl b st, hsplit, rfl, hsnd, by unfold Settled; omega⟩
  simp only [if_neg hrever, run_select_bind, run_lift_bind_ok, found_ok] at h
  obtain ⟨user, huser, h⟩ := h
  have hid : user.id = record.beneficiaryUserId := Store.user?_id huser
  have hhas := haff _ _ huser
  generalize hback : (if user.affQuota <
      record.rewardQuota - record.reversedQuota - record.debtQuota then user.affQuota
    else record.rewardQuota - record.reversedQuota - record.debtQuota) = recovered at h
  have hbound : 0 ≤ recovered ∧ recovered ≤ user.affQuota ∧
      recovered ≤ record.rewardQuota - record.reversedQuota - record.debtQuota := by
    split at hback <;> omega
  obtain ⟨hpos, hleAff, _⟩ := hbound
  obtain ⟨st₁, htake, hrecs, hbats, hords, hnext, husers⟩ :=
    takeAffQuota_run user.id hpos st
  rw [run_bind_of_ok htake, run_update_bind] at h
  obtain ⟨hrow, rfl⟩ := Prod.mk.inj (Except.ok.inj h)
  rw [hrow]
  have hid' : reversed.id = record.id := by rw [← hrow]; rfl
  have hbat' : reversed.batchId = record.batchId := by rw [← hrow]; rfl
  have hben : reversed.beneficiaryUserId = record.beneficiaryUserId := by
    rw [← hrow]; rfl
  have hrev' : reversed.reversedQuota = record.reversedQuota + recovered := by
    rw [← hrow]; rfl
  have hdebt' : reversed.debtQuota = record.rewardQuota - record.reversedQuota - recovered := by
    rw [← hrow]
    simp only [reversedRecord]
    omega
  have hrew' : reversed.rewardQuota = record.rewardQuota := by rw [← hrow]; rfl
  -- the saved row replaces `record`, the only one under its id
  have hsame : ∀ r ∈ st.records, r.id = reversed.id → r = record := fun r hr hkey =>
    eq_of_key hnodup hr hmem (hkey.trans hid')
  have hrec : ∀ b', recordsOf (st₁.saveRecord reversed) b' =
      saveRow (·.id) reversed (recordsOf st b') := by
    intro b'
    rw [recordsOf_saveRecord, recordsOf, hrecs]
    · rfl
    intro r hr hkey
    rw [hrecs] at hr
    rw [hsame r hr hkey, hbat']
  refine ⟨⟨?_, ?_, hbats, hords, hnext, ?_, ?_⟩, ?_, ?_, ⟨?_, ?_, ?_⟩, ?_⟩
  · rw [← hrecs]
    refine map_saveRow _ fun r hr hkey => ?_
    rw [hrecs] at hr
    rw [hsame r hr hkey, hid', hbat']
  · intro b' hb'
    rw [hrec]
    refine saveRow_of_absent fun r hr hkey => hb' ?_
    obtain ⟨hr, hrb⟩ := mem_filter.mp hr
    rw [← hbat, ← hsame r hr hkey]
    exact (by simpa using hrb : r.batchId = b').symm
  · intro _ id user' hget
    have hget : st₁.user? id = some user' := hget
    rw [husers] at hget
    obtain ⟨old, hold, rfl⟩ := Option.map_eq_some_iff.mp hget
    split
    · rename_i hk
      rw [hk, hid, huser] at hold
      cases hold
      exact sub_nonneg.mpr hleAff
    · exact haff id old hold
  · intro u
    have hsum : keyedSum (·.beneficiaryUserId) (·.reversedQuota) u
          (saveRow (·.id) reversed st.records) +
          (if record.beneficiaryUserId = u then record.reversedQuota else 0) =
        keyedSum (·.beneficiaryUserId) (·.reversedQuota) u st.records +
          (if reversed.beneficiaryUserId = u then reversed.reversedQuota else 0) :=
      keyedSum_saveRow hnodup hmem hid'
    have hafter : reversedOf (st₁.saveRecord reversed) u =
        keyedSum (·.beneficiaryUserId) (·.reversedQuota) u
          (saveRow (·.id) reversed st.records) := by
      simp only [reversedOf, Store.saveRecord, hrecs]
    have haffOf : affQuotaOf (st₁.saveRecord reversed) u =
        affQuotaOf st u - (if record.beneficiaryUserId = u then recovered else 0) := by
      have hget : (st₁.saveRecord reversed).user? u = st₁.user? u := rfl
      simp only [affQuotaOf, hget, husers, hid]
      by_cases hu : record.beneficiaryUserId = u
      · rw [if_pos hu, ← hu, huser]
        simp
      · rw [if_neg hu]
        cases st.user? u <;> simp [Ne.symm hu]
    rw [hafter, haffOf, reversedOf]
    by_cases hu : record.beneficiaryUserId = u
    · rw [if_pos hu]
      omega
    · rw [if_neg hu]
      omega
  · rw [hrec, hsplit]
    refine saveRow_middle hid' ?_
    rw [← hsplit]
    exact hnodup.sublist (filter_sublist.map _)
  · rw [← hrow]
    rfl
  · rw [hrev']
    exact add_nonneg hrev hpos
  · omega
  · omega
  · unfold Settled
    omega

/-- The reversal of the records of a batch, one after the other. Several of
them can have the same beneficiary. -/
theorem reverseRecords_ok {reversed} (h : (reverseRecords records).run st = .ok (reversed, st'))
    (hnodup : (st.records.map (·.id)).Nodup) (hsplit : recordsOf st b = before ++ records)
    (hsnd : ∀ record ∈ records, SoundRecord record) (haff : AffNonneg st) :
    Reversing b st st' ∧ recordsOf st' b = before ++ reversed ∧
      reversed.map creditedForm = records.map creditedForm ∧
      ∀ record ∈ reversed, SoundRecord record ∧ Settled record := by
  induction records generalizing before st reversed with
  | nil =>
    cases h
    exact ⟨.refl b _, hsplit, rfl, fun record hrec => absurd hrec not_mem_nil⟩
  | cons record records ih =>
  simp only [reverseRecords, run_bind_ok] at h
  obtain ⟨first, st₁, hfst, rest, st₂, hrest, h⟩ := h
  cases h
  obtain ⟨hrev, hof, hform, hsound, hset⟩ := reverseRecord_ok hfst hnodup hsplit
    (hsnd record mem_cons_self) haff
  have hsplit₁ : recordsOf st₁ b = (before ++ [first]) ++ records := by
    rw [hof, append_assoc, singleton_append]
  obtain ⟨hrev', hof', hforms, hall⟩ := ih hrest (by rw [hrev.ids]; exact hnodup)
    hsplit₁ (fun r hr => hsnd r (mem_cons_of_mem _ hr)) (hrev.aff haff)
  refine ⟨hrev.trans hrev', ?_, ?_, ?_⟩
  · rw [hof', append_assoc, singleton_append]
  · rw [map_cons, map_cons, hform, hforms]
  intro r hr
  rcases mem_cons.mp hr with rfl | hr
  · exact ⟨hsound, hset⟩
  · exact hall r hr

theorem reverseRecords_settled (h : ∀ record ∈ records, Settled record) (st : Store) :
    (reverseRecords records).run st = .ok (records, st) := by
  induction records with
  | nil => rfl
  | cons record _ ih =>
  have hfst : (reverseRecord record).run st = .ok (record, st) := by
    have hset := h record mem_cons_self
    unfold Settled at hset
    unfold reverseRecord
    rw [if_pos (by omega)]
    rfl
  rw [reverseRecords, run_bind_of_ok hfst,
    run_bind_of_ok (ih fun r hr => h r (mem_cons_of_mem _ hr))]
  rfl

/-- **A reversal settles every record of the batch.** -/
theorem reverseBatch_ok (h : (reverseReferralSettlementBatch b).run st = .ok ((), st'))
    (hnodup : (st.records.map (·.id)).Nodup)
    (hsnd : ∀ record ∈ recordsOf st b, SoundRecord record) (haff : AffNonneg st) :
    ∃ batch st₁, st.batches.get b = some batch ∧ recordsOf st b ≠ [] ∧ Reversing b st st₁ ∧
      (recordsOf st₁ b).map creditedForm = (recordsOf st b).map creditedForm ∧
      (∀ record ∈ recordsOf st₁ b, SoundRecord record ∧ Settled record) ∧
      st' = st₁.saveBatch
        { batch with status := resolveReferralSettlementBatchStatus (recordsOf st₁ b) } := by
  simp only [reverseReferralSettlementBatch, run_lift_bind_ok, require_ok,
    run_select_bind, found_ok] at h
  obtain ⟨-, -, batch, hbat, -, hne, h⟩ := h
  obtain ⟨reversed, st₁, hrecs, h⟩ := run_bind_ok.mp h
  cases h
  have hsplit : recordsOf st b = [] ++ recordsOf st b := rfl
  obtain ⟨hrev, hof, hforms, hall⟩ :=
    reverseRecords_ok hrecs hnodup hsplit hsnd haff
  rw [nil_append] at hof
  rw [← hof] at hforms hall
  exact ⟨batch, st₁, hbat, hne, hrev, hforms, hall, by rw [hof]⟩

/-- **A second reversal changes nothing.** -/
theorem reverseBatch_again (hbat : st.batches.get b = some batch)
    (hne : recordsOf st b ≠ []) (hset : ∀ record ∈ recordsOf st b, Settled record)
    (hstat : batch.status = resolveReferralSettlementBatchStatus (recordsOf st b)) :
    (reverseReferralSettlementBatch b).run st = .ok ((), st) := by
  have hself : st.batches.get batch.id = some batch := by
    rw [st.batches.key_get hbat]
    exact hbat
  have hsame : st.saveBatch
      { batch with status := resolveReferralSettlementBatchStatus (recordsOf st b) } = st := by
    rw [← hstat]
    unfold Store.saveBatch
    rw [st.batches.put_self hself]
  unfold reverseReferralSettlementBatch
  simp only [run_lift_bind_ok, require_ok, run_select_bind, found_ok]
  refine ⟨⟨⟩, (st.batches.inRange hbat).1, batch, hbat, ⟨⟩, hne, ?_⟩
  rw [run_bind_of_ok (reverseRecords_settled hset st), run_update, hsame]

/-! ## What a repair does -/

theorem immediateRecord?_map (hf : ∀ r, (f r).rewardComponent = r.rewardComponent) :
    immediateRecord? batch (records.map f) = (immediateRecord? batch records).map f := by
  simp only [immediateRecord?, filter_map, getLast?_map, Function.comp_def, hf]

theorem inviteeRecord?_map (hf : ∀ r, (f r).rewardComponent = r.rewardComponent)
    (hsrc : ∀ r, (f r).sourceRewardComponent = r.sourceRewardComponent) :
    inviteeRecord? batch (records.map f) = (inviteeRecord? batch records).map f := by
  simp only [inviteeRecord?, filter_map, getLast?_map, Function.comp_def, hf, hsrc]

theorem preview_ok
    (h : previewSubscriptionReferralSettlementBatchRepair batch records money = .ok result) :
    ∃ immediate orderMoney, immediateRecord? batch records = some immediate ∧
      money = some orderMoney ∧ 0 < immediate.appliedRateBps.getD 0 ∧
      ¬ (inviteeRecord? batch records = none ∧
        0 < (repairTargets batch immediate (inviteeRecord? batch records) orderMoney).2) ∧
      result = repairResult batch immediate (inviteeRecord? batch records) orderMoney := by
  simp only [previewSubscriptionReferralSettlementBatchRepair, found_seq_ok,
    require_seq_ok, return_ok] at h
  obtain ⟨immediate, himm, orderMoney, hmoney, hrate, hinvitee, hres⟩ := h
  exact ⟨immediate, orderMoney, himm, hmoney, hrate, hinvitee, hres.symm⟩

theorem preview_of_found {money} (himm : immediateRecord? batch records = some immediate)
    (hrate : 0 < immediate.appliedRateBps.getD 0)
    (hinvitee : ¬ (inviteeRecord? batch records = none ∧
      0 < (repairTargets batch immediate (inviteeRecord? batch records) money).2)) :
    previewSubscriptionReferralSettlementBatchRepair batch records (some money) =
      .ok (repairResult batch immediate (inviteeRecord? batch records) money) := by
  simp only [previewSubscriptionReferralSettlementBatchRepair, found_seq_ok,
    require_seq_ok, return_ok]
  exact ⟨immediate, himm, money, rfl, hrate, hinvitee, rfl⟩

/-- A preview does not look at what was reversed, nor at the status. -/
theorem preview_creditedForm (batch : ReferralSettlementBatch)
    (records : List ReferralSettlementRecord) (money : Option ℚ) (status : ReferralStatus) :
    previewSubscriptionReferralSettlementBatchRepair { batch with status }
        (records.map creditedForm) money =
      previewSubscriptionReferralSettlementBatchRepair batch records money := by
  have himm : immediateRecord? { batch with status } (records.map creditedForm) =
      (immediateRecord? batch records).map creditedForm := immediateRecord?_map fun _ => rfl
  have hinvitee : inviteeRecord? { batch with status } (records.map creditedForm) =
      (inviteeRecord? batch records).map creditedForm :=
    inviteeRecord?_map (fun _ => rfl) fun _ => rfl
  unfold previewSubscriptionReferralSettlementBatchRepair
  rw [himm, hinvitee]
  cases immediateRecord? batch records with
  | none => rfl
  | some =>
    cases inviteeRecord? batch records <;> rfl

theorem preview_reversed
    (h : records'.map creditedForm = records.map creditedForm) (money : Option ℚ)
    (status : ReferralStatus) :
    previewSubscriptionReferralSettlementBatchRepair { batch with status } records'
        money = previewSubscriptionReferralSettlementBatchRepair batch records money := by
  rw [← preview_creditedForm batch records money status, ← h]
  exact (preview_creditedForm { batch with status } records' money status).symm

def repairedRecord (result : RepairResult) (record : ReferralSettlementRecord) :
    ReferralSettlementRecord :=
  let record := setRewardQuota result.immediateRecordID result.immediateNewQuota record
  if 0 < result.inviteeRecordID then
    setRewardQuota result.inviteeRecordID result.inviteeNewQuota record
  else record

theorem repairedRecord_eq (result : RepairResult) (record : ReferralSettlementRecord) :
    repairedRecord result record = { record with
      rewardQuota := (repairedRecord result record).rewardQuota } := by
  simp only [repairedRecord, setRewardQuota]
  split <;> split <;> (try split) <;> rfl

theorem immediateRecord?_some (h : immediateRecord? batch records = some immediate) :
    immediate ∈ records ∧ immediate.rewardComponent = immediateComponent batch.settlementMode := by
  obtain ⟨hmem, hcomp⟩ := mem_filter.mp (mem_of_getLast? h)
  exact ⟨hmem, by simpa using hcomp⟩

theorem inviteeRecord?_some (h : inviteeRecord? batch records = some invitee) :
    invitee ∈ records ∧ invitee.rewardComponent = .inviteeReward := by
  obtain ⟨hmem, hcomp⟩ := mem_filter.mp (mem_of_getLast? h)
  simp only [Bool.and_eq_true, decide_eq_true_eq] at hcomp
  exact ⟨hmem, hcomp.1⟩

/-- **A repair is done once**: afterwards the records are at their targets. -/
theorem preview_repaired {result}
    (h : previewSubscriptionReferralSettlementBatchRepair batch records money = .ok result)
    (hnodup : (records.map (·.id)).Nodup) (hpos : ∀ record ∈ records, 0 < record.id) :
    ∃ result', previewSubscriptionReferralSettlementBatchRepair batch
      (records.map (repairedRecord result)) money = .ok result' ∧ result'.changed = false := by
  obtain ⟨immediate, orderMoney, himm, rfl, hrate, hinvitee, rfl⟩ := preview_ok h
  obtain ⟨hmem, hcomp⟩ := immediateRecord?_some himm
  generalize hres : repairResult batch immediate (inviteeRecord? batch records) orderMoney = result
  have hform := repairedRecord_eq result
  have himm' : immediateRecord? batch (records.map (repairedRecord result)) =
      some (repairedRecord result immediate) := by
    rw [immediateRecord?_map fun r => by rw [hform r], himm, Option.map_some]
  have hinvitee' : inviteeRecord? batch (records.map (repairedRecord result)) =
      (inviteeRecord? batch records).map (repairedRecord result) :=
    inviteeRecord?_map (fun r => by rw [hform r]) fun r => by rw [hform r]
  have hgoal : repairTargets batch (repairedRecord result immediate)
      ((inviteeRecord? batch records).map (repairedRecord result)) orderMoney =
      repairTargets batch immediate (inviteeRecord? batch records) orderMoney := by
    rw [hform immediate]
    cases inviteeRecord? batch records with
    | none => rfl
    | some invitee =>
      rw [Option.map_some, hform invitee]
      rfl
  refine ⟨_, preview_of_found himm' (by rw [hform immediate]; exact hrate) ?_, ?_⟩
  · rw [hinvitee', hgoal]
    simpa using hinvitee
  rw [hinvitee']
  cases hcase : inviteeRecord? batch records with rw [hcase] at hres hgoal
  | none =>
    have hrew : (repairedRecord result immediate).rewardQuota =
        (repairTargets batch immediate none orderMoney).1 := by
      rw [← hres]
      simp [repairedRecord, repairResult, setRewardQuota]
    simp only [Option.map_none] at hgoal ⊢
    simp [repairResult, hgoal, hrew]
  | some invitee =>
    obtain ⟨hmem', hcomp'⟩ := inviteeRecord?_some hcase
    have hne : immediate.id ≠ invitee.id := by
      intro hid
      have heq := eq_of_key hnodup hmem hmem' hid
      rw [← heq, hcomp] at hcomp'
      cases hmode : batch.settlementMode <;> rw [hmode] at hcomp' <;> cases hcomp'
    have hpos' := hpos invitee hmem'
    have hrew : (repairedRecord result immediate).rewardQuota =
        (repairTargets batch immediate (some invitee) orderMoney).1 := by
      rw [← hres]
      simp [repairedRecord, repairResult, setRewardQuota, hpos', hne]
    have hrew' : (repairedRecord result invitee).rewardQuota =
        (repairTargets batch immediate (some invitee) orderMoney).2 := by
      rw [← hres]
      simp [repairedRecord, repairResult, setRewardQuota, hpos', Ne.symm hne]
    simp only [Option.map_some] at hgoal ⊢
    simp [repairResult, hgoal, hrew, hrew']

theorem calculateQuotaWith_nonneg (money : ℚ) (rateBps : Int) (quotaPerUnit : ℚ) :
    0 ≤ calculateSubscriptionReferralQuotaWithQuotaPerUnit money rateBps quotaPerUnit := by
  unfold calculateSubscriptionReferralQuotaWithQuotaPerUnit
  dsimp only
  split
  · exact le_refl 0
  rename_i hpos
  simp only [not_or, not_le] at hpos
  have hrate : (0 : ℚ) ≤ normalizeSubscriptionReferralRateBps rateBps := by
    exact_mod_cast (normalize_isRate rateBps).1
  refine intPart_nonneg ?_
  have := hpos.1
  have := hpos.2.2
  unfold subscriptionReferralMaxRateBps
  positivity

theorem setRewardQuota_nonneg {id quota} (hquo : 0 ≤ quota)
    (hrew : 0 ≤ record.rewardQuota) : 0 ≤ (setRewardQuota id quota record).rewardQuota := by
  unfold setRewardQuota
  split
  · exact hquo
  · exact hrew

theorem preview_nonneg
    (h : previewSubscriptionReferralSettlementBatchRepair batch records money = .ok result) :
    0 ≤ result.immediateNewQuota ∧ 0 ≤ result.inviteeNewQuota := by
  obtain ⟨immediate, orderMoney, -, -, -, -, rfl⟩ := preview_ok h
  cases inviteeRecord? batch records with
  | none => exact ⟨calculateQuotaWith_nonneg .., le_refl 0⟩
  | some => exact ⟨calculateQuotaWith_nonneg .., calculateQuotaWith_nonneg ..⟩

/-- A record that was not reversed stays sound under a repair. -/
theorem SoundRecord.repaired {result}
    (hres : 0 ≤ result.immediateNewQuota ∧ 0 ≤ result.inviteeNewQuota)
    (hsnd : SoundRecord record) (hnone : record.reversedQuota = 0 ∧ record.debtQuota = 0) :
    SoundRecord (repairedRecord result record) := by
  have hle := hsnd.le
  have hrew : 0 ≤ record.rewardQuota := by omega
  have hrep : 0 ≤ (repairedRecord result record).rewardQuota := by
    unfold repairedRecord
    dsimp only
    split
    · exact setRewardQuota_nonneg hres.2 (setRewardQuota_nonneg hres.1 hrew)
    · exact setRewardQuota_nonneg hres.1 hrew
  rw [repairedRecord_eq]
  refine ⟨hsnd.reversed, hsnd.debt, ?_⟩
  simp only [hnone.1, hnone.2]
  omega

theorem repairedRecord_of_ne (himm : record.id ≠ result.immediateRecordID)
    (hinvitee : record.id ≠ result.inviteeRecordID) : repairedRecord result record = record := by
  simp [repairedRecord, setRewardQuota, himm, hinvitee]

theorem preview_ids
    (h : previewSubscriptionReferralSettlementBatchRepair batch records money = .ok result) :
    (∃ record ∈ records, record.id = result.immediateRecordID) ∧
      (result.inviteeRecordID = 0 ∨ ∃ record ∈ records, record.id = result.inviteeRecordID) := by
  obtain ⟨immediate, orderMoney, himm, -, -, -, rfl⟩ := preview_ok h
  have hmem := (immediateRecord?_some himm).1
  cases hinvitee : inviteeRecord? batch records with
  | none => exact ⟨⟨immediate, hmem, rfl⟩, .inl rfl⟩
  | some invitee =>
    exact ⟨⟨immediate, hmem, rfl⟩, .inr ⟨invitee, (inviteeRecord?_some hinvitee).1, rfl⟩⟩

/-- What is credited to a user who has at least as much as is taken. -/
theorem AffNonneg.credit (h : AffNonneg st)
    (hhas : ∀ user, st.user? userID = some user → 0 ≤ user.affQuota + delta) :
    AffNonneg (st.updateUser userID (credit · delta)) := by
  intro id user hget
  rw [Store.user?_updateUser (f := (Referral.credit · delta)) (fun _ => ⟨rfl, rfl⟩)] at hget
  obtain ⟨old, hold, rfl⟩ := Option.map_eq_some_iff.mp hget
  split
  · rename_i hid
    rw [hid] at hold
    exact hhas old hold
  · exact h id old hold

theorem adjustRepairQuota_frames {γ : Type} {view : Store → γ}
    (hview : ∀ st id f, view (Store.updateUser st id f) = view st) :
    (adjustReferralRepairUserQuotaTx userID delta).Frames view := by
  refine .ite within_pure (.bind within_select fun row => ?_)
  refine .bind (frames_lift _) fun user => .ite (within_update fun _ => hview ..) ?_
  refine .bind (frames_lift _) fun _ => .bind (frames_lift _) fun _ => ?_
  exact within_update fun _ => hview ..

theorem adjustRepairQuota_nonneg
    (h : (adjustReferralRepairUserQuotaTx userID delta).run st = .ok ((), st'))
    (haff : AffNonneg st) : AffNonneg st' := by
  unfold adjustReferralRepairUserQuotaTx at h
  split at h
  · cases h
    exact haff
  simp only [run_select_bind, run_lift_bind_ok, found_ok] at h
  obtain ⟨user, huser, h⟩ := h
  split at h
  · cases h
    refine haff.credit fun user hget => ?_
    have := haff _ _ hget
    omega
  simp only [run_lift_bind_ok, require_ok] at h
  obtain ⟨-, _, -, -, h⟩ := h
  cases h
  refine haff.credit fun user' hget => ?_
  rw [huser] at hget
  cases hget
  omega

/-- What a repair sees besides the users. -/
def bookTables (st : Store) :=
  (st.records, st.batches, st.orders, st.nextRecordID)

theorem loadRepairable_ok
    (h : (loadRepairableSubscriptionReferralBatchTx b).run st = .ok ((batch, records), st')) :
    st' = st ∧ st.batches.get b = some batch ∧ records = recordsOf st b ∧ records ≠ [] ∧
      ∀ record ∈ records, record.reversedQuota = 0 ∧ record.debtQuota = 0 := by
  simp only [loadRepairableSubscriptionReferralBatchTx, run_lift_bind_ok, require_ok,
    run_select_bind, found_ok] at h
  obtain ⟨row, hrow, -, -, -, -, -, hne, -, hcred, h⟩ := h
  cases h
  have hid : batch.id = b := st.batches.key_get hrow
  rw [hid] at hne hcred ⊢
  exact ⟨rfl, hrow, rfl, hne, fun record hrec => (hcred record hrec).2⟩

theorem repairInviteeTx_frames {γ : Type} {view : Store → γ}
    {repair : SubTx Unit} (h : repair.Frames view) : (repairInviteeTx preview repair).Frames view :=
  .ite h within_pure

/-- **What a repair does**: nothing, when the batch is at its targets, and
otherwise it sets the rewards of the two records. -/
theorem repairBatch_ok {result : RepairResult}
    (h : (repairSubscriptionReferralSettlementBatchByID b).run st = .ok (result, st'))
    (haff : AffNonneg st) :
    ∃ batch, st.batches.get b = some batch ∧ recordsOf st b ≠ [] ∧
      (∀ record ∈ recordsOf st b, record.reversedQuota = 0 ∧ record.debtQuota = 0) ∧
      previewSubscriptionReferralSettlementBatchRepair batch (recordsOf st b)
        ((st.orderByID? batch.sourceId).map (·.money)) = .ok result ∧
      ((result.changed = false ∧ st' = st) ∨
        (result.changed ∧ AffNonneg st' ∧ bookTables st' =
          bookTables { st with records := st.records.map (repairedRecord result) })) := by
  simp only [repairSubscriptionReferralSettlementBatchByID, run_lift_bind_ok, require_ok] at h
  obtain ⟨-, -, h⟩ := h
  obtain ⟨⟨batch, records⟩, st₀, hload, h⟩ := run_bind_ok.mp h
  obtain ⟨rfl, hbat, rfl, hne, hcred⟩ := loadRepairable_ok hload
  simp only [run_select_bind, run_lift_bind_ok] at h
  obtain ⟨preview, hprev, h⟩ := h
  refine ⟨batch, hbat, hne, hcred, ?_⟩
  cases hcharge : preview.changed with
  | false =>
    rw [hcharge] at h
    cases h
    exact ⟨hprev, .inl ⟨hcharge, rfl⟩⟩
  | true =>
  rw [hcharge, if_neg (by simp)] at h
  obtain ⟨⟨⟩, st₁, himm, h⟩ := run_bind_ok.mp h
  obtain ⟨⟨⟩, st₂, hinvitee, h⟩ := run_bind_ok.mp h
  have hview : ∀ (st : Store) id f, bookTables (st.updateUser id f) = bookTables st :=
    fun _ _ _ => rfl
  have htabs₁ := (adjustRepairQuota_frames hview).run himm
  have htabs₂ := (repairInviteeTx_frames (adjustRepairQuota_frames hview)).run hinvitee
  have haff₂ : AffNonneg st₂ := by
    have haff₁ := adjustRepairQuota_nonneg himm haff
    unfold repairInviteeTx at hinvitee
    split at hinvitee
    · exact adjustRepairQuota_nonneg hinvitee haff₁
    · cases hinvitee
      exact haff₁
  have htabs : bookTables st₂ = bookTables st₀ := htabs₂.trans htabs₁
  simp only [bookTables, Prod.mk.injEq] at htabs
  obtain ⟨hrecs, hbats, hords, hnext⟩ := htabs
  have hrun : (do updateRewardQuotaTx preview.immediateRecordID preview.immediateNewQuota
                  repairInviteeTx preview
                    (updateRewardQuotaTx preview.inviteeRecordID preview.inviteeNewQuota)
                  return preview : SubTx RepairResult).run st₂ =
      .ok (preview, { st₂ with records := st₂.records.map (repairedRecord preview) }) := by
    unfold repairInviteeTx repairedRecord
    by_cases hid : 0 < preview.inviteeRecordID
    · simp only [if_pos hid, updateRewardQuotaTx, run_update_bind, run_pure, map_map]
      rfl
    · simp only [if_neg hid, updateRewardQuotaTx, run_update_bind]
      rfl
  rw [hrun] at h
  cases h
  refine ⟨hprev, .inr ⟨hcharge, haff₂, ?_⟩⟩
  simp only [bookTables, hrecs, hbats, hords, hnext]

end HermesToken.Referral
