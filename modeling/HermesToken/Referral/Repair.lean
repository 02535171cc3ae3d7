import HermesToken.Referral.Ledger

/-!
# A repair after a settlement

The engine gives the inviter the difference of two truncated quotas, and a
repair the truncated quota of the difference of the rates. A reward that is not
positive gets no record, which the repair of the inviter's reward needs. Where
the two agree and there is a record, a repair of a new batch changes nothing.
-/

namespace HermesToken.Referral

open Lib Subscription Tx List

variable {cfg : Settings} {context : ReferralSettlementContext} {order : SubscriptionOrder}
  {st st' : Store}

/-- The rates of the inviter's and the payer's reward. -/
def directConfig (st : Store) (context : ReferralSettlementContext) : SubscriptionReferralConfig :=
  resolveSubscriptionReferralConfig (directRateBps context) (inviteeShareBps st context)

def engineQuota (cfg : Settings) (st : Store) (context : ReferralSettlementContext)
    (order : SubscriptionOrder) : Int :=
  calculateSubscriptionReferralQuota cfg order.money (directConfig st context).totalRateBps -
    calculateSubscriptionReferralQuota cfg order.money (directConfig st context).inviteeRateBps

theorem directConfig_isRate (st : Store) (context : ReferralSettlementContext) :
    IsRate (directConfig st context).totalRateBps ∧
      IsRate (directConfig st context).inviteeRateBps ∧
      (directConfig st context).inviteeRateBps ≤ (directConfig st context).totalRateBps :=
  resolveConfig_isRate ..

theorem directConfig_idem (st : Store) (context : ReferralSettlementContext) :
    resolveSubscriptionReferralConfig (directConfig st context).totalRateBps
      (directConfig st context).inviteeRateBps = directConfig st context := by
  obtain ⟨htot, hinvitee, hle⟩ := directConfig_isRate st context
  rw [resolveSubscriptionReferralConfig, normalize_of_isRate htot, normalize_of_isRate hinvitee,
    if_neg (not_lt.mpr hle)]
  rfl

theorem directConfig_pos (h : 0 < engineQuota cfg st context order) :
    0 < (directConfig st context).totalRateBps := by
  obtain ⟨htot, hinvitee, -⟩ := directConfig_isRate st context
  by_contra hle
  have hquo : calculateSubscriptionReferralQuota cfg order.money 0 = 0 := if_pos (.inr (.inl rfl))
  have hnn := calculateQuota_nonneg cfg order.money hinvitee
  rw [engineQuota, le_antisymm (not_lt.mp hle) htot.1] at h
  omega

theorem settlementRecords_eq (cfg : Settings) (st : Store) (context : ReferralSettlementContext)
    (order : SubscriptionOrder) : ∃ levelType team,
    settlementRecords cfg context order (inviteeShareBps st context) = directRewardRecords cfg
        context order (immediateComponent context.mode) levelType
          (directConfig st context) ++ team ∧
      ∀ record ∈ team, record.rewardComponent = .teamReward := by
  unfold settlementRecords directConfig directRateBps
  cases context.mode with
  | teamDirect => exact ⟨.team, [], (append_nil _).symm, fun _ h => absurd h not_mem_nil⟩
  | directWithTeamChain => exact ⟨.direct, _, rfl, rewardComponent_team _⟩

theorem component_ne (mode : ReferralSettlementMode) : .inviteeReward ≠ immediateComponent mode ∧
    .teamReward ≠ immediateComponent mode := by
  cases mode <;> simp [immediateComponent]

/-- The inviter's record is stored only with a reward. -/
theorem engineQuota_pos (h : record ∈ rewards cfg st context order)
    (hcomponent : record.rewardComponent = immediateComponent context.mode) :
    0 < engineQuota cfg st context order := by
  obtain ⟨hinvitee, hteam⟩ := component_ne context.mode
  have hpos := rewards_pos h
  obtain ⟨levelType, team, heq, hteams⟩ := settlementRecords_eq cfg st context order
  rw [rewards, heq, mem_filter, mem_append, directRewardRecords, mem_cons] at h
  rcases h.1 with (rfl | hrecord) | hrecord
  · exact hpos
  · rw [buildInviteeRewardRecord] at hrecord
    split at hrecord
    · cases hrecord
    · rw [Option.toList_some, mem_singleton] at hrecord
      rw [hrecord] at hcomponent
      exact absurd hcomponent hinvitee
  · exact absurd ((hteams record hrecord).symm.trans hcomponent) hteam

/-- The records that are stored: the inviter's, the payer's and the team's. -/
theorem rewards_eq (h : 0 < engineQuota cfg st context order) : ∃ levelType team,
    rewards cfg st context order = directRewardRecords cfg context order
        (immediateComponent context.mode) levelType (directConfig st context) ++ team ∧
      ∀ record ∈ team, record.rewardComponent = .teamReward := by
  obtain ⟨levelType, team, heq, hteam⟩ := settlementRecords_eq cfg st context order
  refine ⟨levelType, team.filter fun record => !decide (record.rewardQuota ≤ 0), ?_,
    fun record hrec => hteam record (mem_of_mem_filter hrec)⟩
  rw [rewards, heq, filter_append]
  congr 1
  refine filter_eq_self.mpr fun record hrec => ?_
  simp only [directRewardRecords, buildInviteeRewardRecord] at hrec
  rcases mem_cons.mp hrec with rfl | hrec
  · simpa [buildImmediateRewardRecord, engineQuota] using h
  split at hrec
  · cases hrec
  rename_i hpos
  rw [Option.toList_some, mem_singleton] at hrec
  rw [hrec]
  simpa using hpos

theorem found_of_new (cfg : Settings) (order : SubscriptionOrder) (levelType : ReferralLevelType)
    (config : SubscriptionReferralConfig)
    (hteam : ∀ record ∈ team, record.rewardComponent = .teamReward)
    (hmode : batch.settlementMode = context.mode) (b n : Int) :
    let inviteeQuota := calculateSubscriptionReferralQuota cfg order.money config.inviteeRateBps
    let records := storedRecords b n (directRewardRecords cfg context order
      (immediateComponent context.mode) levelType config ++ team)
    ∃ immediate, immediateRecord? batch records = some immediate ∧
      immediate.inviteeShareBpsSnapshot = some config.inviteeRateBps ∧
      immediate.appliedRateBps = some config.totalRateBps ∧ immediate.rewardQuota =
        calculateSubscriptionReferralQuota cfg order.money config.totalRateBps - inviteeQuota ∧
      (inviteeRecord? batch records = none ∧ inviteeQuota ≤ 0 ∨
        ∃ invitee, inviteeRecord? batch records = some invitee ∧
          invitee.rewardQuota = inviteeQuota) := by
  intro inviteeQuota records
  have hstored : ∀ n, ∀ record ∈ storedRecords b n team, record.rewardComponent = .teamReward := by
    intro n record hrec
    obtain ⟨-, -, old, hold, heq⟩ := mem_storedRecords hrec
    rw [heq]
    exact hteam old hold
  have hcomp := component_ne context.mode
  have hnone : ∀ n, (storedRecords b n team).filter
      (·.rewardComponent = immediateComponent context.mode) = [] := fun n =>
    filter_eq_nil_iff.mpr fun record hrec => by simpa [hstored n record hrec] using hcomp.2
  have hnone' : ∀ n, (storedRecords b n team).filter (fun record =>
      record.rewardComponent = .inviteeReward &&
        record.sourceRewardComponent = some (immediateComponent context.mode)) = [] := fun n =>
    filter_eq_nil_iff.mpr fun record hrec => by simp [hstored n record hrec]
  simp only [immediateRecord?, inviteeRecord?, hmode, records, directRewardRecords,
    buildInviteeRewardRecord]
  split
  · rename_i hle
    refine ⟨_, by simp [storedRecords, buildImmediateRewardRecord, hnone]; rfl, rfl, rfl, rfl,
      .inl ⟨by simp [storedRecords, buildImmediateRewardRecord, hnone', hcomp.1.symm], hle⟩⟩
  · refine ⟨_, by simp [storedRecords, buildImmediateRewardRecord, hnone, hcomp.1]; rfl, rfl,
      rfl, rfl, .inr ⟨_,
        by simp [storedRecords, buildImmediateRewardRecord, hnone', hcomp.1.symm]; rfl,
        rfl⟩⟩

theorem preview_new (hrew : 0 < engineQuota cfg st context order)
    (hmode : batch.settlementMode = context.mode)
    (hunit : batch.quotaPerUnitSnapshot = cfg.quotaPerUnit) (b n : Int) :
    ∃ result, previewSubscriptionReferralSettlementBatchRepair batch
        (storedRecords b n (rewards cfg st context order)) (some order.money) = .ok result ∧
      (result.changed = false ↔ engineQuota cfg st context order =
        calculateSubscriptionReferralQuota cfg order.money
          (directConfig st context).inviterRateBps) := by
  obtain ⟨levelType, team, hrecs, hteam⟩ := rewards_eq hrew
  rw [hrecs]
  obtain ⟨immediate, himm, hshare, hrate, hquo, hinvitee⟩ := found_of_new cfg order levelType
    (directConfig st context) hteam hmode b n
  have hgoal : ∀ invitee, repairTargets batch immediate invitee order.money =
      (calculateSubscriptionReferralQuota cfg order.money (directConfig st context).inviterRateBps,
        calculateSubscriptionReferralQuota cfg order.money
          (directConfig st context).inviteeRateBps) := by
    intro invitee
    simp only [repairTargets, hshare, hrate, Option.getD_some, directConfig_idem, hunit]
    rfl
  have hpos : 0 < immediate.appliedRateBps.getD 0 := by
    rw [hrate]
    exact directConfig_pos hrew
  rcases hinvitee with ⟨hnone, hle⟩ | ⟨invitee, hsome, hquo'⟩
  · refine ⟨_, preview_of_found himm hpos ?_, ?_⟩
    · rw [hgoal]
      exact fun h => absurd h.2 (not_lt.mpr hle)
    · rw [hnone]
      simp [repairResult, hgoal, hquo, engineQuota]
  refine ⟨_, preview_of_found himm hpos ?_, ?_⟩
  · rw [hsome]
    exact fun h => by cases h.1
  · rw [hsome]
    simp [repairResult, hgoal, hquo, hquo', engineQuota]

/-- A repair changes nothing when its preview says so. -/
theorem repair_unchanged {b : Int} (hb : 0 < b)
    (hload : (loadRepairableSubscriptionReferralBatchTx b).run st = .ok ((batch, records), st))
    (result : RepairResult) :
    (repairSubscriptionReferralSettlementBatchByID b).run st = .ok (result, st) ∧
        result.changed = false ↔
      previewSubscriptionReferralSettlementBatchRepair batch records
        (orderMoney? st batch.sourceId) = .ok result ∧ result.changed = false := by
  simp only [repairSubscriptionReferralSettlementBatchByID, run_lift_bind_ok, require_ok, hb,
    true_and, exists_const, run_bind_of_ok hload, run_select_bind]
  constructor
  · rintro ⟨⟨preview, hpreview, h⟩, hsame⟩
    cases hchanged : preview.changed with
    | false =>
      rw [hchanged] at h
      cases h
      exact ⟨hpreview, hsame⟩
    | true =>
      rw [hchanged, if_neg (by simp)] at h
      obtain ⟨_, _, -, h⟩ := run_bind_ok.mp h
      obtain ⟨_, _, -, h⟩ := run_bind_ok.mp h
      obtain ⟨_, _, -, h⟩ := run_bind_ok.mp h
      obtain ⟨_, _, -, h⟩ := run_bind_ok.mp h
      cases h
      exact absurd hsame (by simp [hchanged])
  · rintro ⟨hpreview, hsame⟩
    refine ⟨⟨result, hpreview, ?_⟩, hsame⟩
    rw [hsame]
    rfl

/-- The engine gives what a repair gives exactly when the fraction cut off the
payer's quota is at most that cut off both. -/
theorem engineQuota_agrees : let config := directConfig st context
    let worth (rateBps : Int) : ℚ :=
      order.money * cfg.quotaPerUnit * rateBps / subscriptionReferralMaxRateBps
    0 < engineQuota cfg st context order ∧ engineQuota cfg st context order =
        calculateSubscriptionReferralQuota cfg order.money config.inviterRateBps ↔
      (0 < order.money ∧ 0 < cfg.quotaPerUnit) ∧
        ⌊worth config.inviteeRateBps⌋ < ⌊worth config.totalRateBps⌋ ∧
        Int.fract (worth config.inviteeRateBps) ≤ Int.fract (worth config.totalRateBps) := by
  intro config worth
  obtain ⟨htotal, hinvitee, hle⟩ := directConfig_isRate st context
  by_cases hpos : 0 < order.money ∧ 0 < cfg.quotaPerUnit
  swap
  · simp [hpos, engineQuota, calculateQuota_eq_zero hpos]
  have hquota {rateBps : Int} (h : IsRate rateBps) :
      calculateSubscriptionReferralQuota cfg order.money rateBps = ⌊worth rateBps⌋ := by
    rw [calculateQuota_eq hpos.1 hpos.2 h, intPart_eq_floor (product_nonneg hpos.1 hpos.2 h.1)]
  have hinviter : IsRate config.inviterRateBps := ⟨sub_nonneg.mpr hle,
    (sub_le_self _ hinvitee.1).trans htotal.2⟩
  have hworth : worth config.inviterRateBps =
      worth config.totalRateBps - worth config.inviteeRateBps := by
    rw [show config.inviterRateBps = config.totalRateBps - config.inviteeRateBps from rfl]
    simp only [worth]
    push_cast
    ring
  rw [engineQuota, hquota htotal, hquota hinvitee, hquota hinviter, hworth, sub_pos,
    and_iff_right hpos]
  refine and_congr_right fun _ => ?_
  rw [eq_comm, Int.floor_eq_iff]
  push_cast
  have hx := Int.floor_add_fract (worth config.totalRateBps)
  have hy := Int.floor_add_fract (worth config.inviteeRateBps)
  have hlt := Int.fract_lt_one (worth config.totalRateBps)
  have hnonneg := Int.fract_nonneg (worth config.inviteeRateBps)
  constructor
  · rintro ⟨hle, -⟩
    linarith
  · intro hle
    exact ⟨by linarith, by linarith⟩

/-- **A repair of a new batch changes nothing** exactly when the inviter gets a
reward and the fraction cut off the payer's quota is at most that cut off both. -/
theorem repair_after_settlement {fuel : Nat} {plan : SubscriptionPlan}
    (happly : (applyTemplateSubscriptionReferralOnOrderSuccessTx cfg fuel order plan).run st =
      .ok (true, st'))
    (hcontext : (resolveSubscriptionTemplateSettlementContext cfg fuel referralTypeSubscription
      (trimSpace plan.upgradeGroup) order.userId).run st = .ok (some context, st))
    (horder : orderMoney? st order.id = some order.money)
    (hbelow : ∀ record ∈ st.records, record.batchId < st.batches.nextID) :
    let config := directConfig st context
    let worth (rateBps : Int) : ℚ :=
      order.money * cfg.quotaPerUnit * rateBps / subscriptionReferralMaxRateBps
    (∃ result, (repairSubscriptionReferralSettlementBatchByID st.batches.nextID).run st' =
        .ok (result, st') ∧ result.changed = false) ↔
      (0 < order.money ∧ 0 < cfg.quotaPerUnit) ∧
        ⌊worth config.inviteeRateBps⌋ < ⌊worth config.totalRateBps⌋ ∧
        Int.fract (worth config.inviteeRateBps) ≤ Int.fract (worth config.totalRateBps) := by
  intro config worth
  obtain ⟨context', -, hcontext', hnew⟩ := (applyTemplateReferral_ok happly).resolve_left nofun
  cases hcontext.symm.trans hcontext'
  obtain ⟨hne, -, rfl⟩ := hnew.resolve_left nofun
  have hset := settling_foldl cfg context order st
  generalize (rewards cfg st context order).foldl (recordReward st.batches.nextID) _ = st' at hset ⊢
  have hof := (hset.recordsOf hbelow _).trans (if_pos rfl)
  have hbatch := (hset.batches _).trans (if_pos rfl)
  have hmoney : orderMoney? st' order.id = some order.money := by
    rw [orderMoney?, Store.orderByID?, hset.orders]
    exact horder
  have hsome : storedRecords st.batches.nextID st.nextRecordID (rewards cfg st context order) ≠
      [] := by
    obtain ⟨first, rest, hcons⟩ := exists_cons_of_ne_nil hne
    rw [hcons]
    exact cons_ne_nil _ _
  set batch := { settlementBatch cfg context order with id := st.batches.nextID }
  set records := storedRecords st.batches.nextID st.nextRecordID (rewards cfg st context order)
  have hload : (loadRepairableSubscriptionReferralBatchTx st.batches.nextID).run st' =
      .ok ((batch, records), st') := by
    simp only [loadRepairableSubscriptionReferralBatchTx, run_select_bind, run_lift_bind_ok,
      require_ok, found_ok]
    refine ⟨_, hbatch, (), rfl, (), rfl, (), ?_, (), fun record hrec => ?_, by rw [← hof]; rfl⟩
    · rw [hof]
      exact hsome
    · have hfrs := (hset.rewards record (hof ▸ hrec)).2
      exact ⟨hfrs.2.2, hfrs.1, hfrs.2.1⟩
  have hpreview := hmoney ▸ repair_unchanged (st'.batches.inRange hbatch).1 hload
  have hmode : batch.settlementMode = context.mode := rfl
  have hunit : batch.quotaPerUnitSnapshot = cfg.quotaPerUnit := rfl
  simp only [hpreview]
  refine Iff.trans ?_ engineQuota_agrees
  constructor
  · rintro ⟨result, hok, hsame⟩
    have himmediate : immediateRecord? batch records ≠ none := by
      intro hnone
      simp [previewSubscriptionReferralSettlementBatchRepair, hnone] at hok
    obtain ⟨immediate, himmediate⟩ := Option.ne_none_iff_exists'.mp himmediate
    obtain ⟨hmem, hcomponent⟩ := immediateRecord?_some himmediate
    obtain ⟨-, -, old, hold, heq⟩ := mem_storedRecords hmem
    rw [heq] at hcomponent
    have hpos := engineQuota_pos hold hcomponent
    obtain ⟨result', hok', hagree⟩ := preview_new hpos hmode hunit st.batches.nextID st.nextRecordID
    cases hok.symm.trans hok'
    exact ⟨hpos, hagree.mp hsame⟩
  · rintro ⟨hpos, hagree⟩
    obtain ⟨result, hok, hsame⟩ := preview_new hpos hmode hunit st.batches.nextID st.nextRecordID
    exact ⟨result, hok, hsame.mpr hagree⟩

/-- An order that is stored, and the payer's share. -/
def sampleRepairStore (order : SubscriptionOrder) (shareBps : Int) : Store :=
  { sampleReferrals with orders := [order], templates := [⟨2, .direct, true, 1000, 0, shareBps⟩] }

def sampleSettled (order : SubscriptionOrder) (shareBps : Int) : Except SubError (Bool × Store) :=
  (applyTemplateSubscriptionReferralOnOrderSuccessTx sampleSettings 9 order samplePlan).run
    (sampleRepairStore order shareBps)

theorem repair_after_settlement_sample : ∃ st' result,
    sampleSettled sampleOrder 250 = .ok (true, st') ∧
      (repairSubscriptionReferralSettlementBatchByID 1).run st' = .ok (result, st') ∧
      result.changed = false := by
  have happlied : (sampleSettled sampleOrder 250).toOption.map (·.1) = some true := by
    decide +kernel
  cases hrun : sampleSettled sampleOrder 250 with
  | error =>
    rw [hrun] at happlied
    cases happlied
  | ok r =>
  obtain ⟨applied, st'⟩ := r
  rw [hrun] at happlied
  cases happlied
  obtain ⟨context, -, hcontext, -⟩ := (applyTemplateReferral_ok hrun).resolve_left nofun
  have hrates : (((resolveSubscriptionTemplateSettlementContext sampleSettings 9
      referralTypeSubscription (trimSpace samplePlan.upgradeGroup) sampleOrder.userId).run
        (sampleRepairStore sampleOrder 250)).toOption.bind (·.1)).map (fun context =>
      let config := directConfig (sampleRepairStore sampleOrder 250) context
      (config.totalRateBps, config.inviteeRateBps)) = some (1000, 250) := by decide +kernel
  rw [hcontext] at hrates
  obtain ⟨htotal, hinvitee⟩ := Prod.mk.inj (Option.some.inj hrates)
  obtain ⟨result, hrepair, hsame⟩ := (repair_after_settlement hrun hcontext (by decide +kernel)
    (fun _ h => absurd h not_mem_nil)).mpr (by rw [htotal, hinvitee]; decide +kernel)
  exact ⟨st', result, rfl, hrepair, hsame⟩

/-- Of 50 the engine gives the inviter 5 - 1, and a repair 3. Where the payer
gets it all, there is no record of the inviter and the repair fails. -/
theorem repair_disagrees :
    (sampleSettled { sampleOrder with money := 1 / 2 } 250).toOption.bind (fun r =>
      ((repairSubscriptionReferralSettlementBatchByID 1).run r.2).toOption.map fun repaired =>
        ((r.2.user? 3).map (·.affQuota), repaired.1.changed,
          (repaired.2.user? 3).map (·.affQuota))) = some (some 4, true, some 3) ∧
    (sampleSettled sampleOrder 1000).toOption.map (fun r =>
      match (repairSubscriptionReferralSettlementBatchByID 1).run r.2 with
      | .ok _ => none
      | .error e => some e) =
        some (some (SubError.text "batch 1 missing direct_reward record")) := by
  decide +kernel

end HermesToken.Referral
