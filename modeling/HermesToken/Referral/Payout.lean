import HermesToken.Lib.Apportion
import HermesToken.Referral.Engine
import Mathlib.Tactic.Positivity

/-!
# The payout of a settlement is bounded

The inviter and the payer share what the direct rate gives, and the ancestors
what the first team rate gives beyond it. All of these are truncated; the
bound is that truncating parts never gives more than truncating the whole.
-/

namespace HermesToken.Referral

open Lib List
open Subscription

variable {records : List ReferralSettlementRecord} {rateBps : Int}

/-- A rate in basis points. -/
def IsRate (rateBps : Int) : Prop := 0 ≤ rateBps ∧ rateBps ≤ subscriptionReferralMaxRateBps

instance (rateBps : Int) : Decidable (IsRate rateBps) := inferInstanceAs (Decidable (_ ∧ _))

theorem normalize_isRate (rateBps : Int) :
    IsRate (normalizeSubscriptionReferralRateBps rateBps) := by
  unfold normalizeSubscriptionReferralRateBps IsRate subscriptionReferralMaxRateBps
  split
  · omega
  · split <;> omega

theorem normalize_of_isRate (h : IsRate rateBps) :
    normalizeSubscriptionReferralRateBps rateBps = rateBps := by
  unfold normalizeSubscriptionReferralRateBps
  rw [if_neg (not_lt.mpr h.1), if_neg (not_lt.mpr h.2)]

/-! ## The quota of a rate -/

section

variable (cfg : Settings) (money : ℚ)

theorem calculateQuota_eq {cfg money} (hmoney : 0 < money)
    (hunit : 0 < cfg.quotaPerUnit) (h : IsRate rateBps) :
    calculateSubscriptionReferralQuota cfg money rateBps =
      intPart (money * cfg.quotaPerUnit * rateBps / subscriptionReferralMaxRateBps) := by
  unfold calculateSubscriptionReferralQuota calculateSubscriptionReferralQuotaWithQuotaPerUnit
  simp only [normalize_of_isRate h, not_le.mpr hmoney, not_le.mpr hunit, false_or, or_false]
  split
  · rename_i hzero
    rw [hzero]
    simp [intPart]
  · rfl

theorem calculateQuota_eq_zero {cfg money} (h : ¬ (0 < money ∧ 0 < cfg.quotaPerUnit)) :
    calculateSubscriptionReferralQuota cfg money rateBps = 0 := by
  refine if_pos ?_
  by_contra hnot
  simp only [not_or, not_le] at hnot
  exact h ⟨hnot.1, hnot.2.2⟩

theorem product_nonneg {cfg : Settings} {money} (hmoney : 0 < money)
    (hunit : 0 < cfg.quotaPerUnit) (h : 0 ≤ rateBps) :
    0 ≤ money * cfg.quotaPerUnit * rateBps / subscriptionReferralMaxRateBps := by
  unfold subscriptionReferralMaxRateBps
  positivity

theorem calculateQuota_nonneg (h : IsRate rateBps) :
    0 ≤ calculateSubscriptionReferralQuota cfg money rateBps := by
  by_cases hpos : 0 < money ∧ 0 < cfg.quotaPerUnit
  · rw [calculateQuota_eq hpos.1 hpos.2 h]
    exact intPart_nonneg (product_nonneg hpos.1 hpos.2 h.1)
  · rw [calculateQuota_eq_zero hpos]

/-- **Truncation is superadditive**: two rates give no more than their sum. -/
theorem calculateQuota_add_le {rateBps' : Int} (h : IsRate rateBps) (h' : IsRate rateBps')
    (hsum : IsRate (rateBps + rateBps')) :
    calculateSubscriptionReferralQuota cfg money rateBps +
        calculateSubscriptionReferralQuota cfg money rateBps' ≤
      calculateSubscriptionReferralQuota cfg money (rateBps + rateBps') := by
  by_cases hpos : 0 < money ∧ 0 < cfg.quotaPerUnit
  · obtain ⟨hmoney, hunit⟩ := hpos
    rw [calculateQuota_eq hmoney hunit h, calculateQuota_eq hmoney hunit h',
      calculateQuota_eq hmoney hunit hsum]
    refine (intPart_add_le (product_nonneg hmoney hunit h.1)
      (product_nonneg hmoney hunit h'.1)).trans (le_of_eq ?_)
    push_cast
    ring_nf
  · simp only [calculateQuota_eq_zero hpos, add_zero, le_refl]

theorem calculateQuota_mono (h : IsRate rateBps) (h' : IsRate rateBps') (hle : rateBps ≤ rateBps') :
    calculateSubscriptionReferralQuota cfg money rateBps ≤
      calculateSubscriptionReferralQuota cfg money rateBps' := by
  have hrest : IsRate (rateBps' - rateBps) := ⟨sub_nonneg.mpr hle, by
    have := h.1
    have := h'.2
    omega⟩
  have hadd := calculateQuota_add_le cfg money h hrest (by rw [add_sub_cancel]; exact h')
  rw [add_sub_cancel] at hadd
  have := calculateQuota_nonneg cfg money hrest
  omega

end

/-! ## The direct reward -/

section

variable {cfg : Settings} {context : ReferralSettlementContext} {order : SubscriptionOrder}

def totalReward (records : List ReferralSettlementRecord) : Int :=
  (records.map (·.rewardQuota)).sum

@[simp] theorem totalReward_append (xs ys : List ReferralSettlementRecord) :
    totalReward (xs ++ ys) = totalReward xs + totalReward ys := by
  simp [totalReward]

theorem resolveConfig_isRate (totalRateBps inviteeRateBps : Int) :
    let config := resolveSubscriptionReferralConfig totalRateBps inviteeRateBps
    IsRate config.totalRateBps ∧ IsRate config.inviteeRateBps ∧
      config.inviteeRateBps ≤ config.totalRateBps := by
  have htot := normalize_isRate totalRateBps
  have hinvitee := normalize_isRate inviteeRateBps
  simp only [resolveSubscriptionReferralConfig]
  split
  · exact ⟨htot, htot, le_refl _⟩
  · exact ⟨htot, hinvitee, by omega⟩

/-- **The inviter and the payer share the gross reward.** -/
theorem totalReward_direct (cfg : Settings) (context : ReferralSettlementContext)
    (order : SubscriptionOrder) (component : RewardComponent) (levelType : ReferralLevelType)
    (totalRateBps shareBps : Int) :
    let config := resolveSubscriptionReferralConfig totalRateBps shareBps
    totalReward (directRewardRecords cfg context order component levelType config) =
        calculateSubscriptionReferralQuota cfg order.money config.totalRateBps ∧
      ∀ record ∈ directRewardRecords cfg context order component levelType config,
        0 ≤ record.rewardQuota := by
  intro config
  obtain ⟨htot, hinvitee, hle⟩ : IsRate config.totalRateBps ∧ IsRate config.inviteeRateBps ∧
      config.inviteeRateBps ≤ config.totalRateBps := resolveConfig_isRate totalRateBps shareBps
  have hpos := calculateQuota_nonneg cfg order.money hinvitee
  have hmono := calculateQuota_mono cfg order.money hinvitee htot hle
  simp only [directRewardRecords, buildInviteeRewardRecord, totalReward]
  split
  · -- the payer gets nothing, and the inviter all of it
    refine ⟨?_, ?_⟩
    · simp only [Option.toList_none, map_cons, map_nil, sum_cons, sum_nil,
        buildImmediateRewardRecord]
      omega
    intro record hrec
    rw [Option.toList_none, mem_singleton] at hrec
    rw [hrec]
    exact sub_nonneg.mpr hmono
  refine ⟨?_, ?_⟩
  · simp only [Option.toList_some, map_cons, map_nil, sum_cons, sum_nil,
      buildImmediateRewardRecord]
    omega
  intro record hrec
  rw [Option.toList_some, mem_cons, mem_singleton] at hrec
  rcases hrec with rfl | rfl
  · exact sub_nonneg.mpr hmono
  · exact hpos

theorem rewardComponent_direct (hcomp : component ≠ .teamReward) :
    ∀ record ∈ directRewardRecords cfg context order component levelType config,
      record.rewardComponent ≠ .teamReward := by
  intro record hrec
  rcases (mem_direct hrec).1 with h | h
  · rw [h]
    exact hcomp
  · simp [h]

/-! ## The team's reward -/

theorem map_rewardQuota_addRemainder (h : 0 ≤ remainder) :
    (addRemainder remainder records).map (·.rewardQuota) =
      addToFirst remainder (records.map (·.rewardQuota)) := by
  cases records with
  | nil => rfl
  | cons =>
    simp only [addRemainder]
    split
    · rfl
    · have hzero : remainder = 0 := by omega
      simp [addToFirst, hzero]

/-- What the loop over the ancestors can append. -/
def NodeInRange (node : ResolvedTeamNode) : Prop :=
  IsRate node.teamRateBps ∧ 0 < node.weightSnapshot

/-- **The team's rewards are its quota**, when there is one. -/
theorem teamRewards (hchain : ∀ node ∈ context.teamChain, NodeInRange node)
    (activation : TeamDifferentialActivation) (hquo : 0 < activation.differentialQuota)
    (hne : context.teamChain ≠ []) :
    totalReward (buildTeamDifferentialRewardRecords context (some activation)) =
        activation.differentialQuota ∧
      ∀ record ∈ buildTeamDifferentialRewardRecords context (some activation),
        0 ≤ record.rewardQuota := by
  have hweigh : ∀ weight ∈ context.teamChain.map (·.weightSnapshot), 0 < weight := by
    intro weight hweight
    obtain ⟨node, hnode, rfl⟩ := mem_map.mp hweight
    exact (hchain node hnode).2
  have hsum : 0 < (context.teamChain.map (·.weightSnapshot)).sum :=
    sum_pos _ hweigh (by simpa using hne)
  have hshare : (context.teamChain.map (teamRewardRecord context activation
      (context.teamChain.map (·.weightSnapshot)).sum)).map (·.rewardQuota) =
      floorShares activation.differentialQuota (context.teamChain.map (·.weightSnapshot)) := by
    simp only [floorShares, map_map]
    rfl
  have hrecs : (buildTeamDifferentialRewardRecords context (some activation)).map
      (·.rewardQuota) =
      apportion activation.differentialQuota (context.teamChain.map (·.weightSnapshot)) := by
    have hle : (floorShares activation.differentialQuota
        (context.teamChain.map (·.weightSnapshot))).sum ≤ activation.differentialQuota :=
      sum_floorShares_le (ne_of_gt hsum)
    simp only [buildTeamDifferentialRewardRecords, not_le.mpr hquo, hne, false_or, if_false,
      not_le.mpr hsum]
    rw [hshare, map_rewardQuota_addRemainder (sub_nonneg.mpr hle), hshare]
    rfl
  refine ⟨?_, ?_⟩
  · rw [totalReward, hrecs, sum_apportion (by simpa using hne)]
  intro record hrec
  refine apportion_nonneg (le_of_lt hquo) (fun weight hweight => le_of_lt
    (hweigh weight hweight)) (ne_of_gt hsum) record.rewardQuota ?_
  rw [← hrecs]
  exact mem_map_of_mem hrec

theorem rewardComponent_team (activation : Option TeamDifferentialActivation) :
    ∀ record ∈ buildTeamDifferentialRewardRecords context activation,
      record.rewardComponent = .teamReward :=
  fun _ h => (mem_team h).1

theorem teamActivation_some
    (h : resolveTeamDifferentialActivation cfg context order = some activation) :
    ∃ first rest, context.teamChain = first :: rest ∧
      0 < normalizeSubscriptionReferralRateBps first.teamRateBps -
        context.activeTemplate.directCapBps ∧
      activation.differentialQuota = calculateSubscriptionReferralQuota cfg order.money
        (normalizeSubscriptionReferralRateBps first.teamRateBps -
          context.activeTemplate.directCapBps) ∧
      0 < activation.differentialQuota := by
  unfold resolveTeamDifferentialActivation at h
  split at h
  · cases h
  cases hchain : context.teamChain with
  | nil =>
    rw [hchain] at h
    cases h
  | cons first rest =>
  rw [hchain] at h
  dsimp only at h
  split at h
  · cases h
  rename_i hrate
  split at h
  · cases h
  rename_i hquo
  cases h
  exact ⟨first, rest, rfl, not_le.mp hrate, rfl, not_le.mp hquo⟩

/-! ## The settlement -/

def directRateBps (context : ReferralSettlementContext) : Int :=
  match context.mode with
  | .teamDirect => context.activeTemplate.teamCapBps
  | .directWithTeamChain => context.activeTemplate.directCapBps

/-- The rate that bounds the payout: the team rate, or the larger one of the
direct rate and the first matched team rate. -/
def payoutRateBps (context : ReferralSettlementContext) : Int :=
  match context.mode with
  | .teamDirect => context.activeTemplate.teamCapBps
  | .directWithTeamChain =>
    max context.activeTemplate.directCapBps
      (match context.teamChain with
        | [] => 0
        | first :: _ => first.teamRateBps)

/-- What a settlement can rely on: the template has rates, and so have the
ancestors. -/
structure ContextInRange (context : ReferralSettlementContext) : Prop where
  direct : IsRate context.activeTemplate.directCapBps
  team : IsRate context.activeTemplate.teamCapBps
  chain : ∀ node ∈ context.teamChain, NodeInRange node

def directPart (records : List ReferralSettlementRecord) : List ReferralSettlementRecord :=
  records.filter fun record => record.rewardComponent ≠ .teamReward

theorem directPart_eq_self (h : ∀ record ∈ records, record.rewardComponent ≠ .teamReward) :
    directPart records = records :=
  filter_eq_self.mpr fun record hrec => by simpa using h record hrec

theorem directPart_append_team (h : ∀ record ∈ records, record.rewardComponent ≠ .teamReward)
    (hteam : ∀ record ∈ team, record.rewardComponent = .teamReward) :
    directPart (records ++ team) = records := by
  have hnone : directPart team = [] :=
    filter_eq_nil_iff.mpr fun record hrec => by simpa using hteam record hrec
  have hsplit : directPart (records ++ team) = directPart records ++ directPart team :=
    filter_append ..
  rw [hsplit, directPart_eq_self h, hnone, append_nil]

/-- The direct reward of a rate, with the split between inviter and payer. -/
theorem totalReward_direct_of_isRate (cfg : Settings) (context : ReferralSettlementContext)
    (order : SubscriptionOrder) (component : RewardComponent) (levelType : ReferralLevelType)
    (hrate : IsRate rateBps) (shareBps : Int) :
    totalReward (directRewardRecords cfg context order component levelType
      (resolveSubscriptionReferralConfig rateBps shareBps)) =
      calculateSubscriptionReferralQuota cfg order.money rateBps := by
  have htot : (resolveSubscriptionReferralConfig rateBps shareBps).totalRateBps = rateBps :=
    normalize_of_isRate hrate
  have h := (totalReward_direct cfg context order component levelType rateBps shareBps).1
  rw [htot] at h
  exact h

section

variable (cfg order) (h : ContextInRange context)
include h

/-- The team gets what its rate gives beyond the direct one. -/
theorem totalReward_team_le (hmode : context.mode = .directWithTeamChain) :
    calculateSubscriptionReferralQuota cfg order.money context.activeTemplate.directCapBps +
        totalReward (buildTeamDifferentialRewardRecords context
          (resolveTeamDifferentialActivation cfg context order)) ≤
      calculateSubscriptionReferralQuota cfg order.money (payoutRateBps context) ∧
    ∀ record ∈ buildTeamDifferentialRewardRecords context
      (resolveTeamDifferentialActivation cfg context order), 0 ≤ record.rewardQuota := by
  have hpay : payoutRateBps context = max context.activeTemplate.directCapBps
      (match context.teamChain with | [] => 0 | first :: _ => first.teamRateBps) := by
    simp only [payoutRateBps, hmode]
  have hfst : IsRate (match context.teamChain with
      | [] => 0
      | first :: _ => first.teamRateBps) := by
    cases hchain : context.teamChain with
    | nil => exact ⟨le_refl 0, by decide⟩
    | cons first => exact (h.chain first (by rw [hchain]; exact mem_cons_self)).1
  have hmax : IsRate (payoutRateBps context) := by
    rw [hpay]
    exact ⟨le_max_of_le_left h.direct.1, max_le h.direct.2 hfst.2⟩
  cases hact : resolveTeamDifferentialActivation cfg context order with
  | none =>
    refine ⟨?_, fun record hrec => absurd hrec not_mem_nil⟩
    refine le_trans (le_of_eq (add_zero _)) (calculateQuota_mono cfg order.money h.direct hmax ?_)
    rw [hpay]
    exact le_max_left ..
  | some activation =>
  obtain ⟨first, rest, hchain, hrate, hquo, hpos⟩ :=
    teamActivation_some hact
  have hhead := (h.chain first (by rw [hchain]; exact mem_cons_self)).1
  rw [normalize_of_isRate hhead] at hrate hquo
  have hne : context.teamChain ≠ [] := by
    rw [hchain]
    simp
  obtain ⟨htot, hnn⟩ := teamRewards h.chain activation hpos hne
  refine ⟨?_, hnn⟩
  have hsum : payoutRateBps context = context.activeTemplate.directCapBps +
      (first.teamRateBps - context.activeTemplate.directCapBps) := by
    rw [hpay, hchain]
    simp only [add_sub_cancel]
    exact max_eq_right (by omega)
  have hdiff : IsRate (first.teamRateBps - context.activeTemplate.directCapBps) :=
    ⟨le_of_lt hrate, by
      have := h.direct.1
      have := hhead.2
      omega⟩
  rw [htot, hquo, hsum]
  exact calculateQuota_add_le cfg order.money h.direct hdiff (hsum ▸ hmax)

/-- **What a settlement rewards**: the direct part is the gross direct reward,
all of it is within the bound, and nothing is negative. -/
theorem settlementRecords_bounded (shareBps : Int) :
    totalReward (directPart (settlementRecords cfg context order shareBps)) =
        calculateSubscriptionReferralQuota cfg order.money (directRateBps context) ∧
      totalReward (settlementRecords cfg context order shareBps) ≤
        calculateSubscriptionReferralQuota cfg order.money (payoutRateBps context) ∧
      ∀ record ∈ settlementRecords cfg context order shareBps, 0 ≤ record.rewardQuota := by
  cases hmode : context.mode with
  | teamDirect =>
    have htot := totalReward_direct_of_isRate cfg context order .teamDirectReward .team h.team
      shareBps
    simp only [settlementRecords, hmode, directRateBps, payoutRateBps]
    rw [directPart_eq_self (rewardComponent_direct (by decide))]
    exact ⟨htot, le_of_eq htot, (totalReward_direct ..).2⟩
  | directWithTeamChain =>
    have htot := totalReward_direct_of_isRate cfg context order .directReward .direct h.direct
      shareBps
    obtain ⟨hteam, hnn⟩ := totalReward_team_le cfg order h hmode
    simp only [settlementRecords, hmode, directRateBps]
    rw [directPart_append_team (rewardComponent_direct (by decide)) (rewardComponent_team _),
      totalReward_append, htot]
    refine ⟨rfl, hteam, fun record hrec => ?_⟩
    rcases mem_append.mp hrec with hdir | hchain
    · exact (totalReward_direct ..).2 record hdir
    · exact hnn record hchain

end

theorem totalReward_filter_pos (h : ∀ record ∈ records, 0 ≤ record.rewardQuota) :
    totalReward (records.filter fun record => !decide (record.rewardQuota ≤ 0)) =
      totalReward records := by
  induction records with
  | nil => rfl
  | cons record _ ih =>
  have hrest := ih fun r hr => h r (mem_cons_of_mem _ hr)
  have hpos := h record mem_cons_self
  simp only [totalReward] at hrest ⊢
  by_cases hzero : record.rewardQuota ≤ 0
  · rw [filter_cons_of_neg (by simpa using hzero), hrest, map_cons, sum_cons]
    omega
  · rw [filter_cons_of_pos (by simpa using hzero), map_cons, sum_cons, hrest, map_cons, sum_cons]

theorem totalReward_directPart :
    totalReward (directPart records) =
      (records.map fun record =>
        if record.rewardComponent ≠ .teamReward then record.rewardQuota else 0).sum := by
  induction records with
  | nil => rfl
  | cons record _ ih =>
  simp only [totalReward, directPart] at ih ⊢
  by_cases hteam : record.rewardComponent = .teamReward
  · rw [filter_cons_of_neg (by simpa using hteam), ih]
    simp [hteam]
  · rw [filter_cons_of_pos (by simpa using hteam), map_cons, sum_cons, ih]
    simp [hteam]

theorem rewards_bounded (cfg : Settings) (st : Store) (order : SubscriptionOrder)
    (h : ContextInRange context) :
    totalReward (directPart (rewards cfg st context order)) =
        calculateSubscriptionReferralQuota cfg order.money (directRateBps context) ∧
      totalReward (rewards cfg st context order) ≤
        calculateSubscriptionReferralQuota cfg order.money (payoutRateBps context) := by
  obtain ⟨hdir, hbound, hnn⟩ :=
    settlementRecords_bounded cfg order h (inviteeShareBps st context)
  have hswap : directPart (rewards cfg st context order) =
      (directPart (settlementRecords cfg context order (inviteeShareBps st context))).filter
        fun record => !decide (record.rewardQuota ≤ 0) := by
    simp only [directPart, rewards, filter_filter]
    exact filter_congr fun record _ => Bool.and_comm ..
  refine ⟨?_, ?_⟩
  · have hpart : ∀ record ∈ directPart (settlementRecords cfg context order
        (inviteeShareBps st context)), 0 ≤ record.rewardQuota :=
      fun record hrec => hnn record (mem_of_mem_filter hrec)
    rw [hswap, totalReward_filter_pos hpart, hdir]
  · rw [rewards, totalReward_filter_pos hnn]
    exact hbound

end

/-! ## Who takes part -/

theorem teamNodes_inRange (hdecay : 0 < cfg.teamDecayRatio) (ids : List Int)
    (pathDistance matchedTeamIndex : Int) :
    ∀ node ∈ teamNodes cfg referralType group st ids pathDistance matchedTeamIndex,
      NodeInRange node := by
  induction ids generalizing pathDistance matchedTeamIndex with
  | nil =>
    intro node hnode
    cases hnode
  | cons id ids ih =>
  intro node hnode
  simp only [teamNodes] at hnode
  cases huser : st.user? id with
  | none =>
    rw [huser] at hnode
    cases hnode
  | some user =>
  rw [huser] at hnode
  rcases mem_append.mp hnode with hhead | htail
  · rw [Option.mem_toList] at hhead
    unfold teamNode? at hhead
    split at hhead
    · cases hhead
    dsimp only at hhead
    split at hhead
    · cases hhead
      exact ⟨normalize_isRate _, pow_pos hdecay _⟩
    · cases hhead
  · exact ih _ _ node htail

theorem resolveContext_inRange (hdecay : 0 < cfg.teamDecayRatio)
    (hrates : ∀ template ∈ st.templates, IsRate template.directCapBps ∧ IsRate template.teamCapBps)
    (h : (resolveSubscriptionTemplateSettlementContext cfg fuel referralType group
      payerUserID).run st = .ok (some context, st)) : ContextInRange context := by
  obtain ⟨-, -, hact, hchain⟩ := resolveContext_some h
  obtain ⟨hdir, hteam⟩ := hrates _ (activeTemplate_mem hact)
  refine ⟨hdir, hteam, ?_⟩
  rcases hchain with ⟨-, -, hnil⟩ | ⟨-, -, hloop⟩
  · rw [hnil]
    intro node hnode
    cases hnode
  intro node hnode
  unfold resolveSubscriptionTeamChain at hloop
  by_cases hid : 0 < context.immediateInviter.inviterId
  · rw [teamChainLoop_run _ _ _ _ hid] at hloop
    split at hloop
    · cases hloop
    · rw [← (Prod.mk.inj (Except.ok.inj hloop)).1] at hnode
      exact teamNodes_inRange hdecay _ _ _ node hnode
  · rw [teamChainLoop_run_nonpos _ _ _ _ (not_lt.mp hid)] at hloop
    rw [← (Prod.mk.inj (Except.ok.inj hloop)).1] at hnode
    cases hnode

/-- **The payout bound.** Whatever the users, bindings and overrides are, a
settlement stores positive rewards only, the inviter and the payer get the
gross direct reward between them, and all rewards of the order together are at
most what the bounding rate gives. Every beneficiary is credited with the
stored rewards. -/
theorem referral_payout_bounded (cfg : Settings)
    (hdecay : 0 < cfg.teamDecayRatio ∧ cfg.teamDecayRatio ≤ 1) (st : Store)
    (hrates : ∀ template ∈ st.templates, IsRate template.directCapBps ∧ IsRate template.teamCapBps)
    (fuel : Nat) (order : SubscriptionOrder) (plan : SubscriptionPlan) (applied : Bool)
    (st' : Store)
    (hrun : (applyTemplateSubscriptionReferralOnOrderSuccessTx cfg fuel order plan).run st =
      .ok (applied, st')) :
    (st' = st ∧ (order.money ≤ 0 ∨
      (resolveSubscriptionTemplateSettlementContext cfg fuel referralTypeSubscription
        (trimSpace plan.upgradeGroup) order.userId).run st = .ok (none, st))) ∨
    ∃ context new,
      (resolveSubscriptionTemplateSettlementContext cfg fuel referralTypeSubscription
        (trimSpace plan.upgradeGroup) order.userId).run st = .ok (some context, st) ∧
      st'.records = st.records ++ new ∧
      (∀ record ∈ new, 0 < record.rewardQuota) ∧
      totalReward (directPart new) =
        calculateSubscriptionReferralQuota cfg order.money (directRateBps context) ∧
      totalReward new ≤ calculateSubscriptionReferralQuota cfg order.money (payoutRateBps context) ∧
      ∀ id user, st.user? id = some user →
        st'.user? id = some (credit user (keyedSum (·.beneficiaryUserId) (·.rewardQuota) id new))
    := by
  rcases applyTemplateReferral_ok hrun with
    ⟨-, hsame, hnone⟩ | ⟨context, -, hcontext, hresult⟩
  · exact .inl ⟨hsame, hnone⟩
  refine .inr ⟨context, ?_⟩
  have hrange := resolveContext_inRange hdecay.1 hrates hcontext
  obtain ⟨hdirect, hbound⟩ := rewards_bounded cfg st order hrange
  rcases hresult with ⟨hempty, -, rfl⟩ | ⟨-, -, rfl⟩
  · rw [hempty] at hdirect hbound
    refine ⟨[], hcontext, (append_nil _).symm, fun record h => absurd h not_mem_nil,
      hdirect, hbound, fun id user huser => ?_⟩
    simpa [credit] using huser
  have hcolumn {C : Type} (column : ReferralSettlementRecord → C)
      (h : ∀ r id batchID, column { r with id, batchId := batchID } = column r) :=
    map_storedRecords column h st.batches.nextID st.nextRecordID (rewards cfg st context order)
  refine ⟨storedRecords st.batches.nextID st.nextRecordID (rewards cfg st context order),
    hcontext, records_foldl_recordReward .., ?_, ?_, ?_, ?_⟩
  · intro record hrecord
    have hmem := mem_map_of_mem (f := (·.rewardQuota)) hrecord
    rw [hcolumn (·.rewardQuota) fun _ _ _ => rfl] at hmem
    obtain ⟨component, hcomponent, hquota⟩ := mem_map.mp hmem
    rw [← hquota]
    exact rewards_pos hcomponent
  · rw [totalReward_directPart, hcolumn _ fun _ _ _ => rfl, ← totalReward_directPart]
    exact hdirect
  · rw [totalReward, hcolumn _ fun _ _ _ => rfl]
    exact hbound
  intro id user huser
  have hinserted : (st.insertBatch (settlementBatch cfg context order)).user? id =
      some user := huser
  rw [user?_foldl_recordReward, hinserted, Option.map_some]
  rw [keyedSum, keyedSum, hcolumn (fun record =>
    if record.beneficiaryUserId = id then record.rewardQuota else 0) fun _ _ _ => rfl]

/-- Users 1 to 4, each invited by the one before. 1 and 2 are on team
templates, 3 is on a direct one, and 4 gets a quarter of 3's reward. -/
def sampleReferrals : Store where
  users := (((AutoTable.empty (R := User) (·.id)
    |>.insert (fun id => { id }) fun _ => rfl)
    |>.insert (fun id => { id, inviterId := 1 }) fun _ => rfl)
    |>.insert (fun id => { id, inviterId := 2 }) fun _ => rfl)
    |>.insert (fun id => { id, inviterId := 3 }) fun _ => rfl
  templates := [⟨1, .team, true, 0, 3000, 0⟩, ⟨2, .direct, true, 1000, 0, 250⟩]
  bindings := [⟨1, 1, referralTypeSubscription, "vip", 1⟩,
    ⟨2, 2, referralTypeSubscription, "vip", 1⟩, ⟨3, 3, referralTypeSubscription, "vip", 2⟩]

def sampleCalendar : Calendar :=
  ⟨fun t n => t + 31536000 * n, fun t n => t + 2592000 * n, (· + 86400), (· + 604800),
    (· + 2592000)⟩

def sampleSettings : Settings where
  quotaPerUnit := 100
  teamDecayRatio := 1 / 2
  calendar := sampleCalendar

def sampleOrder : SubscriptionOrder :=
  { id := 1, userId := 4, planId := 1, money := 1001 / 100, tradeNo := "t", status := .success,
    paymentMethod := .stripe }

def samplePlan : SubscriptionPlan := { id := 1, upgradeGroup := "vip" }

/-- An order of 10.01 at 100 a unit. The bound is 300: 3 and 4 share 100, and
of the team's 200 the remainder of rounding goes to the nearest. -/
theorem referral_payout_bounded_sample :
    match (applyTemplateSubscriptionReferralOnOrderSuccessTx sampleSettings 9 sampleOrder
      samplePlan).run sampleReferrals with
    | .error _ => False
    | .ok (_, st') =>
      st'.records.map (fun record => (record.beneficiaryUserId, record.rewardQuota)) =
          [(3, 75), (4, 25), (2, 134), (1, 66)] ∧
        ∃ context new, st'.records = sampleReferrals.records ++ new ∧
          totalReward (directPart new) = calculateSubscriptionReferralQuota sampleSettings
            sampleOrder.money (directRateBps context) ∧
          totalReward new ≤ calculateSubscriptionReferralQuota sampleSettings
            sampleOrder.money (payoutRateBps context) := by
  have hrecords : ((applyTemplateSubscriptionReferralOnOrderSuccessTx sampleSettings 9
      sampleOrder samplePlan).run sampleReferrals).toOption.map (fun r => r.2.records.map
        fun record => (record.beneficiaryUserId, record.rewardQuota)) =
      some [(3, 75), (4, 25), (2, 134), (1, 66)] := by decide +kernel
  cases hrun : (applyTemplateSubscriptionReferralOnOrderSuccessTx sampleSettings 9 sampleOrder
      samplePlan).run sampleReferrals with
  | error =>
    rw [hrun] at hrecords
    cases hrecords
  | ok result =>
    rw [hrun] at hrecords
    have hbounded := referral_payout_bounded sampleSettings (by decide +kernel) sampleReferrals
      (by decide +kernel) 9 sampleOrder samplePlan result.1 result.2 hrun
    have hlist : result.2.records.map (fun record =>
        (record.beneficiaryUserId, record.rewardQuota)) = [(3, 75), (4, 25), (2, 134), (1, 66)] :=
      Option.some.inj hrecords
    refine ⟨hlist, ?_⟩
    rcases hbounded with ⟨hsame, -⟩ | ⟨context, new, -, hnew, -, hdirect, hbound, -⟩
    · rw [hsame] at hlist
      cases hlist
    · exact ⟨context, new, hnew, hdirect, hbound⟩

end HermesToken.Referral
