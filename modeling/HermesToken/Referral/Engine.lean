import HermesToken.Lib.Ancestry
import HermesToken.Lib.KeyedSum
import HermesToken.Subscription.Store

/-!
# The settlement of a referral

`model/referral_subscription_engine.go` and the rates of
`model/subscription_referral.go`. A paid order is settled with the inviter of
the payer, the payer and the team of the inviter's ancestors: who is rewarded is
read from the users, the template bindings and the overrides; a batch with a
record for every reward is stored, and the rewards are added to the affiliate
quota of the beneficiaries.

Money, weights and shares are rationals.
-/

namespace HermesToken.Referral

open Lib Tx List Option
open Subscription

variable {st : Store} {referralType group : String} {cfg : Settings} {order : SubscriptionOrder}
  {record : ReferralSettlementRecord} {fuel : Nat} {components : List ReferralSettlementRecord}
  {binding : ReferralTemplateBinding} {template : ReferralTemplate} {plan : SubscriptionPlan}
  {payerUserID : Int}

def referralTypeSubscription : String := "subscription_referral"

def subscriptionReferralMaxRateBps : Int := 10000

/-! ## Rates -/

def normalizeSubscriptionReferralRateBps (rateBps : Int) : Int :=
  if rateBps < 0 then 0
  else if rateBps > subscriptionReferralMaxRateBps then subscriptionReferralMaxRateBps
  else rateBps

def calculateSubscriptionReferralQuotaWithQuotaPerUnit (orderMoney : ℚ) (rateBps : Int)
    (quotaPerUnit : ℚ) : Int :=
  let normalizedRateBps := normalizeSubscriptionReferralRateBps rateBps
  if orderMoney ≤ 0 ∨ normalizedRateBps = 0 ∨ quotaPerUnit ≤ 0 then 0
  else intPart (orderMoney * quotaPerUnit * normalizedRateBps / subscriptionReferralMaxRateBps)

def calculateSubscriptionReferralQuota (cfg : Settings) (orderMoney : ℚ) (rateBps : Int) : Int :=
  calculateSubscriptionReferralQuotaWithQuotaPerUnit orderMoney rateBps cfg.quotaPerUnit

structure SubscriptionReferralConfig where
  enabled : Bool
  (totalRateBps inviteeRateBps inviterRateBps : Int)

def resolveSubscriptionReferralConfig (totalRateBps inviteeRateBps : Int) :
    SubscriptionReferralConfig :=
  let total := normalizeSubscriptionReferralRateBps totalRateBps
  let invitee := normalizeSubscriptionReferralRateBps inviteeRateBps
  let invitee := if invitee > total then total else invitee
  { enabled := decide (0 < total)
    totalRateBps := total
    inviteeRateBps := invitee
    inviterRateBps := total - invitee }

/-! ## Who takes part -/

structure ResolvedTeamNode where
  (userId bindingId templateId teamRateBps pathDistance matchedTeamIndex : Int)
  weightSnapshot : ℚ

structure ReferralSettlementContext where
  (referralType group : String)
  (payerUser immediateInviter : User)
  activeBinding : ReferralTemplateBinding
  activeTemplate : ReferralTemplate
  mode : ReferralSettlementMode
  teamChain : List ResolvedTeamNode

/-- The binding of a user with its template, if the template is enabled. -/
def resolveActiveReferralTemplateBindingTx (userID : Int) (referralType group : String) :
    SubTx (Option (ReferralTemplateBinding × ReferralTemplate)) := do
  if userID ≤ 0 then return none
  else
    let binding ← Tx.select fun st => st.bindings.find? fun binding =>
      binding.userId = userID && binding.referralType = trimSpace referralType &&
        binding.group = trimSpace group
    match binding with
    | none => return none
    | some binding =>
      let template ← Tx.select fun st => st.templates.find? (·.id = binding.templateId)
      match template with
      | none => return none
      | some template =>
        if !template.enabled then return none
        else return some (binding, template)

/-- What the loop over the ancestors appends for one of them. -/
def teamNode? (cfg : Settings) (user : User) (pathDistance matchedTeamIndex : Int) :
    Option (ReferralTemplateBinding × ReferralTemplate) → Option ResolvedTeamNode
  | none => none
  | some (binding, template) =>
    let withinMaxDepth := decide (cfg.teamMaxDepth ≤ 0 ∨ pathDistance ≤ cfg.teamMaxDepth)
    if template.levelType = .team && withinMaxDepth then
      some
        { userId := user.id
          bindingId := binding.id
          templateId := template.id
          teamRateBps := normalizeSubscriptionReferralRateBps template.teamCapBps
          pathDistance := pathDistance
          matchedTeamIndex := matchedTeamIndex + 1
          weightSnapshot := cfg.teamDecayRatio ^ (pathDistance - 1).toNat }
    else none

/-- The loop over the ancestors. The source does not bound it: when the fuel is
used up it has not come back. -/
def teamChainLoop (cfg : Settings) (referralType group : String) :
    Nat → Int → Int → Int → SubTx (List ResolvedTeamNode)
  | 0, currentUserID, _, _ => if currentUserID ≤ 0 then return [] else .fail .unfinished
  | fuel + 1, currentUserID, pathDistance, matchedTeamIndex => do
    if currentUserID ≤ 0 then return []
    else
      let user ← Tx.select fun st => st.user? currentUserID
      match user with
      | none => return []
      | some user =>
        let active ← resolveActiveReferralTemplateBindingTx user.id referralType group
        let node := teamNode? cfg user pathDistance matchedTeamIndex active
        let rest ← teamChainLoop cfg referralType group fuel user.inviterId (pathDistance + 1)
          (if node.isSome then matchedTeamIndex + 1 else matchedTeamIndex)
        return node.toList ++ rest

def resolveSubscriptionTeamChain (cfg : Settings) (fuel : Nat) (ancestorUserID : Int)
    (referralType group : String) : SubTx (List ResolvedTeamNode) :=
  teamChainLoop cfg referralType group fuel ancestorUserID 1 0

/-- The payer, the inviter and the inviter's active template, if there are
all. -/
def loadImmediateInviterTemplateScope (referralType group : String) (payerUserID : Int) :
    SubTx (Option (User × User × ReferralTemplateBinding × ReferralTemplate)) := do
  let payer ← Tx.select fun st => st.user? payerUserID
  match payer with
  | none => return none
  | some payer =>
    if payer.inviterId ≤ 0 ∨ payer.inviterId = payer.id then return none
    else
      let inviter ← Tx.select fun st => st.user? payer.inviterId
      match inviter with
      | none => return none
      | some inviter =>
        let active ← resolveActiveReferralTemplateBindingTx inviter.id referralType group
        return active.map fun (binding, template) => (payer, inviter, binding, template)

def resolveSubscriptionTemplateSettlementContext (cfg : Settings) (fuel : Nat)
    (referralType group : String) (payerUserID : Int) :
    SubTx (Option ReferralSettlementContext) := do
  let trimmedReferralType := trimSpace referralType
  let trimmedGroup := trimSpace group
  if trimmedReferralType = "" ∨ trimmedGroup = "" ∨ payerUserID ≤ 0 then return none
  else
    let scope ← loadImmediateInviterTemplateScope trimmedReferralType trimmedGroup payerUserID
    match scope with
    | none => return none
    | some (payer, inviter, binding, template) =>
      let context (mode : ReferralSettlementMode) (teamChain : List ResolvedTeamNode) :
          ReferralSettlementContext :=
        { referralType := trimmedReferralType
          group := trimmedGroup
          payerUser := payer
          immediateInviter := inviter
          activeBinding := binding
          activeTemplate := template
          mode := mode
          teamChain }
      match template.levelType with
      | .team => return some (context .teamDirect [])
      | .direct =>
        let teamChain ← resolveSubscriptionTeamChain cfg fuel inviter.inviterId
          trimmedReferralType trimmedGroup
        return some (context .directWithTeamChain teamChain)
      | .other _ => return none

/-! ## The rewards -/

structure TeamDifferentialActivation where
  (differentialRateBps differentialQuota : Int)

def buildImmediateRewardRecord (context : ReferralSettlementContext)
    (component : RewardComponent) (levelType : ReferralLevelType)
    (grossQuota inviteeRewardQuota appliedRateBps inviteeShareBps : Int) :
    ReferralSettlementRecord where
  referralType := context.referralType
  group := context.group
  beneficiaryUserId := context.immediateInviter.id
  beneficiaryLevelType := some levelType
  rewardComponent := component
  grossRewardQuotaSnapshot := some grossQuota
  inviteeShareBpsSnapshot := some inviteeShareBps
  appliedRateBps := some appliedRateBps
  rewardQuota := grossQuota - inviteeRewardQuota
  status := .credited

def buildInviteeRewardRecord (context : ReferralSettlementContext)
    (sourceComponent : RewardComponent) (grossQuota inviteeRewardQuota inviteeShareBps : Int) :
    Option ReferralSettlementRecord :=
  if inviteeRewardQuota ≤ 0 then none
  else some
    { referralType := context.referralType
      group := context.group
      beneficiaryUserId := context.payerUser.id
      rewardComponent := .inviteeReward
      sourceRewardComponent := some sourceComponent
      grossRewardQuotaSnapshot := some grossQuota
      inviteeShareBpsSnapshot := some inviteeShareBps
      rewardQuota := inviteeRewardQuota
      status := .credited }

/-- The records of the inviter and of the payer, who share the reward of
`totalRateBps`. -/
def directRewardRecords (cfg : Settings) (context : ReferralSettlementContext)
    (order : SubscriptionOrder) (component : RewardComponent) (levelType : ReferralLevelType)
    (config : SubscriptionReferralConfig) : List ReferralSettlementRecord :=
  let gross := calculateSubscriptionReferralQuota cfg order.money config.totalRateBps
  let inviteeQuota := calculateSubscriptionReferralQuota cfg order.money config.inviteeRateBps
  buildImmediateRewardRecord context component levelType gross inviteeQuota config.totalRateBps
      config.inviteeRateBps ::
    (buildInviteeRewardRecord context component gross inviteeQuota config.inviteeRateBps).toList

def resolveTeamDifferentialActivation (cfg : Settings) (context : ReferralSettlementContext)
    (order : SubscriptionOrder) : Option TeamDifferentialActivation :=
  if context.mode ≠ .directWithTeamChain then none
  else match context.teamChain with
    | [] => none
    | first :: _ =>
      let firstMatchedTeamRateBps := normalizeSubscriptionReferralRateBps first.teamRateBps
      let differentialRateBps := firstMatchedTeamRateBps - context.activeTemplate.directCapBps
      if differentialRateBps ≤ 0 then none
      else
        let differentialQuota :=
          calculateSubscriptionReferralQuota cfg order.money differentialRateBps
        if differentialQuota ≤ 0 then none
        else some ⟨differentialRateBps, differentialQuota⟩

section

variable (context : ReferralSettlementContext)

/-- The record of one ancestor, with its share rounded down. -/
def teamRewardRecord (activation : TeamDifferentialActivation) (totalWeight : ℚ)
    (node : ResolvedTeamNode) : ReferralSettlementRecord :=
  let share := node.weightSnapshot / totalWeight
  { referralType := context.referralType
    group := context.group
    beneficiaryUserId := node.userId
    beneficiaryLevelType := some .team
    rewardComponent := .teamReward
    pathDistance := some node.pathDistance
    matchedTeamIndex := some node.matchedTeamIndex
    weightSnapshot := some node.weightSnapshot
    shareSnapshot := some share
    poolRateBpsSnapshot := some activation.differentialRateBps
    rewardQuota := ⌊(activation.differentialQuota : ℚ) * share⌋
    status := .credited }

/-- What rounding has left goes to the nearest ancestor. -/
def addRemainder (remainder : Int) :
    List ReferralSettlementRecord → List ReferralSettlementRecord
  | [] => []
  | first :: rest =>
    if 0 < remainder then { first with rewardQuota := first.rewardQuota + remainder } :: rest
    else first :: rest

def buildTeamDifferentialRewardRecords :
    Option TeamDifferentialActivation → List ReferralSettlementRecord
  | none => []
  | some activation =>
    if activation.differentialQuota ≤ 0 ∨ context.teamChain = [] then []
    else
      let totalWeight := (context.teamChain.map (·.weightSnapshot)).sum
      if totalWeight ≤ 0 then []
      else
        let rewards := context.teamChain.map (teamRewardRecord context activation totalWeight)
        let allocated := (rewards.map (·.rewardQuota)).sum
        addRemainder (activation.differentialQuota - allocated) rewards

def resolveTemplateInviteeShareBps : SubTx Int := do
  let override ← Tx.select fun st => st.overrides.find? fun override =>
    override.inviterUserId = context.immediateInviter.id &&
      override.inviteeUserId = context.payerUser.id &&
      override.referralType = context.referralType && override.group = context.group
  match override with
  | some override => return normalizeSubscriptionReferralRateBps override.inviteeShareBps
  | none =>
    return normalizeSubscriptionReferralRateBps context.activeTemplate.inviteeShareDefaultBps

end

section

variable (cfg) (context : ReferralSettlementContext)

/-- The rewards of the order before those that are not positive are dropped. -/
def settlementRecords (order : SubscriptionOrder) (inviteeShareBps : Int) :
    List ReferralSettlementRecord :=
  match context.mode with
  | .teamDirect =>
    directRewardRecords cfg context order .teamDirectReward .team
      (resolveSubscriptionReferralConfig context.activeTemplate.teamCapBps inviteeShareBps)
  | .directWithTeamChain =>
    directRewardRecords cfg context order .directReward .direct
        (resolveSubscriptionReferralConfig context.activeTemplate.directCapBps
          inviteeShareBps) ++
      buildTeamDifferentialRewardRecords context
        (resolveTeamDifferentialActivation cfg context order)

def buildSubscriptionSettlementComponents (order : SubscriptionOrder) :
    SubTx (List ReferralSettlementRecord) := do
  let effectiveInviteeShareBps ← resolveTemplateInviteeShareBps context
  return (settlementRecords cfg context order effectiveInviteeShareBps).filter
    fun record => !decide (record.rewardQuota ≤ 0)

/-! ## Storing them -/

def creditReferralBeneficiary (userID rewardQuota : Int) : SubTx Unit :=
  if userID ≤ 0 ∨ rewardQuota ≤ 0 then return ()
  else Tx.update (.user userID) fun st => st.updateUser userID fun user =>
    { user with
      affQuota := user.affQuota + rewardQuota
      affHistoryQuota := user.affHistoryQuota + rewardQuota }

def createRecords (batchID : Int) : List ReferralSettlementRecord → SubTx Unit
  | [] => return ()
  | component :: components => do
    if component.rewardQuota ≤ 0 then createRecords batchID components
    else
      Tx.insert fun st => st.insertRecord { component with batchId := batchID }
      creditReferralBeneficiary component.beneficiaryUserId component.rewardQuota
      createRecords batchID components

def settlementBatch (order : SubscriptionOrder) : ReferralSettlementBatch where
  id := 0
  referralType := referralTypeSubscription
  group := context.group
  sourceType := "subscription_order"
  sourceId := order.id
  sourceTradeNo := order.tradeNo
  payerUserId := order.userId
  immediateInviterUserId := context.immediateInviter.id
  settlementMode := context.mode
  quotaPerUnitSnapshot := cfg.quotaPerUnit
  status := .credited

end

/-- Settle the referral of a paid order: whether there was something to
settle. -/
def applyTemplateSubscriptionReferralOnOrderSuccessTx (cfg : Settings) (fuel : Nat)
    (order : SubscriptionOrder) (plan : SubscriptionPlan) : SubTx Bool := do
  if order.money ≤ 0 then return false
  else
    let context ← resolveSubscriptionTemplateSettlementContext cfg fuel
      referralTypeSubscription (trimSpace plan.upgradeGroup) order.userId
    match context with
    | none => return false
    | some context =>
      let components ← buildSubscriptionSettlementComponents cfg context order
      if components.isEmpty then return false
      else
        let batchID ← Tx.create (fun st => st.batches.nextID)
          fun st => st.insertBatch (settlementBatch cfg context order)
        createRecords batchID components
        return true

def applySubscriptionReferralOnOrderSuccessTx (cfg : Settings) (fuel : Nat)
    (order : SubscriptionOrder) (plan : SubscriptionPlan) : SubTx Bool :=
  if order.money ≤ 0 then return false
  else applyTemplateSubscriptionReferralOnOrderSuccessTx cfg fuel order plan

/-! ## The programs on their own -/

/-- What `resolveActiveReferralTemplateBindingTx` finds. -/
def activeTemplate (st : Store) (userID : Int) (referralType group : String) :
    Option (ReferralTemplateBinding × ReferralTemplate) :=
  if userID ≤ 0 then none
  else
    (st.bindings.find? fun binding => binding.userId = userID &&
      binding.referralType = trimSpace referralType && binding.group = trimSpace group).bind
      fun binding => (st.templates.find? (·.id = binding.templateId)).bind fun template =>
        if !template.enabled then none else some (binding, template)

@[simp] theorem resolveBinding_run (userID : Int) (referralType group : String) (st : Store) :
    (resolveActiveReferralTemplateBindingTx userID referralType group).run st =
      .ok (activeTemplate st userID referralType group, st) := by
  unfold resolveActiveReferralTemplateBindingTx activeTemplate
  by_cases hid : userID ≤ 0
  · simp only [if_pos hid, run_pure]
  simp only [if_neg hid, run_select_bind]
  cases st.bindings.find? _ with
  | none => rfl
  | some =>
  simp only [run_select_bind, bind_some]
  cases st.templates.find? _ with
  | none => rfl
  | some =>
    simp only [bind_some]
    split <;> rfl

theorem activeTemplate_mem
    (h : activeTemplate st userID referralType group = some (binding, template)) :
    template ∈ st.templates := by
  unfold activeTemplate at h
  split at h
  · cases h
  simp only [bind_eq_some_iff] at h
  obtain ⟨b, -, t, ht, hsome⟩ := h
  split at hsome
  · cases hsome
  · cases hsome
    exact mem_of_find?_eq_some ht

def inviter? (st : Store) (id : Int) : Option Int :=
  (st.user? id).bind fun user => if 0 < user.inviterId then some user.inviterId else none

/-- The nodes that the loop appends for the users it visits. -/
def teamNodes (cfg : Settings) (referralType group : String) (st : Store) :
    List Int → Int → Int → List ResolvedTeamNode
  | [], _, _ => []
  | id :: ids, pathDistance, matchedTeamIndex =>
    match st.user? id with
    | none => []
    | some user =>
      let node := teamNode? cfg user pathDistance matchedTeamIndex
        (activeTemplate st user.id referralType group)
      node.toList ++ teamNodes cfg referralType group st ids (pathDistance + 1)
        (if node.isSome then matchedTeamIndex + 1 else matchedTeamIndex)

section

variable (cfg referralType group fuel)

theorem teamChainLoop_run_nonpos {id} (hid : id ≤ 0) (pathDistance matchedTeamIndex : Int)
    (st : Store) :
    (teamChainLoop cfg referralType group fuel id pathDistance matchedTeamIndex).run st =
      .ok ([], st) := by
  cases fuel <;> simp only [teamChainLoop, if_pos hid, run_pure]

/-- **The loop follows the trail of the inviters**: it comes back when the
trail ends, and has then visited its users and no others. -/
theorem teamChainLoop_run {id} (hid : 0 < id) (pathDistance matchedTeamIndex : Int) (st : Store) :
    (teamChainLoop cfg referralType group fuel id pathDistance matchedTeamIndex).run st =
      match trail (inviter? st) fuel id with
      | none => .error .unfinished
      | some ids =>
        .ok (teamNodes cfg referralType group st ids pathDistance matchedTeamIndex, st) := by
  induction fuel generalizing id pathDistance matchedTeamIndex with
  | zero => simp only [teamChainLoop, if_neg (not_le.mpr hid), run_fail, trail]
  | succ fuel ih =>
  simp only [teamChainLoop, if_neg (not_le.mpr hid), run_select_bind]
  cases huser : st.user? id with
  | none =>
    have hlast : inviter? st id = none := by simp only [inviter?, huser, bind_none]
    simp only [trail_succ_none hlast, teamNodes, huser, run_pure]
  | some user =>
  rw [run_bind_of_ok (resolveBinding_run ..)]
  generalize hnode : teamNode? cfg user pathDistance matchedTeamIndex _ = node
  by_cases hlink : 0 < user.inviterId
  · have hnext : inviter? st id = some user.inviterId := by
      simp only [inviter?, huser, bind_some, if_pos hlink]
    have hrest := ih hlink (pathDistance + 1)
      (if node.isSome then matchedTeamIndex + 1 else matchedTeamIndex)
    rw [trail_succ_some hnext]
    cases htrail : trail (inviter? st) fuel user.inviterId with rw [htrail] at hrest
    | none =>
      exact run_bind_of_error hrest _
    | some ids =>
      rw [run_bind_of_ok hrest]
      simp only [map_some, teamNodes, huser, hnode, run_pure]
  have hlast : inviter? st id = none := by
    simp only [inviter?, huser, bind_some, if_neg hlink]
  rw [trail_succ_none hlast,
    run_bind_of_ok (teamChainLoop_run_nonpos _ _ _ _ (not_lt.mp hlink) _ _ _)]
  simp only [teamNodes, huser, hnode, run_pure]

end

/-- The override of an inviter and a payer, or the default of the template. -/
def inviteeShareBps (st : Store) (context : ReferralSettlementContext) : Int :=
  match st.overrides.find? fun override =>
    override.inviterUserId = context.immediateInviter.id &&
      override.inviteeUserId = context.payerUser.id &&
      override.referralType = context.referralType && override.group = context.group with
  | some override => normalizeSubscriptionReferralRateBps override.inviteeShareBps
  | none => normalizeSubscriptionReferralRateBps context.activeTemplate.inviteeShareDefaultBps

def rewards (cfg : Settings) (st : Store) (context : ReferralSettlementContext)
    (order : SubscriptionOrder) : List ReferralSettlementRecord :=
  (settlementRecords cfg context order (inviteeShareBps st context)).filter
    fun record => !decide (record.rewardQuota ≤ 0)

theorem resolveTemplateInviteeShareBps_run :
    (resolveTemplateInviteeShareBps context).run st = .ok (inviteeShareBps st context, st) := by
  unfold resolveTemplateInviteeShareBps inviteeShareBps
  rw [run_select_bind]
  cases st.overrides.find? _ <;> rfl

theorem buildComponents_run :
    (buildSubscriptionSettlementComponents cfg context order).run st =
      .ok (rewards cfg st context order, st) := by
  unfold buildSubscriptionSettlementComponents rewards
  rw [run_bind_of_ok (resolveTemplateInviteeShareBps_run ..)]
  rfl

theorem rewards_pos (h : record ∈ rewards cfg st context order) : 0 < record.rewardQuota := by
  have hpos := (mem_filter.mp h).2
  simpa using hpos

def Fresh (record : ReferralSettlementRecord) : Prop :=
  record.reversedQuota = 0 ∧ record.debtQuota = 0 ∧ record.status = .credited

theorem mem_addRemainder (h : record ∈ addRemainder remainder records) :
    ∃ old ∈ records, record = { old with rewardQuota := record.rewardQuota } := by
  cases records with
  | nil => cases h
  | cons first =>
  simp only [addRemainder] at h
  split at h <;> rcases mem_cons.mp h with rfl | h
  · exact ⟨first, mem_cons_self, rfl⟩
  · exact ⟨record, mem_cons_of_mem _ h, rfl⟩
  · exact ⟨_, mem_cons_self, rfl⟩
  · exact ⟨record, mem_cons_of_mem _ h, rfl⟩

theorem mem_team (h : record ∈ buildTeamDifferentialRewardRecords context activation) :
    record.rewardComponent = .teamReward ∧ Fresh record := by
  cases activation with
  | none => cases h
  | some =>
  simp only [buildTeamDifferentialRewardRecords] at h
  split at h
  · cases h
  split at h
  · cases h
  obtain ⟨old, hold, heq⟩ := mem_addRemainder h
  obtain ⟨node, -, rfl⟩ := mem_map.mp hold
  rw [heq]
  exact ⟨rfl, rfl, rfl, rfl⟩

theorem mem_direct (h : record ∈ directRewardRecords cfg context order component levelType config) :
    (record.rewardComponent = component ∨ record.rewardComponent = .inviteeReward) ∧
      Fresh record := by
  simp only [directRewardRecords, buildInviteeRewardRecord] at h
  rcases mem_cons.mp h with rfl | h
  · exact ⟨.inl rfl, rfl, rfl, rfl⟩
  split at h
  · cases h
  rw [toList_some, mem_singleton] at h
  rw [h]
  exact ⟨.inr rfl, rfl, rfl, rfl⟩

theorem settlementRecords_fresh
    (h : record ∈ settlementRecords cfg context order shareBps) : Fresh record := by
  unfold settlementRecords at h
  split at h
  · exact (mem_direct h).2
  rcases mem_append.mp h with h | h
  · exact (mem_direct h).2
  · exact (mem_team h).2

def credit (user : User) (quota : Int) : User := { user with
  affQuota := user.affQuota + quota
  affHistoryQuota := user.affHistoryQuota + quota }

def recordReward (batchID : Int) (st : Store) (component : ReferralSettlementRecord) : Store :=
  (st.insertRecord { component with batchId := batchID }).updateUser component.beneficiaryUserId
    (credit · component.rewardQuota)

theorem updateUser_of_nonpos {id} (h : id ≤ 0) : st.updateUser id f = st := by
  have hnone : st.users.get id = none := by
    cases hget : st.users.get id with
    | none => rfl
    | some => exact absurd (st.users.inRange hget).1 (not_lt.mpr h)
  simp only [Store.updateUser, AutoTable.modify, hnone]

theorem createRecords_run (batchID : Int)
    (hpos : ∀ component ∈ components, 0 < component.rewardQuota) (st : Store) :
    (createRecords batchID components).run st =
      .ok ((), components.foldl (recordReward batchID) st) := by
  induction components generalizing st with
  | nil => rfl
  | cons component _ ih =>
  have hrew : ¬ component.rewardQuota ≤ 0 := not_le.mpr (hpos component mem_cons_self)
  have hcred : (creditReferralBeneficiary component.beneficiaryUserId
      component.rewardQuota).run (st.insertRecord { component with batchId := batchID }) =
      .ok ((), recordReward batchID st component) := by
    unfold creditReferralBeneficiary
    by_cases hid : component.beneficiaryUserId ≤ 0
    · rw [if_pos (.inl hid), recordReward, updateUser_of_nonpos hid]
      rfl
    · rw [if_neg (fun h => h.elim hid hrew)]
      rfl
  simp only [createRecords, if_neg hrew, run_insert_bind, foldl_cons]
  rw [run_bind_of_ok hcred]
  exact ih (fun c hc => hpos c (mem_cons_of_mem _ hc)) _

/-- The rows that the rewards become. -/
def storedRecords (batchID : Int) :
    Int → List ReferralSettlementRecord → List ReferralSettlementRecord
  | _, [] => []
  | nextID, component :: components =>
    { component with id := nextID, batchId := batchID } ::
      storedRecords batchID (nextID + 1) components

theorem records_foldl_recordReward :
    (components.foldl (recordReward batchID) st).records =
      st.records ++ storedRecords batchID st.nextRecordID components := by
  induction components generalizing st with
  | nil => exact (append_nil _).symm
  | cons _ _ ih =>
    rw [foldl_cons, ih]
    simp only [recordReward, Store.updateUser, Store.insertRecord, storedRecords,
      append_assoc, singleton_append]

theorem frame_foldl_recordReward {γ : Type} {view : Store → γ}
    (hins : ∀ st record, view (Store.insertRecord st record) = view st)
    (hupd : ∀ st id f, view (Store.updateUser st id f) = view st) (batchID : Int)
    (components : List ReferralSettlementRecord) (st : Store) :
    view (components.foldl (recordReward batchID) st) = view st := by
  induction components generalizing st with
  | nil => rfl
  | cons _ _ ih => rw [foldl_cons, ih, recordReward, hupd, hins]

section

variable (batchID : Int) (components st)

theorem nextRecordID_foldl_recordReward :
    (components.foldl (recordReward batchID) st).nextRecordID =
      st.nextRecordID + components.length := by
  induction components generalizing st with
  | nil => simp
  | cons _ _ ih =>
    rw [foldl_cons, ih]
    simp only [recordReward, Store.updateUser, Store.insertRecord, length_cons]
    omega

theorem user?_foldl_recordReward (id : Int) :
    (components.foldl (recordReward batchID) st).user? id =
      (st.user? id).map fun user =>
        credit user (keyedSum (·.beneficiaryUserId) (·.rewardQuota) id components) := by
  induction components generalizing st with
  | nil => simp [credit]
  | cons component _ ih =>
  have hone : (recordReward batchID st component).user? id = (st.user? id).map fun user =>
      if id = component.beneficiaryUserId then credit user component.rewardQuota else user :=
    Store.user?_updateUser (f := (credit · component.rewardQuota)) (fun _ => ⟨rfl, rfl⟩) _ _
  rw [foldl_cons, ih, hone, Option.map_map]
  congr 1
  funext user
  by_cases hid : id = component.beneficiaryUserId
  · simp [credit, hid, add_assoc]
  · simp [credit, hid, Ne.symm hid]

end

theorem mem_storedRecords (h : record ∈ storedRecords batchID nextID components) :
    nextID ≤ record.id ∧ record.id < nextID + components.length ∧
      ∃ component ∈ components,
        record = { component with id := record.id, batchId := batchID } := by
  induction components generalizing nextID with
  | nil => cases h
  | cons component _ ih =>
  rw [storedRecords, mem_cons] at h
  rw [length_cons]
  rcases h with rfl | h
  · dsimp only
    exact ⟨le_refl _, by omega, component, mem_cons_self, rfl⟩
  · obtain ⟨_, _, component', hmem, hrec⟩ := ih h
    exact ⟨by omega, by omega, component', mem_cons_of_mem _ hmem, hrec⟩

theorem nodup_storedRecords (batchID nextID : Int) (components : List ReferralSettlementRecord) :
    ((storedRecords batchID nextID components).map (·.id)).Nodup := by
  induction components generalizing nextID with
  | nil => exact nodup_nil
  | cons _ _ ih =>
  rw [storedRecords, map_cons, nodup_cons]
  refine ⟨fun hmem => ?_, ih _⟩
  obtain ⟨record, hrec, hid⟩ := mem_map.mp hmem
  have hle := (mem_storedRecords hrec).1
  dsimp only at hid
  omega

/-- The columns of a stored row other than its ids are those of the reward. -/
theorem map_storedRecords {C : Type} (column : ReferralSettlementRecord → C)
    (hcol : ∀ r id batchID, column { r with id, batchId := batchID } = column r)
    (batchID nextID : Int) (components : List ReferralSettlementRecord) :
    (storedRecords batchID nextID components).map column = components.map column := by
  induction components generalizing nextID with
  | nil => rfl
  | cons _ _ ih =>
    rw [storedRecords, map_cons, map_cons, hcol, ih]

section

variable {γ : Type}

theorem resolveBinding_within :
    (resolveActiveReferralTemplateBindingTx userID referralType group).Within view allowed := by
  refine .ite within_pure (.bind within_select fun binding => ?_)
  cases binding with
  | none => exact within_pure
  | some =>
    refine .bind within_select fun template => ?_
    cases template with
    | none => exact within_pure
    | some => exact .ite within_pure within_pure

theorem teamChainLoop_within (h : allowed .unfinished) (cfg : Settings)
    (referralType group : String) (fuel : Nat) (id pathDistance matchedTeamIndex : Int) :
    (teamChainLoop cfg referralType group fuel id pathDistance matchedTeamIndex).Within view
      allowed := by
  induction fuel generalizing id pathDistance matchedTeamIndex with
  | zero => exact .ite within_pure (within_fail h)
  | succ fuel ih =>
  refine .ite within_pure (.bind within_select fun user => ?_)
  cases user with
  | none => exact within_pure
  | some user =>
    refine .bind resolveBinding_within fun active => ?_
    exact .bind (ih ..) fun rest => within_pure

theorem loadInviterScope_within (referralType group : String) (payerUserID : Int) :
    (loadImmediateInviterTemplateScope referralType group payerUserID).Within view allowed := by
  refine .bind within_select fun payer => ?_
  cases payer with
  | none => exact within_pure
  | some =>
    refine .ite within_pure (.bind within_select fun inviter => ?_)
    cases inviter with
    | none => exact within_pure
    | some =>
      exact .bind resolveBinding_within fun _ => within_pure

theorem resolveContext_within (h : allowed .unfinished) (cfg : Settings) (fuel : Nat)
    (referralType group : String) (payerUserID : Int) :
    (resolveSubscriptionTemplateSettlementContext cfg fuel referralType group
      payerUserID).Within view allowed := by
  refine .ite within_pure (.bind (loadInviterScope_within ..) fun scope => ?_)
  rcases scope with _ | ⟨payer, inviter, binding, template⟩
  · exact within_pure
  dsimp only
  cases template.levelType with
  | team => exact within_pure
  | direct => exact .bind (teamChainLoop_within h ..) fun _ => within_pure
  | other => exact within_pure

theorem buildComponents_within :
    (buildSubscriptionSettlementComponents cfg context order).Within view allowed := by
  refine .bind (.bind within_select fun override => ?_) fun _ => within_pure
  cases override <;> exact within_pure

theorem createRecords_within (hrec : ∀ st record, view (Store.insertRecord st record) = view st)
    (huser : ∀ st id quota, view (Store.updateUser st id (credit · quota)) = view st) :
    (createRecords batchID components).Within view allowed := by
  induction components with
  | nil => exact within_pure
  | cons _ _ ih =>
    refine .ite ih (.bind (within_insert fun _ => hrec _ _) fun _ => .bind ?_ fun _ => ih)
    exact .ite within_pure (within_update fun st => huser st _ _)

/-- A settlement writes batches, records and the affiliate quota of users, and fails
only where its loop does not come back. -/
theorem applyReferralTx_within (hbat : ∀ st batch, view (Store.insertBatch st batch) = view st)
    (hrec : ∀ st record, view (Store.insertRecord st record) = view st)
    (huser : ∀ st id quota, view (Store.updateUser st id (credit · quota)) = view st)
    (h : allowed .unfinished) (cfg : Settings) (fuel : Nat) (order : SubscriptionOrder)
    (plan : SubscriptionPlan) :
    (applySubscriptionReferralOnOrderSuccessTx cfg fuel order plan).Within view allowed := by
  refine .ite within_pure (.ite within_pure ?_)
  refine .bind (resolveContext_within h ..) fun context => ?_
  cases context with
  | none => exact within_pure
  | some =>
    refine .bind buildComponents_within fun components => ?_
    refine .ite within_pure (.bind (within_create fun _ => hbat _ _) fun _ => ?_)
    exact .bind (createRecords_within hrec huser) fun _ => within_pure

end

theorem resolveContext_reads :
    (resolveSubscriptionTemplateSettlementContext cfg fuel referralType group
      payerUserID).Frames (id : Store → Store) :=
  resolveContext_within trivial cfg fuel referralType group payerUserID

theorem loadInviterScope_some
    (h : (loadImmediateInviterTemplateScope referralType group payerUserID).run st =
      .ok (some (payer, inviter, binding, template), st')) :
    st.user? payerUserID = some payer ∧ st.user? payer.inviterId = some inviter ∧
      activeTemplate st inviter.id referralType group = some (binding, template) := by
  unfold loadImmediateInviterTemplateScope at h
  rw [run_select_bind] at h
  cases hpayer : st.user? payerUserID with
  | none =>
    rw [hpayer] at h
    cases h
  | some user =>
  rw [hpayer] at h
  dsimp only at h
  split at h
  · cases h
  rw [run_select_bind] at h
  cases hlink : st.user? user.inviterId with
  | none =>
    rw [hlink] at h
    cases h
  | some user' =>
  rw [hlink] at h
  rw [run_bind_of_ok (resolveBinding_run ..)] at h
  cases hact : activeTemplate st user'.id referralType group with rw [hact] at h
  | none =>
    cases h
  | some =>
    cases h
    exact ⟨rfl, hlink, hact⟩

/-- The parties of a settlement: the payer, the inviter with an active
template, and for a direct template the team of the inviter's ancestors. -/
theorem resolveContext_some
    (h : (resolveSubscriptionTemplateSettlementContext cfg fuel referralType group
      payerUserID).run st = .ok (some context, st')) :
    st.user? payerUserID = some context.payerUser ∧
      st.user? context.payerUser.inviterId = some context.immediateInviter ∧
      activeTemplate st context.immediateInviter.id context.referralType context.group =
        some (context.activeBinding, context.activeTemplate) ∧
      ((context.activeTemplate.levelType = .team ∧ context.mode = .teamDirect ∧
          context.teamChain = []) ∨
        (context.activeTemplate.levelType = .direct ∧ context.mode = .directWithTeamChain ∧
          (resolveSubscriptionTeamChain cfg fuel context.immediateInviter.inviterId
            context.referralType context.group).run st = .ok (context.teamChain, st))) := by
  unfold resolveSubscriptionTemplateSettlementContext at h
  dsimp only at h
  split at h
  · cases h
  rw [run_bind_ok] at h
  obtain ⟨scope, st₁, hscope, h⟩ := h
  have hreads : (loadImmediateInviterTemplateScope (trimSpace referralType)
      (trimSpace group) payerUserID).Frames (id : Store → Store) :=
    loadInviterScope_within _ _ _
  have hsame : st₁ = st := hreads.run hscope
  rw [hsame] at hscope h
  rcases scope with _ | ⟨payer, inviter, binding, template⟩
  · cases h
  obtain ⟨hpayer, hlink, hact⟩ := loadInviterScope_some hscope
  dsimp only at h
  cases hlevel : template.levelType with
  | team =>
    rw [hlevel] at h
    cases h
    exact ⟨hpayer, hlink, hact, .inl ⟨hlevel, rfl, rfl⟩⟩
  | direct =>
    rw [hlevel, run_bind_ok] at h
    obtain ⟨chain, st₂, hchain, h⟩ := h
    have hcha : (resolveSubscriptionTeamChain cfg fuel inviter.inviterId
        (trimSpace referralType) (trimSpace group)).Frames (id : Store → Store) :=
      teamChainLoop_within trivial _ _ _ _ _ _ _
    have hsame₂ : st₂ = st := hcha.run hchain
    rw [hsame₂] at hchain
    cases h
    exact ⟨hpayer, hlink, hact, .inr ⟨hlevel, rfl, hchain⟩⟩
  | other =>
    rw [hlevel] at h
    cases h

/-- What a settlement does: nothing, if nobody takes part or there is nothing
to reward, and otherwise a batch with a record for every reward. -/
theorem applyTemplateReferral_ok
    (h : (applyTemplateSubscriptionReferralOnOrderSuccessTx cfg fuel order plan).run st =
      .ok (applied, st')) :
    (applied = false ∧ st' = st ∧ (order.money ≤ 0 ∨
      (resolveSubscriptionTemplateSettlementContext cfg fuel referralTypeSubscription
        (trimSpace plan.upgradeGroup) order.userId).run st = .ok (none, st))) ∨
    ∃ context, 0 < order.money ∧
      (resolveSubscriptionTemplateSettlementContext cfg fuel referralTypeSubscription
        (trimSpace plan.upgradeGroup) order.userId).run st = .ok (some context, st) ∧
      ((rewards cfg st context order = [] ∧ applied = false ∧ st' = st) ∨
        (rewards cfg st context order ≠ [] ∧ applied ∧
          st' = (rewards cfg st context order).foldl (recordReward st.batches.nextID)
            (st.insertBatch (settlementBatch cfg context order)))) := by
  unfold applyTemplateSubscriptionReferralOnOrderSuccessTx at h
  by_cases hmoney : order.money ≤ 0
  · rw [if_pos hmoney] at h
    cases h
    exact .inl ⟨rfl, rfl, .inl hmoney⟩
  rw [if_neg hmoney, run_bind_ok] at h
  obtain ⟨context, st₁, hcont, h⟩ := h
  have hsame : st₁ = st := (resolveContext_reads ..).run hcont
  rw [hsame] at hcont h
  cases context with
  | none =>
    cases h
    exact .inl ⟨rfl, rfl, .inr hcont⟩
  | some context =>
  refine .inr ⟨context, not_le.mp hmoney, hcont, ?_⟩
  rw [run_bind_of_ok (buildComponents_run ..)] at h
  by_cases hemp : rewards cfg st context order = []
  · rw [hemp] at h
    cases h
    exact .inl ⟨hemp, rfl, rfl⟩
  have hnot : ¬ (rewards cfg st context order).isEmpty := by
    simpa using hemp
  rw [if_neg hnot, run_create_bind,
    run_bind_of_ok (createRecords_run _ (fun _ => rewards_pos) _)] at h
  cases h
  exact .inr ⟨hemp, rfl, rfl⟩

theorem applyReferralTx_ok
    (h : (applySubscriptionReferralOnOrderSuccessTx cfg fuel order plan).run st =
      .ok (applied, st')) :
    st' = st ∨ ∃ context, st' = (rewards cfg st context order).foldl
      (recordReward st.batches.nextID) (st.insertBatch (settlementBatch cfg context order)) := by
  unfold applySubscriptionReferralOnOrderSuccessTx at h
  split at h
  · cases h
    exact .inl rfl
  rcases applyTemplateReferral_ok h with
    ⟨-, hsame, -⟩ | ⟨context, -, -, ⟨-, -, hsame⟩ | ⟨-, -, hnew⟩⟩
  · exact .inl hsame
  · exact .inl hsame
  · exact .inr ⟨context, hnew⟩

end HermesToken.Referral
