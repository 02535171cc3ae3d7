import HermesToken.Subscription.Plan

/-!
# A subscription is given to a user

`CreateUserSubscriptionFromPlanTx` of `model/subscription.go` and what it
calls: the end and the first reset of the subscription, the group of the user
and the tokens that expire before the subscription does. Times are Unix
seconds.
-/

namespace HermesToken.Subscription

open Lib Tx

variable {userID now : Int} {cfg : Settings} {plan : SubscriptionPlan} {source : SubscriptionSource}
  {st st' : Store}

/-! ## Times -/

/-- So many seconds as a `time.Duration`, whose nanoseconds wrap. -/
def durationSeconds (seconds : Int) : Int := wrap64 (seconds * 1000000000) / 1000000000

def calcPlanEndTime (calendar : Calendar) (start : Int) (plan : SubscriptionPlan) :
    Except SubError Int := do
  require (¬ (plan.durationValue ≤ 0 ∧ plan.durationUnit ≠ .custom))
    (SubError.text "duration_value must be > 0")
  match plan.durationUnit with
  | .year => return calendar.addYears start plan.durationValue
  | .month => return calendar.addMonths start plan.durationValue
  | .day => return start + durationSeconds (plan.durationValue * 86400)
  | .hour => return start + durationSeconds (plan.durationValue * 3600)
  | .custom =>
    require (0 < plan.customSeconds) (SubError.text "custom_seconds must be > 0")
    return start + durationSeconds plan.customSeconds
  | .other name => .error (SubError.text ("invalid duration_unit: " ++ name))

/-- The next reset after `base`, which is 0 if there is none before the end. -/
def calcNextResetTime (calendar : Calendar) (base : Int) (plan : SubscriptionPlan)
    (endUnix : Int) : Int :=
  let next? := match plan.quotaResetPeriod with
    | .never => none
    | .daily => some (calendar.nextDay base)
    | .weekly => some (calendar.nextMonday base)
    | .monthly => some (calendar.nextMonth base)
    | .custom =>
      if plan.quotaResetCustomSeconds ≤ 0 then none
      else some (base + durationSeconds plan.quotaResetCustomSeconds)
  match next? with
  | none => 0
  | some next => if 0 < endUnix ∧ endUnix < next then 0 else next

/-! ## Groups -/

/-- The group of a user, which is empty if there is no such user. -/
def getUserGroupByIdTx (userID : Int) : SubTx String := do
  require (0 < userID) (SubError.text "invalid userId")
  Tx.select fun st => ((st.user? userID).map (·.group)).getD ""

def setUserGroup (userID : Int) (group : String) : SubTx Unit :=
  Tx.update (.user userID) fun st => st.updateUser userID fun user => { user with group }

def selectEffectiveSubscriptionUpgradeGroup (cfg : Settings)
    (subscriptionGroup planGroup : String) : String :=
  let subscriptionGroup := trimSpace subscriptionGroup
  let planGroup := trimSpace planGroup
  if subscriptionGroup ≠ "" ∧ cfg.containsGroupRatio subscriptionGroup = true then subscriptionGroup
  else if planGroup ≠ "" ∧ cfg.containsGroupRatio planGroup = true then planGroup
  else if subscriptionGroup ≠ "" then subscriptionGroup
  else planGroup

def getEffectiveSubscriptionUpgradeGroupTx (cfg : Settings) (sub : UserSubscription) :
    SubTx String := do
  if 0 < sub.planId then
    let plan ← Tx.read (.plan sub.planId) fun st => st.plan? sub.planId true
    return selectEffectiveSubscriptionUpgradeGroup cfg sub.upgradeGroup
      ((plan.map (·.upgradeGroup)).getD "")
  else return selectEffectiveSubscriptionUpgradeGroup cfg sub.upgradeGroup ""

/-! ## Tokens -/

/-- The groups of subscriptions, with their ends. -/
def subscriptionGroupsTx (cfg : Settings) : List UserSubscription → SubTx (List (String × Int))
  | [] => return []
  | sub :: subs => do
    let group ← getEffectiveSubscriptionUpgradeGroupTx cfg sub
    let rest ← subscriptionGroupsTx cfg subs
    return (trimSpace group, sub.endTime) :: rest

def latestEnd (ends : List Int) (start : Int) : Int :=
  ends.foldl (fun latest e => if latest < e then e else latest) start

def latestGroupEnd (groups : List (String × Int)) (group : String) : Int :=
  latestEnd ((groups.filter (·.1 = group)).map (·.2)) 0

def tokenTargetEnd (latestAnyEnd : Int) (groups : List (String × Int)) (token : Token) : Int :=
  let tokenGroup := trimSpace token.group
  if tokenGroup = "" ∨ tokenGroup = "auto" then latestAnyEnd else latestGroupEnd groups tokenGroup

/-- A token that expires later, and is enabled again if it had expired. -/
def Token.extended (token : Token) (targetEnd : Int) : Token := { token with
  expiredTime := targetEnd
  status := if token.status = .expired then .enabled else token.status }

def extendTokensTx (latestAnyEnd : Int) (groups : List (String × Int)) : List Token → SubTx Unit
  | [] => return ()
  | token :: tokens => do
    let targetEnd := tokenTargetEnd latestAnyEnd groups token
    if targetEnd ≤ 0 ∨ targetEnd ≤ token.expiredTime then extendTokensTx latestAnyEnd groups tokens
    else
      Tx.update (.token token.id) fun st =>
        { st with tokens := st.tokens.map fun row =>
          if row.id = token.id then row.extended targetEnd else row }
      extendTokensTx latestAnyEnd groups tokens

def extendFiniteUserTokensToSubscriptionEndTx (cfg : Settings) (now userID : Int)
    (subscriptionEnd : Int) : SubTx Unit := do
  require (0 < userID) (SubError.text "invalid user id")
  let subscriptions ← Tx.select fun st => st.subscriptions.filter fun sub =>
    sub.userId = userID && sub.status = .active && decide (now < sub.endTime)
  let groups ← subscriptionGroupsTx cfg subscriptions
  let latestAnyEnd := latestEnd (subscriptions.map (·.endTime)) subscriptionEnd
  if latestAnyEnd ≤ 0 then return ()
  else
    let tokens ← Tx.select fun st => st.tokens.filter fun token =>
      token.userId = userID && decide (token.expiredTime ≠ -1) &&
        decide (token.expiredTime < latestAnyEnd) &&
        (token.status = .enabled || token.status = .expired)
    extendTokensTx latestAnyEnd groups tokens

/-! ## The subscription -/

/-- The user gets the group of the plan; the answer is the group before, if it
was another one. -/
def upgradeUserGroupTx (userID : Int) (upgradeGroup : String) : SubTx String := do
  if upgradeGroup = "" then return ""
  else
    let currentGroup ← getUserGroupByIdTx userID
    if currentGroup = upgradeGroup then return ""
    else
      setUserGroup userID upgradeGroup
      return currentGroup

def newSubscription (calendar : Calendar) (now userID : Int) (plan : SubscriptionPlan)
    (source : SubscriptionSource) (endUnix : Int) (prevGroup : String) : UserSubscription :=
  let nextReset := calcNextResetTime calendar now plan endUnix
  { id := 0
    userId := userID
    planId := plan.id
    amountTotal := plan.totalAmount
    amountUsed := 0
    startTime := now
    endTime := endUnix
    status := .active
    source := source
    lastResetTime := if 0 < nextReset then now else 0
    nextResetTime := nextReset
    upgradeGroup := trimSpace plan.upgradeGroup
    prevUserGroup := prevGroup
    downgradeGroup := trimSpace plan.downgradeGroup
    allowWalletOverflow := plan.allowWalletOverflow.getD true }

def purchaseLimitReached : SubError := .text "已达到该套餐购买上限"

/-- The limit on the subscriptions of a user and a plan. `reached` says which
numbers of them are too many. -/
def checkPurchaseLimitTx (userID : Int) (plan : SubscriptionPlan) (reached : Int → Bool) :
    SubTx Unit :=
  if 0 < plan.maxPurchasePerUser then do
    let count ← Tx.select fun st => st.countSubscriptions userID plan.id
    require (reached count = false) purchaseLimitReached
  else return ()

def createUserSubscriptionFromPlanTx (cfg : Settings) (now userID : Int)
    (plan : SubscriptionPlan) (source : SubscriptionSource) : SubTx Unit := do
  require (plan.id ≠ 0) (SubError.text "invalid plan")
  require (0 < userID) (SubError.text "invalid user id")
  checkPurchaseLimitTx userID plan fun count => decide (plan.maxPurchasePerUser ≤ count)
  let endUnix ← calcPlanEndTime cfg.calendar now plan
  let prevGroup ← upgradeUserGroupTx userID (trimSpace plan.upgradeGroup)
  Tx.insert fun st => st.insertSubscription
    (newSubscription cfg.calendar now userID plan source endUnix prevGroup)
  extendFiniteUserTokensToSubscriptionEndTx cfg now userID endUnix

def createUserSubscriptions (cfg : Settings) (now userID : Int) (plan : SubscriptionPlan)
    (source : SubscriptionSource) : Nat → SubTx Unit
  | 0 => return ()
  | quantity + 1 => do
    createUserSubscriptionFromPlanTx cfg now userID plan source
    createUserSubscriptions cfg now userID plan source quantity

/-! ## What is left alone -/

/-- A view of the tables that shows neither tokens nor top-ups nor settlements,
and of a user no more than the id, the inviter and the deletion. -/
structure Aside {γ : Type*} (view : Store → γ) : Prop where
  users : ∀ st id f, (∀ user : User, (f user).id = user.id ∧
    (f user).inviterId = user.inviterId ∧ (f user).deleted = user.deleted) →
    view (Store.updateUser st id f) = view st
  tokens : ∀ (st : Store) tokens, view { st with tokens } = view st
  topUps : ∀ (st : Store) topUps nextID,
    view { st with topUps, nextTopUpID := nextID } = view st
  batches : ∀ st batch, view (Store.insertBatch st batch) = view st
  records : ∀ st record, view (Store.insertRecord st record) = view st

/-- Every error but that of an inconsistent stock is allowed. -/
def Lenient (allowed : SubError → Prop) : Prop := ∀ e, e ≠ .stockInvariant → allowed e

theorem lenient_true : Lenient fun _ => True := fun _ _ => trivial

section

variable {γ : Type} {view : Store → γ} {allowed : SubError → Prop}

theorem effectiveGroup_within (cfg : Settings) (sub : UserSubscription) :
    (getEffectiveSubscriptionUpgradeGroupTx cfg sub).Within view allowed :=
  .ite (.bind within_read fun _ => within_pure) within_pure

theorem subscriptionGroupsTx_within (cfg : Settings) (subs : List UserSubscription) :
    (subscriptionGroupsTx cfg subs).Within view allowed := by
  induction subs with
  | nil => exact within_pure
  | cons sub _ ih =>
    refine .bind (effectiveGroup_within cfg sub) fun _ => ?_
    exact .bind ih fun _ => within_pure

theorem extendTokensTx_within (h : ∀ (st : Store) tokens, view { st with tokens } = view st) :
    (extendTokensTx latestAnyEnd groups tokens).Within view allowed := by
  induction tokens with
  | nil => exact within_pure
  | cons _ _ ih =>
    rw [extendTokensTx]
    exact .ite ih (.bind (within_update fun st => h st _) fun _ => ih)

variable (ha : Lenient allowed)
include ha

theorem extendTokens_within
    (h : ∀ (st : Store) tokens, view { st with tokens } = view st) (cfg : Settings)
    (now userID subscriptionEnd : Int) :
    (extendFiniteUserTokensToSubscriptionEndTx cfg now userID subscriptionEnd).Within view
      allowed := by
  unfold extendFiniteUserTokensToSubscriptionEndTx
  refine .bind (within_require fun _ => ha _ nofun) fun _ => .bind within_select fun _ => ?_
  refine .bind (subscriptionGroupsTx_within cfg _) fun groups => ?_
  exact .ite within_pure (.bind within_select fun tokens =>
    extendTokensTx_within h)

theorem getUserGroupByIdTx_within (userID : Int) :
    (getUserGroupByIdTx userID).Within view allowed :=
  .bind (within_require fun _ => ha _ nofun) fun _ => within_select

theorem upgradeUserGroupTx_within (h : Aside view) :
    (upgradeUserGroupTx userID upgradeGroup).Within view allowed := by
  unfold upgradeUserGroupTx setUserGroup
  refine .ite within_pure (.bind (getUserGroupByIdTx_within ha userID) fun _ => ?_)
  refine .ite within_pure (.bind (within_update fun st => ?_) fun _ =>
    within_pure)
  exact h.users st _ _ fun _ => ⟨rfl, rfl, rfl⟩

theorem checkPurchaseLimitTx_within :
    (checkPurchaseLimitTx userID plan reached).Within view allowed :=
  .ite (.bind within_select fun _ => within_require fun _ => ha _ nofun) within_pure

theorem calcPlanEndTime_errorsIn : ErrorsIn allowed (calcPlanEndTime calendar start plan) := by
  refine errorsIn_require_seq (fun _ => ha _ nofun) ?_
  cases plan.durationUnit with
  | custom => exact errorsIn_require_seq (fun _ => ha _ nofun) errorsIn_pure
  | other => exact errorsIn_error (ha _ nofun)
  | _ => exact errorsIn_pure

variable (h : Aside view) (hsub : ∀ st sub, view (Store.insertSubscription st sub) = view st)
include h hsub

theorem createFromPlan_within :
    (createUserSubscriptionFromPlanTx cfg now userID plan source).Within view allowed := by
  unfold createUserSubscriptionFromPlanTx
  refine .bind (within_require fun _ => ha _ nofun) fun _ => ?_
  refine .bind (within_require fun _ => ha _ nofun) fun _ => ?_
  refine .bind (checkPurchaseLimitTx_within ha) fun _ => ?_
  refine .bind (within_lift (calcPlanEndTime_errorsIn ha)) fun endUnix => ?_
  refine .bind (upgradeUserGroupTx_within ha h) fun prevGroup => ?_
  exact .bind (within_insert fun st => hsub st _) fun _ =>
    extendTokens_within ha h.tokens ..

theorem createSubscriptions_within :
    (createUserSubscriptions cfg now userID plan source quantity).Within view allowed := by
  induction quantity with
  | zero => exact within_pure
  | succ _ ih =>
    exact .bind (createFromPlan_within ha h hsub) fun _ => ih

end

def subscriptionRows (st : Store) : List UserSubscription × Int :=
  (st.subscriptions, st.nextSubscriptionID)

theorem subscriptionRows_aside : Aside subscriptionRows :=
  ⟨fun _ _ _ _ => rfl, fun _ _ => rfl, fun _ _ _ => rfl, fun _ _ => rfl, fun _ _ => rfl⟩

section

variable (h : (createUserSubscriptionFromPlanTx cfg now userID plan source).run st = .ok ((), st'))
include h

/-! ## What is given -/

/-- **A subscription that was given**: the row it has become. -/
theorem createFromPlan_ok :
    ∃ endUnix prevGroup, calcPlanEndTime cfg.calendar now plan = .ok endUnix ∧
      subscriptionRows st' = subscriptionRows (st.insertSubscription
        (newSubscription cfg.calendar now userID plan source endUnix prevGroup)) := by
  simp only [createUserSubscriptionFromPlanTx, run_lift_bind_ok, require_ok] at h
  obtain ⟨-, -, -, -, h⟩ := h
  obtain ⟨⟨⟩, st₁, hlim, h⟩ := run_bind_ok.mp h
  obtain ⟨endUnix, hend, h⟩ := run_lift_bind_ok.mp h
  obtain ⟨prevGroup, st₂, hgrp, h⟩ := run_bind_ok.mp h
  rw [run_insert_bind] at h
  have hrows₁ : subscriptionRows st₁ = subscriptionRows st :=
    (checkPurchaseLimitTx_within lenient_true).run hlim
  have hrows₂ : subscriptionRows st₂ = subscriptionRows st₁ :=
    (upgradeUserGroupTx_within lenient_true subscriptionRows_aside).run hgrp
  have hrows₃ := (extendTokens_within lenient_true
    subscriptionRows_aside.tokens cfg now userID endUnix).run h
  refine ⟨endUnix, prevGroup, hend, hrows₃.trans ?_⟩
  have hrows := Prod.mk.inj (hrows₂.trans hrows₁)
  simp only [subscriptionRows, Store.insertSubscription, hrows.1, hrows.2]

/-- The user and the plan of every subscription. -/
def subscriptionOwners (st : Store) : List (Int × Int) :=
  st.subscriptions.map fun sub => (sub.userId, sub.planId)

theorem createFromPlan_owners :
    subscriptionOwners st' = subscriptionOwners st ++ [(userID, plan.id)] := by
  obtain ⟨endUnix, prevGroup, -, hrows⟩ := createFromPlan_ok h
  have hsubs : st'.subscriptions = _ := congrArg Prod.fst hrows
  rw [subscriptionOwners, hsubs]
  simp [subscriptionRows, subscriptionOwners, Store.insertSubscription, newSubscription]

end

theorem createSubscriptions_owners
    (h : (createUserSubscriptions cfg now userID plan source quantity).run st = .ok ((), st')) :
    subscriptionOwners st' =
      subscriptionOwners st ++ List.replicate quantity (userID, plan.id) := by
  induction quantity generalizing st with
  | zero =>
    cases h
    simp
  | succ _ ih =>
    obtain ⟨⟨⟩, st₁, hfst, hrest⟩ := run_bind_ok.mp h
    rw [ih hrest, createFromPlan_owners hfst, List.replicate_succ,
      List.append_assoc, List.singleton_append]

end HermesToken.Subscription
