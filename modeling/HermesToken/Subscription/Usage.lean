import HermesToken.Subscription.Ending
import HermesToken.Subscription.Operations

/-!
# The quota of subscriptions is used

`PreConsumeUserSubscription`, `PostConsumeUserSubscriptionDelta`,
`RefundSubscriptionPreConsume` and the resets of `model/subscription.go`. A
request that is paid by a subscription takes its quota before it is relayed,
under its request id; afterwards the difference is settled, or all of it is
given back. `AmountUsed` is an int64 and wraps.
-/

namespace HermesToken.Subscription

open Lib UserSubscription Tx List

variable {st st' : Store} {sub sub' : UserSubscription} {plan : SubscriptionPlan} {now : Int}
  {fuel : Nat} {cfg : Settings} {subs : List UserSubscription}

/-! ## Lookups -/

def Store.preConsume? (st : Store) (requestID : String) : Option SubscriptionPreConsumeRecord :=
  st.preConsumes.find? (·.requestId = requestID)

def Store.savePreConsume (st : Store) (record : SubscriptionPreConsumeRecord) : Store :=
  { st with preConsumes := saveRow (·.requestId) record st.preConsumes }

section

variable (sub)

def saveSubscriptionTx : SubTx Unit :=
  Tx.update (.subscription sub.id) fun st => st.saveSubscription sub

/-! ## Resets -/

/-- The loop over the resets that are due: the last of them and the one after
it, or nothing if the loop does not come back. -/
def advanceReset (calendar : Calendar) (plan : SubscriptionPlan) (endUnix now : Int) :
    Nat → Int → Int → Option (Int × Int)
  | 0, _, _ => none
  | fuel + 1, base, next =>
    if 0 < next ∧ next ≤ now then
      advanceReset calendar plan endUnix now fuel next
        (calcNextResetTime calendar next plan endUnix)
    else some (base, next)

/-- A subscription at the begin of a new period. -/
def UserSubscription.renewed (base next : Int) : UserSubscription :=
  { sub with amountUsed := 0, lastResetTime := base, nextResetTime := next }

/-- A subscription whose next reset is on record. -/
def UserSubscription.dated (base next : Int) : UserSubscription :=
  { sub with lastResetTime := base, nextResetTime := next }

/-- The time that the periods are counted from. -/
def UserSubscription.resetBase : Int :=
  if sub.lastResetTime ≤ 0 then sub.startTime else sub.lastResetTime

end

def maybeResetUserSubscriptionWithPlanTx (cfg : Settings) (fuel : Nat) (sub : UserSubscription)
    (plan : SubscriptionPlan) (now : Int) : SubTx UserSubscription := do
  if 0 < sub.nextResetTime ∧ now < sub.nextResetTime then return sub
  else if plan.quotaResetPeriod = .never then return sub
  else
    let first := calcNextResetTime cfg.calendar sub.resetBase plan sub.endTime
    let (base, next) ← found
      (advanceReset cfg.calendar plan sub.endTime now fuel sub.resetBase first) SubError.unfinished
    if 0 < first ∧ first ≤ now then
      saveSubscriptionTx (sub.renewed base next)
      return sub.renewed base next
    else if sub.nextResetTime = 0 ∧ 0 < next then
      saveSubscriptionTx (sub.dated base next)
      return sub.dated base next
    else return sub

/-- What is used of the subscription for a request at `now`: nothing once a reset
is due. -/
def UserSubscription.usedAt (cfg : Settings) (plan : SubscriptionPlan) (now : Int)
    (sub : UserSubscription) : Int :=
  let first := calcNextResetTime cfg.calendar sub.resetBase plan sub.endTime
  if 0 < sub.nextResetTime ∧ now < sub.nextResetTime ∨ plan.quotaResetPeriod = .never ∨
    ¬ (0 < first ∧ first ≤ now) then sub.amountUsed else 0

/-- One subscription of `ResetDueSubscriptions`. A plan that is not found is
passed over. -/
def resetDueSubscriptionTx (cfg : Settings) (fuel : Nat) (now id planID : Int) : SubTx Unit := do
  let plan? ← Tx.read (.plan planID) fun st => st.plan? planID true
  match plan? with
  | none => return ()
  | some plan =>
    let locked? ← Tx.read (.subscription id) fun st => (st.subscription? id).filter fun sub =>
      decide (0 < sub.nextResetTime) && decide (sub.nextResetTime ≤ now)
    match locked? with
    | none => return ()
    | some locked =>
      let _ ← maybeResetUserSubscriptionWithPlanTx cfg fuel locked plan.normalizeDefaults now
      return ()

/-- The transactions up to the first that fails. -/
def resetDueEach (cfg : Settings) (fuel : Nat) (now : Int) :
    List UserSubscription → Store → Store
  | [], st => st
  | sub :: subs, st =>
    match (resetDueSubscriptionTx cfg fuel now sub.id sub.planId).run st with
    | .error _ => st
    | .ok (_, st') => resetDueEach cfg fuel now subs st'

def resetDueSubscriptions (cfg : Settings) (fuel : Nat) (limit now : Int) (st : Store) : Store :=
  let limit := if limit ≤ 0 then 200 else limit
  let subs := (st.subscriptions.filter fun sub => decide (0 < sub.nextResetTime) &&
    decide (sub.nextResetTime ≤ now) && sub.status = .active).insertionSort
      fun a b => a.nextResetTime ≤ b.nextResetTime
  resetDueEach cfg fuel now (subs.take limit.toNat) st

/-! ## Before the request -/

structure SubscriptionPreConsumeResult where
  (userSubscriptionId preConsumed amountTotal amountUsedBefore amountUsedAfter : Int)
  deriving DecidableEq

/-- What is answered when the request has a record already. -/
def SubscriptionPreConsumeRecord.answer (record : SubscriptionPreConsumeRecord)
    (sub : UserSubscription) : SubscriptionPreConsumeResult :=
  { userSubscriptionId := sub.id
    preConsumed := record.preConsumed
    amountTotal := sub.amountTotal
    amountUsedBefore := sub.amountUsed
    amountUsedAfter := sub.amountUsed }

def alreadyRefunded : SubError := .text "subscription pre-consume already refunded"

def UserSubscription.charged (sub : UserSubscription) (amount : Int) : UserSubscription :=
  { sub with amountUsed := add64 sub.amountUsed amount }

/-- A subscription with a limit that does not reach for the amount. -/
def UserSubscription.tooLittle (sub : UserSubscription) (amount : Int) : Bool :=
  decide (0 < sub.amountTotal) && decide (sub64 sub.amountTotal sub.amountUsed < amount)

structure PreConsumeRequest where
  requestId : String
  (userId amount now : Int)
  fuel : Nat

def PreConsumeRequest.record (request : PreConsumeRequest) (subscriptionID : Int) :
    SubscriptionPreConsumeRecord :=
  { requestId := request.requestId
    userId := request.userId
    userSubscriptionId := subscriptionID
    preConsumed := request.amount
    status := .consumed
    updatedAt := request.now }

/-- The answer to a request that has taken its quota from a subscription. -/
def PreConsumeRequest.taken (request : PreConsumeRequest) (sub : UserSubscription) :
    SubscriptionPreConsumeResult :=
  { userSubscriptionId := sub.id
    preConsumed := request.amount
    amountTotal := sub.amountTotal
    amountUsedBefore := sub.amountUsed
    amountUsedAfter := (sub.charged request.amount).amountUsed }

/-- The record is created and the quota is taken. When the unique index refuses
the record, the one that is there answers. -/
def chargeSubscriptionTx (request : PreConsumeRequest) (sub : UserSubscription) :
    SubTx SubscriptionPreConsumeResult := do
  let created ← Tx.updateWhere (.preConsume request.requestId)
    (fun st => (st.preConsume? request.requestId).isNone)
    (fun st => { st with preConsumes := st.preConsumes ++ [request.record sub.id] })
  if created then
    saveSubscriptionTx (sub.charged request.amount)
    return request.taken sub
  else
    let dup? ← Tx.read (.preConsume request.requestId) fun st => st.preConsume? request.requestId
    let dup ← found dup? SubError.duplicatedKey
    require (dup.status ≠ .refunded) alreadyRefunded
    return dup.answer sub

/-- The loop over the candidates: the answer of the first that reaches for the
amount, or the candidates if none does. -/
def chargeFirstTx (cfg : Settings) (request : PreConsumeRequest) :
    List UserSubscription → List UserSubscription →
      SubTx (SubscriptionPreConsumeResult ⊕ List UserSubscription)
  | [], insufficientSubs => return .inr insufficientSubs
  | candidate :: subs, insufficientSubs => do
    let plan ← getSubscriptionPlanByIdTx candidate.planId true
    let sub ← maybeResetUserSubscriptionWithPlanTx cfg request.fuel candidate plan request.now
    if sub.tooLittle request.amount then chargeFirstTx cfg request subs (insufficientSubs ++ [sub])
    else
      let result ← chargeSubscriptionTx request sub
      return .inl result

/-- The transaction. It is committed without an answer when no subscription
reaches for the amount. -/
def preConsumeUserSubscriptionTx (cfg : Settings) (request : PreConsumeRequest) :
    SubTx (Option SubscriptionPreConsumeResult) := do
  let existing? ← Tx.read (.preConsume request.requestId) fun st =>
    st.preConsume? request.requestId
  match existing? with
  | some existing =>
    require (existing.status ≠ .refunded) alreadyRefunded
    let row ← Tx.read (.subscription existing.userSubscriptionId) fun st =>
      st.subscription? existing.userSubscriptionId
    let sub ← found row SubError.recordNotFound
    return some (existing.answer sub)
  | none =>
    let subs ← Tx.select fun st => earliestFirst <| st.subscriptions.filter fun sub =>
      sub.userId = request.userId && sub.runsAt request.now
    require (subs ≠ []) (SubError.text "no active subscription")
    let outcome ← chargeFirstTx cfg request subs []
    match outcome with
    | .inl result => return some result
    | .inr insufficientSubs =>
      let _ ← expireQuotaInsufficientSubscriptionsTx cfg insufficientSubs request.now
      return none

def PreConsumeRequest.check (request : PreConsumeRequest) : Except SubError Unit := do
  require (0 < request.userId) (SubError.text "invalid userId")
  require (trimSpace request.requestId ≠ "") (SubError.text "requestId is empty")
  require (0 < request.amount) (SubError.text "amount must be > 0")

/-- The answer, and the tables. -/
def preConsumeUserSubscription (cfg : Settings) (request : PreConsumeRequest) (st : Store) :
    Except SubError SubscriptionPreConsumeResult × Store :=
  match request.check with
  | .error e => (.error e, st)
  | .ok () =>
    match (preConsumeUserSubscriptionTx cfg request).run st with
    | .error e => (.error e, st)
    | .ok (none, st') => (.error (.quotaInsufficient request.amount), st')
    | .ok (some result, st') => (.ok result, st')

/-! ## After the request -/

def usedExceedsTotal (used total : Int) : SubError :=
  .text ("subscription used exceeds total, used=" ++ toString used ++ " total=" ++ toString total)

/-- The usage after the difference, never below zero. -/
def UserSubscription.usedAfter (sub : UserSubscription) (delta : Int) : Int :=
  let newUsed := add64 sub.amountUsed delta
  if newUsed < 0 then 0 else newUsed

def postConsumeUserSubscriptionDelta (userSubscriptionID delta : Int) : SubTx Unit := do
  require (0 < userSubscriptionID) (SubError.text "invalid userSubscriptionId")
  if delta = 0 then return ()
  else
    let row ← Tx.read (.subscription userSubscriptionID) fun st =>
      st.subscription? userSubscriptionID
    let sub ← found row SubError.recordNotFound
    let newUsed := sub.usedAfter delta
    require (¬ (0 < sub.amountTotal ∧ sub.amountTotal < newUsed))
      (usedExceedsTotal newUsed sub.amountTotal)
    saveSubscriptionTx { sub with amountUsed := newUsed }

def cleanupSubscriptionPreConsumeRecords (olderThanSeconds now : Int) (st : Store) : Store :=
  let olderThanSeconds := if olderThanSeconds ≤ 0 then 7 * 24 * 3600 else olderThanSeconds
  { st with preConsumes :=
      st.preConsumes.filter fun record => ¬ record.updatedAt < now - olderThanSeconds }

/-! ## What a settlement does -/

def Store.usage (st : Store) (subscriptionID : Int) : Option Int :=
  (st.subscription? subscriptionID).map (·.amountUsed)

theorem Store.subscription?_id {id} (h : st.subscription? id = some sub) : sub.id = id := by
  simpa using find?_some h

section

variable {id delta : Int} (h : (postConsumeUserSubscriptionDelta id delta).run st = .ok ((), st'))
include h

theorem postConsume_ok :
    (delta = 0 ∧ st' = st) ∨ ∃ sub, st.subscription? id = some sub ∧
      ¬ (0 < sub.amountTotal ∧ sub.amountTotal < sub.usedAfter delta) ∧
      st' = st.saveSubscription { sub with amountUsed := sub.usedAfter delta } := by
  simp only [postConsumeUserSubscriptionDelta, run_lift_bind_ok, require_ok] at h
  obtain ⟨-, -, h⟩ := h
  by_cases hdlt : delta = 0
  · rw [if_pos hdlt] at h
    cases h
    exact .inl ⟨hdlt, rfl⟩
  rw [if_neg hdlt] at h
  simp only [run_read_bind, run_lift_bind_ok, found_ok, require_ok,
    saveSubscriptionTx, run_update] at h
  obtain ⟨sub, hsub, -, hlim, h⟩ := h
  cases h
  exact .inr ⟨sub, hsub, hlim, rfl⟩

theorem postConsume_records : st'.preConsumes = st.preConsumes := by
  rcases postConsume_ok h with ⟨-, rfl⟩ | ⟨sub, -, -, rfl⟩ <;> rfl

end

theorem Store.subscription?_saveSubscription (st : Store) (sub : UserSubscription) (id : Int) :
    (st.saveSubscription sub).subscription? id =
      (st.subscription? id).map fun row => if sub.id = id then sub else row :=
  find?_saveRow sub id st.subscriptions

theorem Store.usage_saveSubscription {id} (h : st.subscription? id = some sub) (used : Int) :
    (st.saveSubscription { sub with amountUsed := used }).usage id = some used := by
  simp [Store.usage, Store.subscription?_saveSubscription, h, Store.subscription?_id h]

/-! ## What a pre-consumption does -/

theorem advanceReset_of_not_due (hdue : ¬ (0 < due ∧ due ≤ now))
    (h : advanceReset calendar plan endUnix now fuel base due = some (base', next')) :
    base' = base := by
  cases fuel with
  | zero => cases h
  | succ =>
    rw [advanceReset, if_neg hdue] at h
    cases h
    rfl

inductive ResetStep (cfg : Settings) (plan : SubscriptionPlan) (sub : UserSubscription) :
    UserSubscription → Prop
  | renewed {now first base next : Int} {fuel : Nat}
      (hfst : calcNextResetTime cfg.calendar sub.resetBase plan sub.endTime = first)
      (hdue : 0 < first ∧ first ≤ now)
      (hlast : advanceReset cfg.calendar plan sub.endTime now fuel sub.resetBase first =
        some (base, next)) : ResetStep cfg plan sub (sub.renewed base next)
  | dated (next : Int) : ResetStep cfg plan sub (sub.dated sub.resetBase next)

theorem maybeReset_ok
    (h : (maybeResetUserSubscriptionWithPlanTx cfg fuel sub plan now).run st = .ok (sub', st')) :
    (sub' = sub ∧ st' = st) ∨ (ResetStep cfg plan sub sub' ∧ st' = st.saveSubscription sub') := by
  unfold maybeResetUserSubscriptionWithPlanTx at h
  split at h
  · cases h
    exact .inl ⟨rfl, rfl⟩
  split at h
  · cases h
    exact .inl ⟨rfl, rfl⟩
  simp only [run_lift_bind_ok, found_ok] at h
  obtain ⟨⟨base, next⟩, hlast, h⟩ := h
  dsimp only at h
  split at h
  · rename_i hdue
    simp only [saveSubscriptionTx, run_update_bind] at h
    cases h
    exact .inr ⟨.renewed rfl hdue hlast, rfl⟩
  rename_i hdue
  obtain rfl := advanceReset_of_not_due hdue hlast
  split at h
  · simp only [saveSubscriptionTx, run_update_bind] at h
    cases h
    exact .inr ⟨.dated next, rfl⟩
  · cases h
    exact .inl ⟨rfl, rfl⟩

theorem maybeReset_used
    (h : (maybeResetUserSubscriptionWithPlanTx cfg fuel sub plan now).run st = .ok (sub', st')) :
    sub'.amountUsed = sub.usedAt cfg plan now := by
  unfold maybeResetUserSubscriptionWithPlanTx at h
  unfold UserSubscription.usedAt
  by_cases hwait : 0 < sub.nextResetTime ∧ now < sub.nextResetTime
  · rw [if_pos hwait] at h
    cases h
    exact (if_pos (.inl hwait)).symm
  rw [if_neg hwait] at h
  by_cases hnever : plan.quotaResetPeriod = .never
  · rw [if_pos hnever] at h
    cases h
    exact (if_pos (.inr (.inl hnever))).symm
  rw [if_neg hnever] at h
  simp only [run_lift_bind_ok, found_ok] at h
  obtain ⟨⟨base, next⟩, -, h⟩ := h
  dsimp only at h ⊢
  split at h
  · rename_i hdue
    simp only [saveSubscriptionTx, run_update_bind] at h
    cases h
    exact (if_neg (by simp [hwait, hnever, hdue])).symm
  rename_i hdue
  rw [if_pos (.inr (.inr hdue))]
  split at h
  · simp only [saveSubscriptionTx, run_update_bind] at h
    cases h
    rfl
  · cases h
    rfl

/-- A plan of the table, as it is read. -/
def PlanIn (plans : AutoTable SubscriptionPlan (·.id)) (plan : SubscriptionPlan) : Prop :=
  ∃ id row, plans.get id = some row ∧ plan = row.normalizeDefaults

/-- The resets of a subscription, one after the other, by plans of the table. -/
def Resets (cfg : Settings) (plans : AutoTable SubscriptionPlan (·.id)) :
    UserSubscription → UserSubscription → Prop :=
  Relation.ReflTransGen fun sub sub' => ∃ plan, PlanIn plans plan ∧ ResetStep cfg plan sub sub'

/-- A subscription without its usage and its resets. -/
def UserSubscription.terms (sub : UserSubscription) : UserSubscription :=
  { sub with amountUsed := 0, lastResetTime := 0, nextResetTime := 0 }

theorem UserSubscription.id_of_terms (h : sub'.terms = sub.terms) : sub'.id = sub.id :=
  (congrArg id h : sub'.terms.id = sub.terms.id)

theorem ResetStep.terms (h : ResetStep cfg plan sub sub') : sub'.terms = sub.terms := by
  cases h <;> rfl

theorem Resets.terms (h : Resets cfg plans sub sub') : sub'.terms = sub.terms := by
  induction h with
  | refl => rfl
  | tail _ hstep ih =>
    obtain ⟨plan, -, hreset⟩ := hstep
    exact hreset.terms.trans ih

theorem Resets.id {plans} (h : Resets cfg plans sub sub') : sub'.id = sub.id :=
  id_of_terms h.terms

theorem maybeReset_rows (hplan : PlanIn st.plans plan)
    (hkeys : (st.subscriptions.map (·.id)).Nodup) (hsub : sub ∈ st.subscriptions)
    (h : (maybeResetUserSubscriptionWithPlanTx cfg fuel sub plan now).run st = .ok (sub', st')) :
    ∃ rows, RowsBy (Resets cfg st.plans) st.subscriptions rows ∧
      st' = { st with subscriptions := rows } ∧ sub' ∈ rows ∧ sub'.terms = sub.terms ∧
      ∀ row ∈ st.subscriptions, row.id ≠ sub.id → row ∈ rows := by
  rcases maybeReset_ok h with ⟨rfl, rfl⟩ | ⟨hstep, rfl⟩
  · exact ⟨_, .refl (fun _ => .refl) _, rfl, hsub, rfl, fun row hrow _ => hrow⟩
  have hid := id_of_terms hstep.terms
  refine ⟨saveRow (·.id) sub' st.subscriptions,
    .save (fun _ => .refl) hkeys hsub hid (.single ⟨plan, hplan, hstep⟩), rfl,
    mem_saveRow.mpr (.inr ⟨rfl, sub, hsub, hid.symm⟩), hstep.terms, fun row hrow hne => ?_⟩
  exact mem_saveRow.mpr (.inl ⟨hrow, by rw [hid]; exact hne⟩)

theorem chargeSubscriptionTx_ok (hnone : st.preConsume? request.requestId = none)
    (h : (chargeSubscriptionTx request sub).run st = .ok (result, st')) :
    result = request.taken sub ∧ st' = { st with
      subscriptions := saveRow (·.id) (sub.charged request.amount) st.subscriptions
      preConsumes := st.preConsumes ++ [request.record sub.id] } := by
  have hcre : (st.preConsume? request.requestId).isNone := by simp [hnone]
  unfold chargeSubscriptionTx at h
  rw [run_bind_of_ok (run_updateWhere ..), hcre] at h
  simp only [if_true, saveSubscriptionTx, run_update_bind] at h
  cases h
  exact ⟨rfl, rfl⟩

/-- A subscription that the request asks for quota. -/
def PreConsumeRequest.Candidate (request : PreConsumeRequest) (sub : UserSubscription) : Prop :=
  sub.userId = request.userId ∧ sub.runsAt request.now = true

instance (request : PreConsumeRequest) (sub : UserSubscription) :
    Decidable (request.Candidate sub) :=
  inferInstanceAs (Decidable (_ ∧ _))

/-- The amount exceeds what the subscription has left after its due reset. -/
def PreConsumeRequest.outruns (cfg : Settings) (request : PreConsumeRequest) (st : Store)
    (sub : UserSubscription) : Bool :=
  (st.plan? sub.planId true).any fun plan => UserSubscription.tooLittle
    { sub with amountUsed := sub.usedAt cfg plan.normalizeDefaults request.now } request.amount

/-- A candidate has enough left after its due reset, or the request is answered
before the candidates are asked. -/
def PreConsumeRequest.Served (cfg : Settings) (request : PreConsumeRequest) (st : Store) : Prop :=
  request.check.isOk = false ∨ (st.preConsume? request.requestId).isSome = true ∨
  (∀ sub ∈ st.subscriptions, ¬ request.Candidate sub) ∨
  ∃ sub ∈ st.subscriptions, request.Candidate sub ∧ request.outruns cfg st sub = false

instance (cfg : Settings) (request : PreConsumeRequest) (st : Store) :
    Decidable (request.Served cfg st) :=
  inferInstanceAs (Decidable (_ ∨ _ ∨ _ ∨ _))

theorem PreConsumeRequest.candidate_of_terms {request : PreConsumeRequest}
    (htrm : sub'.terms = sub.terms) (h : request.Candidate sub) : request.Candidate sub' := by
  have huser : sub'.terms.userId = sub.terms.userId := congrArg UserSubscription.userId htrm
  have hruns : sub'.terms.runsAt request.now = sub.terms.runsAt request.now :=
    congrArg (runsAt request.now) htrm
  exact ⟨huser.trans h.1, hruns.trans h.2⟩

/-- The loop over the candidates: some rows were reset, and then one of them was
charged, or none of the candidates reaches for the amount. -/
def ChargeOutcome (request : PreConsumeRequest) (st : Store) (rows : List UserSubscription)
    (st' : Store) : SubscriptionPreConsumeResult ⊕ List UserSubscription → Prop
  | .inl result => ∃ sub ∈ rows, sub.tooLittle request.amount = false ∧
      result = request.taken sub ∧ st' = { st with
        subscriptions := saveRow (·.id) (sub.charged request.amount) rows
        preConsumes := st.preConsumes ++ [request.record sub.id] }
  | .inr insufficientSubs => st' = { st with subscriptions := rows } ∧
      ∀ sub ∈ insufficientSubs, sub ∈ rows ∧ request.Candidate sub

theorem chargeFirstTx_ok {request : PreConsumeRequest}
    (hnone : st.preConsume? request.requestId = none) (hkeys : (st.subscriptions.map (·.id)).Nodup)
    (hsubs : ∀ sub ∈ subs, sub ∈ st.subscriptions ∧ request.Candidate sub)
    (hdist : ((insufficientSubs ++ subs).map (·.id)).Nodup)
    (hshort : ∀ sub ∈ insufficientSubs, sub ∈ st.subscriptions ∧ request.Candidate sub)
    (h : (chargeFirstTx cfg request subs insufficientSubs).run st = .ok (outcome, st')) :
    ∃ rows, RowsBy (Resets cfg st.plans) st.subscriptions rows ∧
      ChargeOutcome request st rows st' outcome := by
  -- the candidates that are left and those that were too small stay rows of the table
  induction subs generalizing st insufficientSubs with
  | nil =>
    cases h
    exact ⟨_, .refl (fun _ => .refl) _, rfl, hshort⟩
  | cons candidate subs ih =>
  obtain ⟨plan, st₁, hplan, hrest⟩ := run_bind_ok.mp h
  obtain ⟨rfl, -, planRow, hplanR, hplanE⟩ := getPlanById_ok hplan
  obtain ⟨sub, st₂, hreset, hrest⟩ := run_bind_ok.mp hrest
  obtain ⟨hmem, hcan⟩ := hsubs candidate mem_cons_self
  obtain ⟨rows, hrows, rfl, hsub, htrm, hoth⟩ := maybeReset_rows
    ⟨_, planRow, (Store.plan?_eq_some hplanR).1, hplanE⟩ hkeys hmem hreset
  have hkeys₂ : (rows.map (·.id)).Nodup := by
    rw [hrows.map_column _ fun _ _ hr => hr.id]
    exact hkeys
  have hnone₂ : Store.preConsume? { st₁ with subscriptions := rows } request.requestId = none :=
    hnone
  by_cases hlow : sub.tooLittle request.amount
  · rw [if_pos hlow] at hrest
    have hnotin : ∀ s ∈ insufficientSubs ++ subs, s.id ≠ candidate.id := by
      intro s hs heq
      rw [map_append, map_cons] at hdist
      refine (nodup_cons.mp (nodup_middle.mp hdist)).1 ?_
      rw [← map_append, ← heq]
      exact mem_map_of_mem hs
    have hdist₂ : ((insufficientSubs ++ [sub] ++ subs).map (·.id)).Nodup := by
      simpa [id_of_terms htrm] using hdist
    have hshort₂ : ∀ s ∈ insufficientSubs ++ [sub], s ∈ rows ∧ request.Candidate s := by
      intro s hs
      rcases mem_append.mp hs with hs | hs
      · obtain ⟨hmem, hcand⟩ := hshort s hs
        exact ⟨hoth s hmem (hnotin s (mem_append_left _ hs)), hcand⟩
      · rw [mem_singleton.mp hs]
        exact ⟨hsub, PreConsumeRequest.candidate_of_terms htrm hcan⟩
    have hsubs₂ : ∀ s ∈ subs, s ∈ rows ∧ request.Candidate s := by
      intro s hs
      obtain ⟨hmem, hcand⟩ := hsubs s (mem_cons_of_mem _ hs)
      exact ⟨hoth s hmem (hnotin s (mem_append_right _ hs)), hcand⟩
    obtain ⟨rows', hrows', hout⟩ :=
      ih hnone₂ hkeys₂ hsubs₂ hdist₂ hshort₂ hrest
    refine ⟨rows', hrows.trans (fun _ _ _ => .trans) hrows', ?_⟩
    cases outcome <;> exact hout
  rw [if_neg hlow] at hrest
  obtain ⟨result, st₃, hchg, hend⟩ := run_bind_ok.mp hrest
  obtain ⟨rfl, rfl⟩ := chargeSubscriptionTx_ok hnone₂ hchg
  cases hend
  exact ⟨rows, hrows, sub, hsub, by simpa using hlow, rfl, rfl⟩

/-- The loop gives up only when the amount exceeds what each candidate has left. -/
theorem chargeFirstTx_outruns
    (h : (chargeFirstTx cfg request subs insufficientSubs).run st = .ok (.inr outcome, st')) :
    ∀ sub ∈ subs, request.outruns cfg st sub = true := by
  induction subs generalizing st insufficientSubs with
  | nil => simp
  | cons candidate subs ih =>
  obtain ⟨plan, st₁, hplan, hrest⟩ := run_bind_ok.mp h
  obtain ⟨rfl, -, planRow, hplanR, rfl⟩ := getPlanById_ok hplan
  obtain ⟨sub, st₂, hreset, hrest⟩ := run_bind_ok.mp hrest
  split at hrest
  · rename_i hlittle
    have hplans : st₂.plans = st₁.plans ∧ sub.amountTotal = candidate.amountTotal := by
      rcases maybeReset_ok hreset with ⟨rfl, rfl⟩ | ⟨hstep, rfl⟩
      · exact ⟨rfl, rfl⟩
      · have htotal : sub.terms.amountTotal = candidate.terms.amountTotal :=
          congrArg amountTotal hstep.terms
        exact ⟨rfl, htotal⟩
    refine forall_mem_cons.mpr ⟨?_, fun s hs => ?_⟩
    · rw [PreConsumeRequest.outruns, hplanR]
      simpa [UserSubscription.tooLittle, hplans.2, maybeReset_used hreset] using hlittle
    · have hlater := ih hrest s hs
      rwa [PreConsumeRequest.outruns, Store.plan?, hplans.1] at hlater
  · obtain ⟨result, st₃, -, hend⟩ := run_bind_ok.mp hrest
    cases hend

theorem nodup_earliestFirst (h : (subs.map (·.id)).Nodup) :
    ((earliestFirst subs).map (·.id)).Nodup :=
  (((perm_insertionSort _ subs).map _).nodup_iff).mpr h

/-- **A pre-consumption that was committed**: the request has a record already,
or a subscription is charged, or none reaches for the amount. -/
theorem preConsumeUserSubscriptionTx_ok (hkeys : (st.subscriptions.map (·.id)).Nodup)
    (h : (preConsumeUserSubscriptionTx cfg request).run st = .ok (answer, st')) :
    (∃ existing sub, st.preConsume? request.requestId = some existing ∧
      existing.status ≠ .refunded ∧ st.subscription? existing.userSubscriptionId = some sub ∧
      answer = some (existing.answer sub) ∧ st' = st) ∨
    (st.preConsume? request.requestId = none ∧
      ∃ rows, RowsBy (Resets cfg st.plans) st.subscriptions rows ∧
        ((∃ result, answer = some result ∧ ChargeOutcome request st rows st' (.inl result)) ∨
        (answer = none ∧ (∃ sub ∈ st.subscriptions, request.Candidate sub) ∧
          (∀ sub ∈ st.subscriptions, request.Candidate sub → request.outruns cfg st sub = true) ∧
          ∃ subs group, (∀ sub ∈ subs, sub ∈ rows ∧ request.Candidate sub) ∧
          (expireQuotaInsufficientSubscriptionsTx cfg subs request.now).run
            { st with subscriptions := rows } = .ok (group, st')))) := by
  simp only [preConsumeUserSubscriptionTx, run_read_bind] at h
  cases hhas : st.preConsume? request.requestId with
  | some existing =>
    simp only [hhas, run_lift_bind_ok, require_ok, run_read_bind, found_ok] at h
    obtain ⟨-, hstat, sub, hsub, h⟩ := h
    cases h
    exact .inl ⟨existing, sub, rfl, hstat, hsub, rfl, rfl⟩
  | none =>
  simp only [hhas, run_select_bind, run_lift_bind_ok, require_ok] at h
  obtain ⟨-, hsome, h⟩ := h
  obtain ⟨outcome, st₁, hloop, hrest⟩ := run_bind_ok.mp h
  have hasked : ∀ sub, sub ∈ earliestFirst (st.subscriptions.filter fun sub =>
      sub.userId = request.userId && sub.runsAt request.now) ↔
      sub ∈ st.subscriptions ∧ request.Candidate sub := fun sub => by
    simp [mem_earliestFirst, PreConsumeRequest.Candidate]
  obtain ⟨rows, hrows, hout⟩ := chargeFirstTx_ok hhas hkeys (fun sub => (hasked sub).mp)
    (nodup_earliestFirst (hkeys.sublist (filter_sublist.map _)))
    (fun _ hsub => (not_mem_nil hsub).elim) hloop
  refine .inr ⟨rfl, rows, hrows, ?_⟩
  cases outcome with
  | inl result =>
    cases hrest
    exact .inl ⟨result, rfl, hout⟩
  | inr subs =>
    obtain ⟨rfl, hsubs⟩ := hout
    obtain ⟨group, st₂, hexp, hend⟩ := run_bind_ok.mp hrest
    cases hend
    obtain ⟨sub, hsub⟩ := exists_mem_of_ne_nil _ hsome
    exact .inr ⟨rfl, ⟨sub, (hasked sub).mp hsub⟩,
      fun s hs hcand => chargeFirstTx_outruns hloop s ((hasked s).mpr ⟨hs, hcand⟩),
      subs, group, hsubs, hexp⟩

inductive PreConsumed (cfg : Settings) (request : PreConsumeRequest) (st : Store) :
    Except SubError SubscriptionPreConsumeResult × Store → Prop
  | refused (e : SubError) : PreConsumed cfg request st (.error e, st)
  | again {record : SubscriptionPreConsumeRecord} {sub : UserSubscription}
      (hrec : st.preConsume? request.requestId = some record)
      (hid : sub.id = record.userSubscriptionId) :
      PreConsumed cfg request st (.ok (record.answer sub), st)
  | charged {rows : List UserSubscription} {sub : UserSubscription} (hamt : 0 < request.amount)
      (hnone : st.preConsume? request.requestId = none)
      (hrows : RowsBy (Resets cfg st.plans) st.subscriptions rows) (hsub : sub ∈ rows)
      (henough : sub.tooLittle request.amount = false) :
      PreConsumed cfg request st (.ok (request.taken sub), { st with
        subscriptions := saveRow (·.id) (sub.charged request.amount) rows
        preConsumes := st.preConsumes ++ [request.record sub.id] })
  | exhausted {rows subs : List UserSubscription} {group : String} {st' : Store}
      (hrows : RowsBy (Resets cfg st.plans) st.subscriptions rows)
      (hsubs : ∀ sub ∈ subs, sub ∈ rows ∧ request.Candidate sub)
      (hrun : (expireQuotaInsufficientSubscriptionsTx cfg subs request.now).run
        { st with subscriptions := rows } = .ok (group, st'))
      (hserved : ¬ request.Served cfg st) :
      PreConsumed cfg request st (.error (.quotaInsufficient request.amount), st')

theorem preConsume_cases (hkeys : (st.subscriptions.map (·.id)).Nodup)
    (cfg : Settings) (request : PreConsumeRequest) :
    PreConsumed cfg request st (preConsumeUserSubscription cfg request st) := by
  unfold preConsumeUserSubscription
  cases hcheck : request.check with
  | error e => exact .refused e
  | ok =>
  have hamt : 0 < request.amount := by
    simp only [PreConsumeRequest.check, require_seq_ok, require_ok] at hcheck
    exact hcheck.2.2
  dsimp only
  cases hrun : (preConsumeUserSubscriptionTx cfg request).run st with
  | error e => exact .refused e
  | ok r =>
  obtain ⟨answer, st'⟩ := r
  rcases preConsumeUserSubscriptionTx_ok hkeys hrun with
    ⟨record, sub, hrec, -, hsub, rfl, rfl⟩ | ⟨hnone, rows, hrows, hrest⟩
  · exact .again hrec (Store.subscription?_id hsub)
  rcases hrest with ⟨result, rfl, sub, hsub, henough, rfl, rfl⟩ |
    ⟨rfl, hcand, hlittle, subs, group, hsubs, hexp⟩
  · exact .charged hamt hnone hrows hsub henough
  · refine .exhausted hrows hsubs hexp ?_
    obtain ⟨sub, hsub, hasks⟩ := hcand
    rintro (h | h | h | ⟨s, hs, hcand, h⟩)
    · rw [hcheck] at h
      cases h
    · simp [hnone] at h
    · exact h sub hsub hasks
    · simp [hlittle s hs hcand] at h

end HermesToken.Subscription
