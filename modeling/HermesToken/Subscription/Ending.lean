import HermesToken.Subscription.Grant
import Mathlib.Data.List.Sort

/-!
# A subscription ends

The functions of `model/subscription.go` that end subscriptions by expiry and by
an exhausted quota. Each of them gives the user another group, if the user still
has the group of the ended subscription: the group of the latest subscription that
is still active, and without one the group from before. `DowngradeGroup` is not
read.
-/

namespace HermesToken.Subscription

open Lib Tx List Store

variable {sub : UserSubscription} {subs : List UserSubscription} {st st' : Store}

/-! ## The order of the queries -/

/-- `end_time asc, id asc`. -/
def endsBefore (a b : UserSubscription) : Prop :=
  a.endTime < b.endTime ∨ (a.endTime = b.endTime ∧ a.id ≤ b.id)

instance : DecidableRel endsBefore := fun _ _ => inferInstanceAs (Decidable (_ ∨ _))

def earliestFirst (subs : List UserSubscription) : List UserSubscription :=
  subs.insertionSort endsBefore

/-- `end_time desc, id desc`. -/
def latestFirst (subs : List UserSubscription) : List UserSubscription :=
  subs.insertionSort fun a b => endsBefore b a

theorem mem_earliestFirst : sub ∈ earliestFirst subs ↔ sub ∈ subs :=
  (perm_insertionSort _ _).mem_iff

def UserSubscription.runsAt (now : Int) (sub : UserSubscription) : Bool :=
  sub.status = .active && decide (now < sub.endTime)

def UserSubscription.dueAt (now : Int) (sub : UserSubscription) : Bool :=
  sub.status = .active && decide (0 < sub.endTime) && decide (sub.endTime ≤ now)

def Store.updateSubscription (st : Store) (id : Int)
    (f : UserSubscription → UserSubscription) : Store :=
  { st with subscriptions := st.subscriptions.map fun sub => if sub.id = id then f sub else sub }

/-! ## The user's group -/

/-- The first group of the subscriptions that has a name. -/
def firstUpgradeGroupTx (cfg : Settings) : List UserSubscription → SubTx String
  | [] => return ""
  | sub :: subs => do
    let group ← getEffectiveSubscriptionUpgradeGroupTx cfg sub
    if trimSpace group ≠ "" then return group else firstUpgradeGroupTx cfg subs

def findLatestActiveSubscriptionUpgradeGroupTx (cfg : Settings)
    (userID now excludeSubscriptionID : Int) : SubTx String := do
  require (0 < userID) (SubError.text "invalid userId")
  let subscriptions ← Tx.select fun st => latestFirst <| st.subscriptions.filter fun sub =>
    sub.userId = userID && sub.runsAt now &&
      (decide (excludeSubscriptionID ≤ 0) || decide (sub.id ≠ excludeSubscriptionID))
  firstUpgradeGroupTx cfg subscriptions

/-- The answer is the group the user gets, or empty if the group stays. -/
def downgradeUserGroupForSubscriptionTx (cfg : Settings) (sub : UserSubscription) (now : Int) :
    SubTx String := do
  let upgradeGroup ← getEffectiveSubscriptionUpgradeGroupTx cfg sub
  if upgradeGroup = "" then return ""
  else
    let currentGroup ← getUserGroupByIdTx sub.userId
    if currentGroup ≠ upgradeGroup then return ""
    else
      let latest ← findLatestActiveSubscriptionUpgradeGroupTx cfg sub.userId now sub.id
      let targetGroup := if latest = "" then trimSpace sub.prevUserGroup else latest
      if targetGroup = "" ∨ targetGroup = currentGroup then return ""
      else
        setUserGroup sub.userId targetGroup
        return targetGroup

/-- One subscription after the other; the answer is the last group given. -/
def downgradeEachTx (cfg : Settings) (now : Int) :
    List UserSubscription → String → SubTx String
  | [], cacheGroup => return cacheGroup
  | sub :: subs, cacheGroup => do
    let targetGroup ← downgradeUserGroupForSubscriptionTx cfg sub now
    downgradeEachTx cfg now subs (if targetGroup = "" then cacheGroup else targetGroup)

/-! ## Exhausted -/

/-- A subscription whose quota does not reach for a request has used it up. -/
def UserSubscription.exhausted (sub : UserSubscription) : UserSubscription := { sub with
  amountUsed := if sub.amountUsed < sub.amountTotal then sub.amountTotal else sub.amountUsed
  status := .expired }

/-- The UPDATE, which asks for the status. -/
def UserSubscription.expiredWith (row : UserSubscription) (amountUsed : Int) : UserSubscription :=
  if row.status = .active then { row with amountUsed, status := .expired } else row

/-- The UPDATEs, and the copies of the rows that were written. -/
def expireEachTx : List UserSubscription → SubTx (List UserSubscription)
  | [] => return []
  | sub :: subs => do
    if sub.id ≤ 0 ∨ sub.amountTotal ≤ 0 then expireEachTx subs
    else
      Tx.update (.subscription sub.id) fun st =>
        st.updateSubscription sub.id (·.expiredWith sub.exhausted.amountUsed)
      let expired ← expireEachTx subs
      return sub.exhausted :: expired

def expireQuotaInsufficientSubscriptionsTx (cfg : Settings)
    (subscriptions : List UserSubscription) (now : Int) : SubTx String := do
  let expired ← expireEachTx subscriptions
  downgradeEachTx cfg now (latestFirst expired) ""

/-! ## Expired -/

def expireDueEachTx (cfg : Settings) (now : Int) : List UserSubscription → String → SubTx String
  | [], cacheGroup => return cacheGroup
  | sub :: subs, cacheGroup => do
    Tx.update (.subscription sub.id) fun st =>
      st.updateSubscription sub.id fun row => { row with status := .expired }
    let targetGroup ← downgradeUserGroupForSubscriptionTx cfg sub now
    expireDueEachTx cfg now subs (if targetGroup = "" then cacheGroup else targetGroup)

def expireDueOfUserTx (cfg : Settings) (now userID : Int) : SubTx String := do
  let dueSubs ← Tx.select fun st => latestFirst <| st.subscriptions.filter fun sub =>
    sub.userId = userID && sub.dueAt now
  expireDueEachTx cfg now dueSubs ""

/-- The users whose subscriptions are among the first `limit` that are due. -/
def dueUsers (limit now : Int) (st : Store) : List Int :=
  let limit := if limit ≤ 0 then 200 else limit
  let subs := (earliestFirst (st.subscriptions.filter (·.dueAt now))).take limit.toNat
  ((subs.map (·.userId)).filter (0 < ·)).dedup

/-- The transactions up to the first that fails. -/
def expireDueOfUsers (cfg : Settings) (now : Int) : List Int → Store → Store
  | [], st => st
  | userID :: userIDs, st =>
    match (expireDueOfUserTx cfg now userID).run st with
    | .error _ => st
    | .ok (_, st') => expireDueOfUsers cfg now userIDs st'

def expireDueSubscriptions (cfg : Settings) (limit now : Int) (st : Store) : Store :=
  expireDueOfUsers cfg now (dueUsers limit now st) st

/-! ## What is left alone -/

section

variable {γ : Type} {view : Store → γ} {userID : Int}

/-- The view does not show the group of the user. -/
def HidesGroup (view : Store → γ) (userID : Int) : Prop :=
  ∀ st group, view (Store.updateUser st userID fun user => { user with group }) = view st

theorem firstUpgradeGroupTx_frames (cfg : Settings) (subs : List UserSubscription) :
    (firstUpgradeGroupTx cfg subs).Frames view := by
  induction subs with
  | nil => exact within_pure
  | cons sub _ ih =>
    exact .bind (effectiveGroup_within cfg sub) fun _ =>
      .ite within_pure ih

theorem downgradeGroup_frames (h : HidesGroup view sub.userId) (cfg : Settings)
    (now : Int) : (downgradeUserGroupForSubscriptionTx cfg sub now).Frames view := by
  unfold downgradeUserGroupForSubscriptionTx findLatestActiveSubscriptionUpgradeGroupTx
  refine .bind (effectiveGroup_within cfg sub) fun _ => ?_
  refine .ite within_pure (.bind (getUserGroupByIdTx_within lenient_true _) fun _ => ?_)
  refine .ite within_pure (.bind (.bind (frames_lift _) fun _ => ?_) fun latest => ?_)
  · exact .bind within_select fun _ => firstUpgradeGroupTx_frames _ _
  · exact .ite within_pure (.bind (within_update fun st => h st _) fun _ => within_pure)

theorem downgradeEachTx_frames (h : ∀ sub ∈ subs, HidesGroup view sub.userId) (cfg : Settings)
    (now : Int) (cacheGroup : String) : (downgradeEachTx cfg now subs cacheGroup).Frames view := by
  induction subs generalizing cacheGroup with
  | nil => exact within_pure
  | cons sub _ ih =>
    exact .bind (downgradeGroup_frames (h sub mem_cons_self) cfg now)
      fun _ => ih (fun s hs => h s (mem_cons_of_mem _ hs)) _

end

/-- **The exhausted subscriptions** are those of the list, and of the rows only
active ones with their keys are written. -/
theorem expireEachTx_ok (h : (expireEachTx subs).run st = .ok (expired, st')) :
    (∀ sub ∈ expired, ∃ sub₀ ∈ subs, sub = sub₀.exhausted) ∧
      ∃ f, st' = { st with subscriptions := st.subscriptions.map f } ∧
        ∀ row, f row = row ∨ (row.status = .active ∧ ∃ sub ∈ expired, sub.id = row.id ∧
          f row = { row with amountUsed := sub.amountUsed, status := .expired }) := by
  induction subs generalizing st expired with
  | nil =>
    cases h
    exact ⟨by simp, id, by simp, fun _ => .inl rfl⟩
  | cons sub _ ih =>
  unfold expireEachTx at h
  by_cases hskip : sub.id ≤ 0 ∨ sub.amountTotal ≤ 0
  · rw [if_pos hskip] at h
    obtain ⟨hexp, hrows⟩ := ih h
    exact ⟨fun s hs => (hexp s hs).imp fun s₀ h₀ => ⟨mem_cons_of_mem _ h₀.1, h₀.2⟩, hrows⟩
  rw [if_neg hskip, run_update_bind] at h
  obtain ⟨rest, st₁, hrest, hend⟩ := run_bind_ok.mp h
  obtain ⟨rfl, rfl⟩ := Prod.mk.inj (Except.ok.inj hend)
  obtain ⟨hexp, f, rfl, hf⟩ := ih hrest
  refine ⟨fun s hs => ?_, fun row => f (if row.id = sub.id then
    row.expiredWith sub.exhausted.amountUsed else row), ?_, fun row => ?_⟩
  · rcases mem_cons.mp hs with rfl | hs
    · exact ⟨sub, mem_cons_self, rfl⟩
    · exact (hexp s hs).imp fun s₀ h₀ => ⟨mem_cons_of_mem _ h₀.1, h₀.2⟩
  · simp [updateSubscription, Function.comp_def]
  -- a row that was written is not active any more, so it is not written again
  dsimp only
  unfold UserSubscription.expiredWith
  by_cases hrow : row.id = sub.id ∧ row.status = .active
  · rw [if_pos hrow.1, if_pos hrow.2]
    refine .inr ⟨hrow.2, sub.exhausted, mem_cons_self, hrow.1.symm, ?_⟩
    exact (hf _).resolve_right fun hact => nomatch hact.1
  · rw [← ite_and, if_neg hrow]
    exact (hf row).imp_right fun ⟨hact, s, hs, heq⟩ =>
      ⟨hact, s, mem_cons_of_mem _ hs, heq⟩

end HermesToken.Subscription
