import HermesToken.Subscription.Refund

/-!
# The quota of subscriptions is kept

A run of requests, settlements, refunds, resets and expiries, one after the
other. `UsageStore` holds in every state of it: what is used of a limited
subscription is within its limit, and every record of a request belongs to a
subscription. A request with a record is answered from the record.
-/

namespace HermesToken.Subscription

open Lib List

variable {cfg : Settings} {sub sub' : UserSubscription} {st : Store} {requestID : String}
  {subs : List UserSubscription} {now : Int} {record : SubscriptionPreConsumeRecord}
  {request : PreConsumeRequest}

/-! ## Runs -/

inductive UsageOp where
  | preConsume (cfg : Settings) (request : PreConsumeRequest)
  | settle (subscriptionID delta : Int)
  | refund (now : Int) (requestID : String)
  | resetDue (cfg : Settings) (fuel : Nat) (limit now : Int)
  | expireDue (cfg : Settings) (limit now : Int)
  | cleanup (olderThanSeconds now : Int)

/-- A settlement that fails changes nothing. -/
def settleStep (subscriptionID delta : Int) (st : Store) : Store :=
  match (postConsumeUserSubscriptionDelta subscriptionID delta).run st with
  | .ok (_, st') => st'
  | .error _ => st

def UsageOp.step (st : Store) : UsageOp → Store
  | .preConsume cfg request => (preConsumeUserSubscription cfg request st).2
  | .settle subscriptionID delta => settleStep subscriptionID delta st
  | .refund now requestID => (refundSubscriptionPreConsume .none now requestID st).2
  | .resetDue cfg fuel limit now => resetDueSubscriptions cfg fuel limit now st
  | .expireDue cfg limit now => expireDueSubscriptions cfg limit now st
  | .cleanup olderThanSeconds now => cleanupSubscriptionPreConsumeRecords olderThanSeconds now st

/-! ## What is used -/

/-- What is used of a limited subscription is within its limit, an int64. -/
def UserSubscription.Fits (sub : UserSubscription) : Prop :=
  0 < sub.amountTotal →
    0 ≤ sub.amountUsed ∧ sub.amountUsed ≤ sub.amountTotal ∧ sub.amountTotal ≤ maxInt64

/-! ## What an operation does -/

/-- What can happen to a subscription besides that a request takes quota. -/
inductive RowStep (sub : UserSubscription) : UserSubscription → Prop
  | reset {cfg : Settings} {plan : SubscriptionPlan} {sub' : UserSubscription}
      (h : ResetStep cfg plan sub sub') : RowStep sub sub'
  | settled (delta : Int)
      (hlim : ¬ (0 < sub.amountTotal ∧ sub.amountTotal < sub.usedAfter delta)) :
      RowStep sub { sub with amountUsed := sub.usedAfter delta }
  | exhausted : RowStep sub sub.exhausted
  | expired : RowStep sub { sub with status := .expired }

def RowSteps : UserSubscription → UserSubscription → Prop := Relation.ReflTransGen RowStep

theorem Resets.rowSteps (h : Resets cfg plans sub sub') : RowSteps sub sub' :=
  Relation.ReflTransGen.mono (fun _ _ ⟨_, _, hreset⟩ => RowStep.reset hreset) sub sub' h

theorem RowSteps.id (h : RowSteps sub sub') : sub'.id = sub.id := by
  induction h with
  | refl => rfl
  | tail _ hstep ih =>
    refine Eq.trans ?_ ih
    cases hstep with
    | reset hreset => exact UserSubscription.id_of_terms hreset.terms
    | settled | exhausted | expired => rfl

def usageTables (st : Store) : List UserSubscription × List SubscriptionPreConsumeRecord :=
  (st.subscriptions, st.preConsumes)

theorem usageTables_hidesGroup (userID : Int) : HidesGroup usageTables userID := fun _ _ => rfl

/-- All that an operation can do to subscriptions and records. -/
inductive UsageStep (subs : List UserSubscription) (records : List SubscriptionPreConsumeRecord) :
    List UserSubscription × List SubscriptionPreConsumeRecord → Prop
  | rows {subs' : List UserSubscription} (h : RowsBy RowSteps subs subs') :
      UsageStep subs records (subs', records)
  | charged {rows : List UserSubscription} {sub : UserSubscription} {request : PreConsumeRequest}
      (hamt : 0 < request.amount) (h : RowsBy RowSteps subs rows) (hsub : sub ∈ rows)
      (hroom : sub.tooLittle request.amount = false)
      (hnew : ∀ r ∈ records, r.requestId ≠ request.requestId) :
      UsageStep subs records (saveRow (·.id) (sub.charged request.amount) rows,
        records ++ [request.record sub.id])
  | refunded {subs' : List UserSubscription} {record : SubscriptionPreConsumeRecord} (now : Int)
      (h : RowsBy RowSteps subs subs') (hrec : record ∈ records) :
      UsageStep subs records (subs', saveRow (·.requestId) (record.refunded now) records)
  | cleaned (keep : SubscriptionPreConsumeRecord → Bool) :
      UsageStep subs records (subs, records.filter keep)

theorem rowSteps_refl (subs : List UserSubscription) : RowsBy RowSteps subs subs :=
  .refl (fun _ => .refl) subs

theorem UsageStep.same (st : Store) : UsageStep st.subscriptions st.preConsumes (usageTables st) :=
  .rows (rowSteps_refl _)

theorem preConsume?_eq_none (h : st.preConsume? requestID = none) :
    ∀ r ∈ st.preConsumes, r.requestId ≠ requestID := by
  intro r hr hid
  simpa [hid] using find?_eq_none.mp h r hr

section

variable (hkeys : (st.subscriptions.map (·.id)).Nodup)
include hkeys

theorem expireInsufficient_rows (hsubs : ∀ sub ∈ subs, sub ∈ st.subscriptions)
    (h : (expireQuotaInsufficientSubscriptionsTx cfg subs now).run st = .ok (group, st')) :
    RowsBy RowSteps st.subscriptions st'.subscriptions ∧ st'.preConsumes = st.preConsumes := by
  obtain ⟨expired, st₁, hexpired, hdown⟩ := Tx.run_bind_ok.mp h
  obtain ⟨hexp, f, rfl, hf⟩ := expireEachTx_ok hexpired
  have hframe := (downgradeEachTx_frames (fun sub _ => usageTables_hidesGroup sub.userId) ..).run
    hdown
  obtain ⟨hrows, hrecs⟩ := Prod.mk.inj hframe
  refine ⟨⟨f, hrows, fun row hrow => ?_⟩, hrecs⟩
  rcases hf row with heq | ⟨-, sub, hsub, hid, heq⟩
  · rw [heq]
    exact .refl
  obtain ⟨sub₀, hsub₀, rfl⟩ := hexp sub hsub
  obtain rfl : sub₀ = row := eq_of_key hkeys (hsubs sub₀ hsub₀) hrow hid
  rw [heq]
  exact .single .exhausted

theorem preConsume_step (cfg : Settings) (request : PreConsumeRequest) :
    UsageStep st.subscriptions st.preConsumes
      (usageTables (preConsumeUserSubscription cfg request st).2) := by
  have hcs := preConsume_cases hkeys cfg request
  generalize preConsumeUserSubscription cfg request st = outcome at hcs ⊢
  cases hcs with
  | refused | again => exact .same st
  | charged hamt hnone hrows hsub hroom =>
    exact .charged hamt (hrows.mono fun _ _ _ hr => hr.rowSteps) hsub hroom
      (preConsume?_eq_none hnone)
  | @exhausted rows subs group st' hrows hsubs hrun _ =>
    have hkeys' : (rows.map (·.id)).Nodup := by
      rw [hrows.map_column _ fun _ _ hr => hr.id]
      exact hkeys
    obtain ⟨hexp, hrecs⟩ := expireInsufficient_rows hkeys' (fun sub hsub => (hsubs sub hsub).1) hrun
    show UsageStep _ _ (st'.subscriptions, st'.preConsumes)
    rw [hrecs]
    exact .rows ((hrows.mono fun _ _ _ hr => hr.rowSteps).trans (fun _ _ _ => .trans) hexp)

theorem postConsume_rows {id delta}
    (h : (postConsumeUserSubscriptionDelta id delta).run st = .ok ((), st')) :
    RowsBy RowSteps st.subscriptions st'.subscriptions ∧ st'.preConsumes = st.preConsumes := by
  refine ⟨?_, postConsume_records h⟩
  rcases postConsume_ok h with ⟨-, rfl⟩ | ⟨sub, hsub, hlim, rfl⟩
  · exact rowSteps_refl _
  · exact .save (fun _ => .refl) hkeys (mem_of_find?_eq_some hsub) rfl
      (.single (.settled delta hlim))

theorem refundPreConsume_step (now : Int) (requestID : String) :
    UsageStep st.subscriptions st.preConsumes
      (usageTables (refundSubscriptionPreConsume .none now requestID st).2) := by
  have hcs := refundPreConsume_cases now requestID st
  generalize refundSubscriptionPreConsume .none now requestID st = outcome at hcs ⊢
  cases hcs with
  | refused | already => exact .same st
  | nothing hrec =>
    exact .refunded now (rowSteps_refl _) (mem_of_find?_eq_some hrec)
  | @lowered record st₁ hrec _ _ hrun =>
    obtain ⟨hrows, hrecs⟩ := postConsume_rows hkeys hrun
    show UsageStep _ _ (st₁.subscriptions, saveRow _ _ st₁.preConsumes)
    rw [hrecs]
    exact .refunded now hrows (mem_of_find?_eq_some hrec)

theorem resetDueSubscriptionTx_rows {fuel id planID}
    (h : (resetDueSubscriptionTx cfg fuel now id planID).run st = .ok ((), st')) :
    ∃ rows, RowsBy (Resets cfg st.plans) st.subscriptions rows ∧
      st' = { st with subscriptions := rows } := by
  have hsame : ∃ rows, RowsBy (Resets cfg st.plans) st.subscriptions rows ∧
      st = { st with subscriptions := rows } := ⟨_, .refl (fun _ => .refl) _, rfl⟩
  simp only [resetDueSubscriptionTx, Tx.run_read_bind] at h
  split at h
  · cases h
    exact hsame
  rename_i plan hplan
  simp only [Tx.run_read_bind] at h
  split at h
  · cases h
    exact hsame
  rename_i hlock
  obtain ⟨locked', st₁, hreset, hend⟩ := Tx.run_bind_ok.mp h
  cases hend
  obtain ⟨rows, hrows, hst, -⟩ := maybeReset_rows
    ⟨_, plan, (Store.plan?_eq_some hplan).1, rfl⟩ hkeys
    (mem_of_find?_eq_some (Option.filter_eq_some_iff.mp hlock).1) hreset
  exact ⟨rows, hrows, hst⟩

theorem resetDueEach_rows (cfg : Settings) (fuel : Nat) (now : Int)
    (subs : List UserSubscription) :
    ∃ rows, RowsBy (Resets cfg st.plans) st.subscriptions rows ∧
      resetDueEach cfg fuel now subs st = { st with subscriptions := rows } := by
  induction subs generalizing st with
  | nil => exact ⟨_, .refl (fun _ => .refl) _, rfl⟩
  | cons sub subs ih =>
  unfold resetDueEach
  cases hrun : (resetDueSubscriptionTx cfg fuel now sub.id sub.planId).run st with
  | error e => exact ⟨_, .refl (fun _ => .refl) _, rfl⟩
  | ok r =>
  obtain ⟨⟨⟩, st'⟩ := r
  obtain ⟨rows, hrows, rfl⟩ := resetDueSubscriptionTx_rows hkeys hrun
  have hkeys' : (rows.map (·.id)).Nodup := by
    rw [hrows.map_column _ fun _ _ hr => hr.id]
    exact hkeys
  have hrest := @ih { st with subscriptions := rows } hkeys'
  obtain ⟨rows', hrows', heq⟩ := hrest
  exact ⟨rows', hrows.trans (fun _ _ _ => .trans) hrows', heq⟩

end

theorem expireDueEachTx_rows
    (h : (expireDueEachTx cfg now subs cacheGroup).run st = .ok (group, st')) :
    RowsBy RowSteps st.subscriptions st'.subscriptions ∧ st'.preConsumes = st.preConsumes := by
  induction subs generalizing st cacheGroup with
  | nil =>
    cases h
    exact ⟨rowSteps_refl _, rfl⟩
  | cons _ _ ih =>
  rw [expireDueEachTx, Tx.run_update_bind] at h
  obtain ⟨target, st₁, hdown, hrest⟩ := Tx.run_bind_ok.mp h
  have hframe := (downgradeGroup_frames (usageTables_hidesGroup _) ..).run hdown
  obtain ⟨hrows, hrecs⟩ := Prod.mk.inj hframe
  obtain ⟨hrows', hrecs'⟩ := ih hrest
  rw [hrows] at hrows'
  refine ⟨.trans (fun _ _ _ => .trans) ⟨_, rfl, fun row _ => ?_⟩ hrows', hrecs'.trans hrecs⟩
  dsimp only
  split
  · exact .single .expired
  · exact .refl

theorem expireDueOfUsers_rows (cfg : Settings) (now : Int) (userIDs : List Int) :
    RowsBy RowSteps st.subscriptions (expireDueOfUsers cfg now userIDs st).subscriptions ∧
      (expireDueOfUsers cfg now userIDs st).preConsumes = st.preConsumes := by
  induction userIDs generalizing st with
  | nil => exact ⟨rowSteps_refl _, rfl⟩
  | cons userID userIDs ih =>
  unfold expireDueOfUsers
  cases hrun : (expireDueOfUserTx cfg now userID).run st with
  | error e => exact ⟨rowSteps_refl _, rfl⟩
  | ok r =>
    rw [expireDueOfUserTx, Tx.run_select_bind] at hrun
    obtain ⟨hrows, hrecs⟩ := expireDueEachTx_rows hrun
    obtain ⟨hrows', hrecs'⟩ := @ih r.2
    exact ⟨hrows.trans (fun _ _ _ => .trans) hrows', hrecs'.trans hrecs⟩

/-- **One operation** is one step of the subscriptions and the records. -/
theorem UsageOp.usageStep (hkeys : (st.subscriptions.map (·.id)).Nodup) (op : UsageOp) :
    UsageStep st.subscriptions st.preConsumes (usageTables (op.step st)) := by
  cases op with
  | preConsume cfg request => exact preConsume_step hkeys cfg request
  | settle id delta =>
    simp only [UsageOp.step, settleStep]
    cases hrun : (postConsumeUserSubscriptionDelta id delta).run st with
    | error => exact .same st
    | ok =>
      obtain ⟨hrows, hrecs⟩ := postConsume_rows hkeys hrun
      rw [usageTables, hrecs]
      exact .rows hrows
  | refund now requestID => exact refundPreConsume_step hkeys now requestID
  | resetDue cfg fuel _ now =>
    obtain ⟨rows, hrows, heq⟩ := resetDueEach_rows hkeys cfg fuel now _
    rw [UsageOp.step, resetDueSubscriptions, heq]
    exact .rows (hrows.mono fun _ _ _ hr => hr.rowSteps)
  | expireDue cfg limit now =>
    obtain ⟨hrows, hrecs⟩ := expireDueOfUsers_rows cfg now (dueUsers limit now st)
    rw [usageTables, UsageOp.step, expireDueSubscriptions, hrecs]
    exact .rows hrows
  | cleanup => exact .cleaned _

/-! ## Bounds -/

theorem fits_charged (hamt : 0 < amount) (h : sub.Fits)
    (henough : sub.tooLittle amount = false) : (sub.charged amount).Fits := by
  intro htot
  obtain ⟨_, _, hmax⟩ := h htot
  have htot' : 0 < sub.amountTotal := htot
  have hrem : sub64 sub.amountTotal sub.amountUsed = sub.amountTotal - sub.amountUsed :=
    sub64_eq (InInt64.of_nonneg (by omega) (by omega))
  have hroom : amount ≤ sub.amountTotal - sub.amountUsed := by
    simpa [UserSubscription.tooLittle, htot', hrem] using henough
  have hadd : add64 sub.amountUsed amount = sub.amountUsed + amount :=
    add64_eq (InInt64.of_nonneg (by omega) (by omega))
  refine ⟨?_, ?_, hmax⟩
  · show 0 ≤ add64 sub.amountUsed amount
    omega
  · show add64 sub.amountUsed amount ≤ sub.amountTotal
    omega

theorem usedAfter_nonneg (sub : UserSubscription) (delta : Int) : 0 ≤ sub.usedAfter delta := by
  unfold UserSubscription.usedAfter
  dsimp only
  split <;> omega

theorem RowStep.fits (hstep : RowStep sub sub') (h : sub.Fits) : sub'.Fits := by
  intro htot
  cases hstep with
  | reset hreset =>
    cases hreset with
    | renewed => exact ⟨Int.le_refl 0, Int.le_of_lt htot, (h htot).2.2⟩
    | dated => exact h htot
  | settled delta hlim =>
    exact ⟨usedAfter_nonneg sub delta, not_lt.mp fun hlt => hlim ⟨htot, hlt⟩, (h htot).2.2⟩
  | exhausted =>
    obtain ⟨_, _, _⟩ := h htot
    unfold UserSubscription.exhausted
    dsimp only
    split <;> omega
  | expired => exact h htot

theorem RowSteps.fits (hsteps : RowSteps sub sub') (h : sub.Fits) : sub'.Fits := by
  induction hsteps with
  | refl => exact h
  | tail _ hstep ih => exact hstep.fits ih

/-- Subscriptions within their limits, under different keys, and one record for
each request, of one of the subscriptions. -/
structure UsageStore (st : Store) : Prop where
  keys : (st.subscriptions.map (·.id)).Nodup
  fits : ∀ sub ∈ st.subscriptions, sub.Fits
  unique : (st.preConsumes.map (·.requestId)).Nodup
  owned : ∀ record ∈ st.preConsumes, record.userSubscriptionId ∈ st.subscriptions.map (·.id)

namespace UsageStep

variable {subs : List UserSubscription} {records : List SubscriptionPreConsumeRecord}
  {t : List UserSubscription × List SubscriptionPreConsumeRecord}

variable (h : UsageStep subs records t)
include h

theorem ids : t.1.map (·.id) = subs.map (·.id) := by
  cases h with
  | rows hrows | refunded _ hrows => exact hrows.map_column _ fun _ _ hr => hr.id
  | charged _ hrows =>
    rw [map_key_saveRow]
    exact hrows.map_column _ fun _ _ hr => hr.id
  | cleaned => rfl

theorem fits (hfits : ∀ sub ∈ subs, sub.Fits) : ∀ sub ∈ t.1, sub.Fits := by
  have hby : ∀ {rows}, RowsBy RowSteps subs rows → ∀ sub ∈ rows, sub.Fits := by
    intro rows hrows sub hsub
    obtain ⟨sub₀, hsub₀, hsteps⟩ := hrows.mem hsub
    exact hsteps.fits (hfits sub₀ hsub₀)
  cases h with
  | rows hrows => exact hby hrows
  | charged hamt hrows hsub hroom =>
    intro row hrow
    rcases mem_saveRow.mp hrow with ⟨hmem, -⟩ | ⟨rfl, -⟩
    · exact hby hrows row hmem
    · exact fits_charged hamt (hby hrows _ hsub) hroom
  | refunded _ hrows => exact hby hrows
  | cleaned => exact hfits

theorem unique (huniq : (records.map (·.requestId)).Nodup) : (t.2.map (·.requestId)).Nodup := by
  cases h with
  | rows => exact huniq
  | charged _ _ _ _ hnew =>
    rw [map_append]
    refine nodup_append.mpr ⟨huniq, nodup_singleton _, fun a ha b hb => ?_⟩
    obtain ⟨r, hr, rfl⟩ := mem_map.mp ha
    rw [mem_singleton.mp hb]
    exact hnew r hr
  | refunded =>
    rw [map_key_saveRow]
    exact huniq
  | cleaned => exact huniq.sublist (filter_sublist.map _)

theorem owned (howned : ∀ record ∈ records, record.userSubscriptionId ∈ subs.map (·.id)) :
    ∀ record ∈ t.2, record.userSubscriptionId ∈ subs.map (·.id) := by
  cases h with
  | rows => exact howned
  | charged _ hrows hsub =>
    intro record hrec
    rcases mem_append.mp hrec with hr | hr
    · exact howned record hr
    · rw [mem_singleton.mp hr, ← hrows.map_column _ fun _ _ hr => hr.id]
      exact mem_map.mpr ⟨_, hsub, rfl⟩
  | refunded _ _ hrec =>
    intro record hr
    rcases mem_saveRow.mp hr with ⟨hr, -⟩ | ⟨rfl, -⟩
    · exact howned record hr
    · exact (howned _ hrec :)
  | cleaned => exact fun record hr => howned record (mem_of_mem_filter hr)

end UsageStep

theorem UsageStore.step (h : UsageStore st) (op : UsageOp) : UsageStore (op.step st) := by
  have hstep := op.usageStep h.keys
  exact ⟨hstep.ids ▸ h.keys, hstep.fits h.fits, hstep.unique h.unique,
    hstep.ids ▸ hstep.owned h.owned⟩

/-! ## The records of the requests -/

structure Follows (record record' : SubscriptionPreConsumeRecord) : Prop where
  requestId : record'.requestId = record.requestId
  subscription : record'.userSubscriptionId = record.userSubscriptionId
  amount : record'.preConsumed = record.preConsumed
  status : record.status = .refunded → record'.status = .refunded

theorem Follows.refl (record : SubscriptionPreConsumeRecord) : Follows record record :=
  ⟨rfl, rfl, rfl, id⟩

theorem Follows.trans {r r' r''} (h : Follows r r') (h' : Follows r' r'') : Follows r r'' :=
  ⟨h'.requestId.trans h.requestId, h'.subscription.trans h.subscription,
    h'.amount.trans h.amount, fun hs => h'.status (h.status hs)⟩

theorem UsageStep.follows (h : UsageStep subs records t) (huniq : (records.map (·.requestId)).Nodup)
    (hmem : record ∈ records) (hmem' : record' ∈ t.2) (hid : record'.requestId = record.requestId) :
    Follows record record' := by
  have hsame : record' ∈ records → Follows record record' := fun hr =>
    eq_of_key huniq hr hmem hid ▸ .refl record'
  cases h with
  | rows => exact hsame hmem'
  | charged _ _ _ _ hnew =>
    rcases mem_append.mp hmem' with hr | hr
    · exact hsame hr
    · obtain rfl := mem_singleton.mp hr
      exact (hnew record hmem hid.symm).elim
  | refunded _ _ hold =>
    rcases mem_saveRow.mp hmem' with ⟨hr, -⟩ | ⟨rfl, -⟩
    · exact hsame hr
    · obtain rfl := eq_of_key huniq hold hmem hid
      exact ⟨rfl, rfl, rfl, fun _ => rfl⟩
  | cleaned => exact hsame (mem_of_mem_filter hmem')

theorem preConsume?_some (h : st.preConsume? requestID = some record) :
    record ∈ st.preConsumes ∧ record.requestId = requestID :=
  ⟨mem_of_find?_eq_some h, by simpa using find?_some h⟩

def HasRecord (requestID : String) (st : Store) : Prop := (st.preConsume? requestID).isSome = true

instance : Decidable (HasRecord requestID st) := inferInstanceAs (Decidable (_ = true))

/-- The request keeps its record along the run. -/
def KeepsRecord (requestID : String) : Store → List UsageOp → Prop :=
  Along UsageOp.step fun st op => HasRecord requestID (op.step st)

/-- **The record of a run**: as long as the request has one, it says which
subscription was charged first, and stays refunded. -/
theorem follows_run (h : UsageStore st) (hrec : st.preConsume? requestID = some record)
    (hkps : KeepsRecord requestID st ops) :
    ∃ record', (exec UsageOp.step st ops).preConsume? requestID = some record' ∧
      Follows record record' := by
  induction ops generalizing st record with
  | nil => exact ⟨record, hrec, .refl record⟩
  | cons op _ ih =>
  obtain ⟨hhas, hrest⟩ := hkps
  obtain ⟨record₁, hrec₁⟩ := Option.isSome_iff_exists.mp hhas
  obtain ⟨record', hrec', hlater⟩ := ih (h.step op) hrec₁ hrest
  obtain ⟨hmem, hid⟩ := preConsume?_some hrec
  obtain ⟨hmem₁, hid₁⟩ := preConsume?_some hrec₁
  have hstep := (op.usageStep h.keys).follows h.unique hmem hmem₁ (hid₁.trans hid.symm)
  exact ⟨record', hrec', hstep.trans hlater⟩

/-! ## A request that comes again -/

theorem UsageStore.subscription? (h : UsageStore st) (hrec : record ∈ st.preConsumes) :
    ∃ sub, st.subscription? record.userSubscriptionId = some sub := by
  obtain ⟨sub, hsub, hid⟩ := mem_map.mp (h.owned record hrec)
  refine Option.isSome_iff_exists.mp (find?_isSome.mpr ⟨sub, hsub, ?_⟩)
  simpa using hid

def Refunded (requestID : String) (st : Store) : Prop :=
  ∃ record, st.preConsume? requestID = some record ∧ record.status = .refunded

/-- **A request with a record** is answered from it, and nothing is consumed. -/
theorem preConsume_again (h : UsageStore st) (cfg : Settings)
    (hrec : st.preConsume? request.requestId = some record) :
    (preConsumeUserSubscription cfg request st).2 = st ∧ (request.check = .ok () →
      if record.status = .refunded then
        (preConsumeUserSubscription cfg request st).1 = .error alreadyRefunded
      else ∃ sub, sub.id = record.userSubscriptionId ∧
        (preConsumeUserSubscription cfg request st).1 = .ok (record.answer sub)) := by
  obtain ⟨sub, hsub⟩ := h.subscription? (preConsume?_some hrec).1
  have hrun : (preConsumeUserSubscriptionTx cfg request).run st =
      if record.status = .refunded then .error alreadyRefunded
      else .ok (some (record.answer sub), st) := by
    rw [preConsumeUserSubscriptionTx, Tx.run_read_bind, hrec]
    by_cases hstat : record.status = .refunded
    · rw [if_pos hstat]
      simp [require, hstat]
      rfl
    · rw [if_neg hstat]
      simp only [Tx.run_lift_bind_ok, require_ok, Tx.run_read_bind, found_ok]
      exact ⟨(), hstat, sub, hsub, rfl⟩
  unfold preConsumeUserSubscription
  cases hcheck : request.check with
  | error => exact ⟨rfl, fun hok => by cases hok⟩
  | ok =>
  dsimp only
  rw [hrun]
  by_cases hstat : record.status = .refunded
  · rw [if_pos hstat]
    exact ⟨rfl, fun _ => by rw [if_pos hstat]⟩
  rw [if_neg hstat]
  exact ⟨rfl, fun _ => by
    rw [if_neg hstat]
    exact ⟨sub, Store.subscription?_id hsub, rfl⟩⟩

theorem preConsume_record (h : UsageStore st)
    (hok : preConsumeUserSubscription cfg request st = (.ok result, st')) :
    ∃ record, st'.preConsume? request.requestId = some record ∧
      record.userSubscriptionId = result.userSubscriptionId ∧
      record.preConsumed = result.preConsumed := by
  have hcs := preConsume_cases h.keys cfg request
  rw [hok] at hcs
  cases hcs with
  | again hrec hid => exact ⟨_, hrec, hid.symm, rfl⟩
  | @charged rows sub _ hnone _ _ _ =>
  refine ⟨request.record sub.id, ?_, rfl, rfl⟩
  have hfind : (st.preConsumes ++ [request.record sub.id]).find?
      (·.requestId = request.requestId) = (st.preConsume? request.requestId).or
        (if (request.record sub.id).requestId = request.requestId then
          some (request.record sub.id) else none) :=
    find?_append_row _ _ _
  rw [Store.preConsume?, hfind, hnone]
  exact if_pos rfl

theorem refundPreConsume_refunded
    (hok : (refundSubscriptionPreConsume .none now requestID st).1 = .ok ()) :
    Refunded requestID (refundSubscriptionPreConsume .none now requestID st).2 := by
  have hcs := refundPreConsume_cases now requestID st
  generalize refundSubscriptionPreConsume .none now requestID st = outcome at hcs hok ⊢
  cases hcs with
  | refused => cases hok
  | already hrec hstat => exact ⟨_, hrec, hstat⟩
  | nothing hrec => exact ⟨_, preConsume?_savePreConsume hrec, rfl⟩
  | @lowered record st₁ hrec _ _ hrun =>
    have hrec₁ : st₁.preConsume? requestID = some record := by
      rw [Store.preConsume?, postConsume_records hrun]
      exact hrec
    exact ⟨_, preConsume?_savePreConsume hrec₁, rfl⟩

/-- **Quotas are kept, and a request takes its quota once.** After every run of
requests, settlements, refunds, resets, expiries and cleanups, what is used of
a limited subscription is within its limit. A request that got its quota is, as
long as its record is there, answered from the record: nothing changes, the
subscription is the one that was charged first, and after a refund the request
is refused. -/
theorem subscription_quota_bounds_and_idempotence {st : Store} (h : UsageStore st)
    (ops : List UsageOp) :
    (∀ sub ∈ (exec UsageOp.step st ops).subscriptions, 0 < sub.amountTotal →
      0 ≤ sub.amountUsed ∧ sub.amountUsed ≤ sub.amountTotal) ∧
    ∀ cfg request result st₁,
      preConsumeUserSubscription cfg request (exec UsageOp.step st ops) = (.ok result, st₁) →
    ∀ later, KeepsRecord request.requestId st₁ later →
    ∀ cfg' request', request'.requestId = request.requestId →
      let st₂ := exec UsageOp.step st₁ later
      let again := preConsumeUserSubscription cfg' request' st₂
      again.2 = st₂ ∧
      (request'.check = .ok () →
        (Refunded request.requestId st₂ ∧ again.1 = .error alreadyRefunded) ∨
        (¬ Refunded request.requestId st₂ ∧ ∃ result', again.1 = .ok result' ∧
          result'.userSubscriptionId = result.userSubscriptionId ∧
          result'.preConsumed = result.preConsumed)) ∧
      ∀ before now after, later = before ++ .refund now request.requestId :: after →
        (refundSubscriptionPreConsume .none now request.requestId
          (exec UsageOp.step st₁ before)).1 = .ok () →
        Refunded request.requestId st₂ := by
  have hstore : UsageStore (exec UsageOp.step st ops) :=
    exec_invariant UsageStore (fun _ op hs => hs.step op) h ops
  refine ⟨fun sub hsub htotal => ?_, ?_⟩
  · obtain ⟨h0, hle, -⟩ := hstore.fits sub hsub htotal
    exact ⟨h0, hle⟩
  intro cfg request result st₁ hok later hkeeps cfg' request' hid
  have hstore₁ : UsageStore st₁ := by
    have hstep := hstore.step (.preConsume cfg request)
    rw [UsageOp.step, hok] at hstep
    exact hstep
  obtain ⟨record, hrecord, hsub, hamount⟩ := preConsume_record hstore hok
  obtain ⟨record', hrecord', hfollows⟩ := follows_run hstore₁ hrecord hkeeps
  have hstore₂ : UsageStore (exec UsageOp.step st₁ later) :=
    exec_invariant UsageStore (fun _ op hs => hs.step op) hstore₁ later
  rw [← hid] at hrecord'
  obtain ⟨hstay, hanswer⟩ := preConsume_again hstore₂ cfg' hrecord'
  rw [hid] at hrecord'
  refine ⟨hstay, fun hcheck => ?_, ?_⟩
  · have hanswer := hanswer hcheck
    by_cases hstatus : record'.status = .refunded
    · rw [if_pos hstatus] at hanswer
      exact .inl ⟨⟨record', hrecord', hstatus⟩, hanswer⟩
    rw [if_neg hstatus] at hanswer
    obtain ⟨sub, hsubID, hresult⟩ := hanswer
    refine .inr ⟨?_, record'.answer sub, hresult, ?_, hfollows.amount.trans hamount⟩
    · rintro ⟨other, hother, hrefunded⟩
      exact hstatus (Option.some.inj (hrecord'.symm.trans hother) ▸ hrefunded)
    · exact (hsubID.trans hfollows.subscription).trans hsub
  rintro before now after rfl hrefund
  obtain ⟨-, hafter⟩ := along_append.mp hkeeps
  have hstoreBefore : UsageStore (exec UsageOp.step st₁ before) :=
    exec_invariant UsageStore (fun _ op hs => hs.step op) hstore₁ before
  obtain ⟨refunded, hrefunded, hstatus⟩ := refundPreConsume_refunded hrefund
  obtain ⟨last, hlast, hfollowed⟩ :=
    follows_run (hstoreBefore.step (.refund now request.requestId)) hrefunded hafter.2
  refine ⟨last, ?_, hfollowed.status hstatus⟩
  rw [exec_append]
  exact hlast

/-- A subscription with 100 of 200 left, and its plan. -/
def quotaStore : Store := takenStore.insertPlan { id := 0, totalAmount := 200 }

def quotaRequest : PreConsumeRequest where
  requestId := "q"
  userId := 1
  amount := 30
  now := 10
  fuel := 1

theorem quotaStore_usageStore : UsageStore quotaStore := by
  refine ⟨by decide, ?_, by decide, by decide⟩
  intro sub hsub htot
  obtain rfl := mem_singleton.mp hsub
  decide

/-- The request takes 30, is refunded, and is refused when it comes again. -/
theorem subscription_quota_refused_after_refund :
    let taken := preConsumeUserSubscription sampleSettings quotaRequest quotaStore
    let refunded := exec UsageOp.step taken.2 [.refund 11 "q"]
    taken.2.usage 1 = some 130 ∧ refunded.usage 1 = some 100 ∧
      Refunded "q" refunded ∧
      (preConsumeUserSubscription sampleSettings quotaRequest refunded).2 = refunded := by
  intro taken refunded
  have hok : taken.1 = .ok ⟨1, 30, 200, 100, 130⟩ := by decide +kernel
  have hkeeps : HasRecord "q" (UsageOp.step taken.2 (.refund 11 "q")) := by decide +kernel
  obtain ⟨-, hagain⟩ := subscription_quota_bounds_and_idempotence quotaStore_usageStore []
  obtain ⟨hstay, -, hrefund⟩ := hagain sampleSettings quotaRequest _ taken.2 (Prod.ext hok rfl)
    [.refund 11 "q"] ⟨hkeeps, trivial⟩ sampleSettings quotaRequest rfl
  exact ⟨by decide +kernel, by decide +kernel, hrefund [] 11 [] rfl (by decide +kernel), hstay⟩

end HermesToken.Subscription
