import HermesToken.Subscription.Quota

/-!
# What a period has used

A request belongs to the period in which it took its quota: the period that
began with the last reset of its subscription. `Metered` keeps, beside the
tables, what every request has consumed in all: its pre-consumption, the
settlements of its session and its refund. `periodUsage` adds up the requests
of the current period of a subscription.

`AmountUsed` is that sum as long as every settlement and refund comes in the
period of its request. A refund that comes after a reset is taken off the new
period.
-/

namespace HermesToken.Subscription

open Lib List

variable {sub sub' : UserSubscription} {request : PreConsumeRequest} {delta : Int}
  {plan : SubscriptionPlan} {requestID : String}

/-! ## Requests and their periods -/

/-- What a request has consumed. `period` is the reset its subscription had
last, when the request took its quota. -/
structure PeriodEntry where
  requestId : String
  (subscriptionId period net : Int)

structure Metered where
  store : Store
  entries : List PeriodEntry := []

inductive PeriodOp where
  | preConsume (cfg : Settings) (request : PreConsumeRequest)
  | settle (requestID : String) (delta : Int)
  | refund (now : Int) (requestID : String)
  | resetDue (cfg : Settings) (fuel : Nat) (limit now : Int)

def currentPeriod (st : Store) (subscriptionID : Int) : Int :=
  ((st.subscription? subscriptionID).map (·.resetBase)).getD 0

def Metered.adjusted (m : Metered) (entry : PeriodEntry) (delta : Int) : List PeriodEntry :=
  saveRow (·.requestId) { entry with net := entry.net + delta } m.entries

/-- `SubscriptionFunding.Settle`: the session of a request knows the
subscription that was charged. -/
def Metered.settle (m : Metered) (requestID : String) (delta : Int) : Metered :=
  match m.entries.find? (·.requestId = requestID) with
  | none => m
  | some entry =>
    match (postConsumeUserSubscriptionDelta entry.subscriptionId delta).run m.store with
    | .error _ => m
    | .ok (_, st') => ⟨st', m.adjusted entry delta⟩

def Metered.refund (m : Metered) (now : Int) (requestID : String) : Metered :=
  match refundSubscriptionPreConsume .none now requestID m.store with
  | (.error _, st') => { m with store := st' }
  | (.ok (), st') =>
    match m.store.preConsume? requestID, m.entries.find? (·.requestId = requestID) with
    | some record, some entry =>
      if record.status = .refunded then { m with store := st' }
      else ⟨st', m.adjusted entry (-record.preConsumed)⟩
    | _, _ => { m with store := st' }

def Metered.preConsume (m : Metered) (cfg : Settings) (request : PreConsumeRequest) : Metered :=
  match preConsumeUserSubscription cfg request m.store with
  | (.error _, st') => { m with store := st' }
  | (.ok result, st') =>
    if (m.store.preConsume? request.requestId).isSome then { m with store := st' }
    else
      { store := st'
        entries := m.entries ++ [
          { requestId := request.requestId
            subscriptionId := result.userSubscriptionId
            period := currentPeriod st' result.userSubscriptionId
            net := result.preConsumed }] }

def PeriodOp.step (m : Metered) : PeriodOp → Metered
  | .preConsume cfg request => m.preConsume cfg request
  | .settle requestID delta => m.settle requestID delta
  | .refund now requestID => m.refund now requestID
  | .resetDue cfg fuel limit now =>
    { m with store := resetDueSubscriptions cfg fuel limit now m.store }

/-- The subscription and the period of a request. -/
def PeriodEntry.key (entry : PeriodEntry) : Int × Int := (entry.subscriptionId, entry.period)

/-- What the requests of the current period of the subscription have consumed. -/
def periodUsage (entries : List PeriodEntry) (sub : UserSubscription) : Int :=
  keyedSum PeriodEntry.key (·.net) (sub.id, sub.resetBase) entries

theorem periodUsage_append : periodUsage (entries ++ [entry]) sub =
      periodUsage entries sub + if entry.key = (sub.id, sub.resetBase) then entry.net else 0 := by
  simp [periodUsage]

/-! ## Resets -/

/-- Every reset is later than the one before. -/
def ForwardResets (cfg : Settings) (plans : AutoTable SubscriptionPlan (·.id)) : Prop :=
  ∀ plan, PlanIn plans plan → ∀ base endUnix,
    0 < calcNextResetTime cfg.calendar base plan endUnix →
      base < calcNextResetTime cfg.calendar base plan endUnix

/-- A subscription in its period, or at the begin of a later one. -/
structure Later (sub sub' : UserSubscription) : Prop where
  id : sub'.id = sub.id
  period : (sub'.resetBase = sub.resetBase ∧ sub'.amountUsed = sub.amountUsed) ∨
    (sub.resetBase < sub'.resetBase ∧ sub'.amountUsed = 0)

theorem Later.refl (sub : UserSubscription) : Later sub sub := ⟨rfl, .inl ⟨rfl, rfl⟩⟩

theorem Later.trans (h : Later sub sub') (h' : Later sub' sub'') :
    Later sub sub'' := by
  refine ⟨h'.id.trans h.id, ?_⟩
  have := h.period
  have := h'.period
  omega

section

variable {cfg : Settings}

theorem le_of_advanceReset
    (hforward : ∀ base, 0 < calcNextResetTime cfg.calendar base plan endUnix →
      base < calcNextResetTime cfg.calendar base plan endUnix) (hdue : 0 < due ∧ due ≤ now)
    (h : advanceReset cfg.calendar plan endUnix now fuel base due = some (base', next')) :
    due ≤ base' := by
  induction fuel generalizing base due with
  | zero => cases h
  | succ _ ih =>
  rw [advanceReset, if_pos hdue] at h
  by_cases hagain : 0 < calcNextResetTime cfg.calendar due plan endUnix ∧
      calcNextResetTime cfg.calendar due plan endUnix ≤ now
  · have hlater := hforward due hagain.1
    have := ih hagain h
    omega
  · rw [advanceReset_of_not_due hagain h]

theorem ResetStep.later (hforward : ForwardResets cfg plans) (hplan : PlanIn plans plan)
    (h : ResetStep cfg plan sub sub') : Later sub sub' := by
  cases h with
  | @renewed now first base next fuel hfirst hdue hlast =>
    have hlater : sub.resetBase < first := by
      rw [← hfirst] at hdue ⊢
      exact hforward plan hplan _ _ hdue.1
    have hbase : first ≤ base := le_of_advanceReset (hforward plan hplan · _) hdue hlast
    have hperiod : (sub.renewed base next).resetBase = base :=
      if_neg (not_le.mpr (show 0 < base by omega))
    exact ⟨rfl, .inr ⟨by omega, rfl⟩⟩
  | dated =>
    refine ⟨rfl, .inl ⟨?_, rfl⟩⟩
    show (if sub.resetBase ≤ 0 then sub.startTime else sub.resetBase) = sub.resetBase
    unfold UserSubscription.resetBase
    by_cases hlast : sub.lastResetTime ≤ 0 <;> simp [hlast]

theorem Resets.later (hforward : ForwardResets cfg plans) (h : Resets cfg plans sub sub') :
    Later sub sub' := by
  induction h with
  | refl => exact .refl sub
  | tail _ hstep ih =>
    obtain ⟨plan, hplan, hreset⟩ := hstep
    exact ih.trans (hreset.later hforward hplan)

end

/-! ## The books -/

/-- `AmountUsed` is what the requests of the period have consumed. The plans stay
as they are. -/
structure PeriodBooks (plans : AutoTable SubscriptionPlan (·.id)) (m : Metered) : Prop where
  plans : m.store.plans = plans
  keys : (m.store.subscriptions.map (·.id)).Nodup
  aligned : m.entries.map (fun entry => (entry.requestId, entry.subscriptionId)) =
    m.store.preConsumes.map fun record => (record.requestId, record.userSubscriptionId)
  unique : (m.store.preConsumes.map (·.requestId)).Nodup
  amounts : ∀ record ∈ m.store.preConsumes, 0 < record.preConsumed ∧
    record.preConsumed ≤ maxInt64
  bounds : ∀ sub ∈ m.store.subscriptions, 0 ≤ sub.amountUsed ∧ sub.amountUsed ≤ maxInt64
  past : ∀ entry ∈ m.entries, ∀ sub ∈ m.store.subscriptions, sub.id = entry.subscriptionId →
    entry.period ≤ sub.resetBase
  balanced : ∀ sub ∈ m.store.subscriptions, sub.amountUsed = periodUsage m.entries sub

open PeriodEntry

namespace PeriodBooks

variable {plans : AutoTable SubscriptionPlan (·.id)} {st : Store} {entries : List PeriodEntry}

variable (h : PeriodBooks plans ⟨st, entries⟩)
include h

theorem entryKeys : (entries.map (·.requestId)).Nodup := by
  have haligned := congrArg (map Prod.fst) h.aligned
  rw [map_map, map_map] at haligned
  have hkeys : entries.map (·.requestId) = st.preConsumes.map (·.requestId) := haligned
  rw [hkeys]
  exact h.unique

theorem later (hrows : RowsBy Later st.subscriptions rows) :
    PeriodBooks plans ⟨{ st with subscriptions := rows }, entries⟩ where
  plans := h.plans
  keys := by
    show (rows.map (·.id)).Nodup
    rw [hrows.map_column _ fun _ _ hr => hr.id]
    exact h.keys
  aligned := h.aligned
  unique := h.unique
  amounts := h.amounts
  bounds := by
    intro sub hsub
    obtain ⟨sub₀, hsub₀, hlater⟩ := hrows.mem hsub
    have hbound := h.bounds sub₀ hsub₀
    have hperiod := hlater.period
    unfold maxInt64 at *
    omega
  past := by
    intro entry hentry sub hsub hid
    obtain ⟨sub₀, hsub₀, hlater⟩ := hrows.mem hsub
    have hpast := h.past entry hentry sub₀ hsub₀ (hlater.id.symm.trans hid)
    have hperiod := hlater.period
    omega
  balanced := by
    intro sub hsub
    obtain ⟨sub₀, hsub₀, hlater⟩ := hrows.mem hsub
    rcases hlater.period with ⟨hperiod, hused⟩ | ⟨hperiod, hused⟩
    · rw [hused, h.balanced sub₀ hsub₀, periodUsage, periodUsage, hperiod, hlater.id]
    -- no request belongs to the new period yet
    rw [hused]
    refine (keyedSum_eq_zero fun entry hentry hkey => ?_).symm
    obtain ⟨hid, _⟩ := Prod.mk.inj hkey
    have hpast := h.past entry hentry sub₀ hsub₀ (hlater.id.symm.trans hid.symm)
    omega

theorem charge (hsub : sub ∈ st.subscriptions) (hamount : 0 < request.amount)
    (hfits : sub.amountUsed + request.amount ≤ maxInt64)
    (hnew : ∀ r ∈ st.preConsumes, r.requestId ≠ request.requestId) :
    PeriodBooks plans
      ⟨{ st with
          subscriptions := saveRow (·.id) (sub.charged request.amount) st.subscriptions
          preConsumes := st.preConsumes ++ [request.record sub.id] },
        entries ++ [⟨request.requestId, sub.id, sub.resetBase, request.amount⟩]⟩ := by
  have hbound := h.bounds sub hsub
  have hused : (sub.charged request.amount).amountUsed = sub.amountUsed + request.amount :=
    add64_eq (InInt64.of_nonneg (by omega) hfits)
  have hmaxA : request.amount ≤ maxInt64 := by omega
  refine ⟨h.plans, ?_, ?_, ?_, ?_, ?_, ?_, ?_⟩
  · show ((saveRow _ _ _).map _).Nodup
    rw [map_key_saveRow]
    exact h.keys
  · have haligned := h.aligned
    simp only [map_append, map_cons, map_nil]
    exact congrArg (· ++ _) haligned
  · show ((st.preConsumes ++ [request.record sub.id]).map _).Nodup
    rw [map_append]
    refine nodup_append.mpr ⟨h.unique, nodup_singleton _, fun a ha b hb => ?_⟩
    obtain ⟨r, hr, rfl⟩ := mem_map.mp ha
    rw [mem_singleton.mp hb]
    exact hnew r hr
  · intro record hrecord
    rcases mem_append.mp hrecord with hr | hr
    · exact h.amounts record hr
    · rw [mem_singleton.mp hr]
      exact ⟨hamount, hmaxA⟩
  · intro row hrow
    rcases mem_saveRow.mp hrow with ⟨hmem, -⟩ | ⟨rfl, -⟩
    · exact h.bounds row hmem
    · omega
  · intro entry hentry row hrow hid
    rcases mem_append.mp hentry with hentry | hentry
    · rcases mem_saveRow.mp hrow with ⟨hmem, -⟩ | ⟨rfl, -⟩
      · exact h.past entry hentry row hmem hid
      · exact h.past entry hentry sub hsub hid
    obtain rfl := mem_singleton.mp hentry
    rcases mem_saveRow.mp hrow with ⟨-, hne⟩ | ⟨rfl, -⟩
    · exact (hne hid).elim
    · exact Int.le_refl _
  intro row hrow
  rcases mem_saveRow.mp hrow with ⟨hmem, hne⟩ | ⟨rfl, -⟩
  · have hother : ¬ key ⟨request.requestId, sub.id, sub.resetBase, request.amount⟩ =
        (row.id, row.resetBase) := fun hkey => hne (Prod.mk.inj hkey).1.symm
    rw [h.balanced row hmem, periodUsage_append, if_neg hother, Int.add_zero]
  · rw [hused, h.balanced sub hsub, periodUsage_append]
    exact congrArg _ (if_pos rfl).symm

/-- A request has consumed more or less, in the period it belongs to. -/
theorem adjust (hsub : sub ∈ st.subscriptions) (hentry : entry ∈ entries)
    (hid : sub.id = entry.subscriptionId) (hperiod : entry.period = sub.resetBase)
    (hfits : 0 ≤ sub.amountUsed + delta ∧ sub.amountUsed + delta ≤ maxInt64) :
    PeriodBooks plans
      ⟨st.saveSubscription { sub with amountUsed := sub.amountUsed + delta },
        saveRow (·.requestId) { entry with net := entry.net + delta } entries⟩ := by
  have hsum : ∀ k, keyedSum key (·.net) k
      (saveRow (·.requestId) { entry with net := entry.net + delta } entries) =
      keyedSum key (·.net) k entries +
        if (sub.id, sub.resetBase) = k then delta else 0 := by
    intro k
    have hsave : keyedSum key (·.net) k
        (saveRow (·.requestId) { entry with net := entry.net + delta } entries) +
        (if entry.key = k then entry.net else 0) =
        keyedSum key (·.net) k entries +
        (if entry.key = k then entry.net + delta else 0) :=
      keyedSum_saveRow h.entryKeys hentry rfl
    have hkey : (sub.id, sub.resetBase) = entry.key := by rw [hid, ← hperiod, key]
    rw [hkey]
    split <;> rename_i heq <;> simp only [heq, if_true, if_false] at hsave <;> omega
  refine ⟨h.plans, ?_, ?_, h.unique, h.amounts, ?_, ?_, ?_⟩
  · show ((saveRow _ _ _).map _).Nodup
    rw [map_key_saveRow]
    exact h.keys
  · refine Eq.trans (map_saveRow _ fun e he hreq => ?_) h.aligned
    rw [eq_of_key h.entryKeys he hentry hreq]
  · intro row hrow
    rcases mem_saveRow.mp hrow with ⟨hmem, -⟩ | ⟨rfl, -⟩
    · exact h.bounds row hmem
    · exact hfits
  · intro e he row hrow hrowID
    obtain ⟨e₀, he₀, hsame⟩ : ∃ e₀ ∈ entries, e.key = e₀.key := by
      rcases mem_saveRow.mp he with ⟨he, -⟩ | ⟨rfl, -⟩
      · exact ⟨e, he, rfl⟩
      · exact ⟨entry, hentry, rfl⟩
    obtain ⟨hsubID, hperiods⟩ := Prod.mk.inj hsame
    rw [hperiods]
    rcases mem_saveRow.mp hrow with ⟨hmem, -⟩ | ⟨rfl, -⟩
    · exact h.past e₀ he₀ row hmem (hrowID.trans hsubID)
    · exact h.past e₀ he₀ sub hsub (hrowID.trans hsubID)
  intro row hrow
  rw [periodUsage, hsum]
  rcases mem_saveRow.mp hrow with ⟨hmem, hne⟩ | ⟨rfl, -⟩
  · rw [if_neg fun hkey => hne (Prod.mk.inj hkey).1.symm, Int.add_zero]
    exact h.balanced row hmem
  show sub.amountUsed + delta = _
  rw [h.balanced sub hsub]
  exact congrArg _ (if_pos rfl).symm

theorem records (hrecord : record ∈ st.preConsumes) (now : Int) :
    PeriodBooks plans ⟨st.savePreConsume (record.refunded now), entries⟩ := by
  refine ⟨h.plans, h.keys, h.aligned.trans ?_, ?_, ?_, h.bounds, h.past, h.balanced⟩
  · refine (map_saveRow _ fun r hr hreq => ?_).symm
    rw [eq_of_key h.unique hr hrecord hreq]
    rfl
  · show ((saveRow _ _ _).map _).Nodup
    rw [map_key_saveRow]
    exact h.unique
  intro r hr
  rcases mem_saveRow.mp hr with ⟨hr, -⟩ | ⟨rfl, -⟩
  · exact h.amounts r hr
  · exact h.amounts record hrecord

end PeriodBooks

/-! ## Runs in which requests keep to their periods -/

/-- The subscription of the request is still in the period of the request, and
the difference can be booked in full. -/
def InOwnPeriod (m : Metered) (entry : PeriodEntry) (delta : Int) : Prop :=
  ∀ sub ∈ m.store.subscriptions, sub.id = entry.subscriptionId → entry.period = sub.resetBase ∧
    0 ≤ sub.amountUsed + delta ∧ sub.amountUsed + delta ≤ maxInt64

/-- Settlements and refunds come in the period of their request, and no request
outruns every subscription it may draw on. -/
def PeriodOp.KeepsPeriods (m : Metered) : PeriodOp → Prop
  | .preConsume cfg request =>
      (∀ sub ∈ m.store.subscriptions, sub.amountUsed + request.amount ≤ maxInt64) ∧
      request.Served cfg m.store
  | .settle requestID delta => ∀ entry ∈ m.entries, entry.requestId = requestID →
      InOwnPeriod m entry delta
  | .refund _ requestID => ∀ entry ∈ m.entries, entry.requestId = requestID →
      ∀ record ∈ m.store.preConsumes, record.requestId = requestID → record.status = .consumed →
        InOwnPeriod m entry (-record.preConsumed)
  | .resetDue .. => True

instance : Decidable (InOwnPeriod m entry delta) :=
  inferInstanceAs (Decidable (∀ sub ∈ m.store.subscriptions, _))

instance (m : Metered) : ∀ op : PeriodOp, Decidable (op.KeepsPeriods m)
  | .preConsume .. => inferInstanceAs (Decidable (_ ∧ _))
  | .settle .. => inferInstanceAs (Decidable (∀ entry ∈ m.entries, _))
  | .refund .. => inferInstanceAs (Decidable (∀ entry ∈ m.entries, _))
  | .resetDue .. => isTrue trivial

def PeriodOp.Forward (plans : AutoTable SubscriptionPlan (·.id)) : PeriodOp → Prop
  | .preConsume cfg _ | .resetDue cfg .. => ForwardResets cfg plans
  | .settle .. | .refund .. => True

namespace PeriodBooks

variable {plans : AutoTable SubscriptionPlan (·.id)} {m : Metered}

variable (h : PeriodBooks plans m)
include h

theorem preConsume (hforward : ForwardResets cfg plans)
    (hkeeps : (PeriodOp.preConsume cfg request).KeepsPeriods m) :
    PeriodBooks plans (m.preConsume cfg request) := by
  obtain ⟨st, entries⟩ := m
  obtain ⟨hfits, hserved⟩ := hkeeps
  obtain rfl : st.plans = plans := h.plans
  have hcases := preConsume_cases h.keys cfg request
  unfold Metered.preConsume
  dsimp only at hserved hcases ⊢
  generalize preConsumeUserSubscription cfg request st = outcome at hcases ⊢
  cases hcases with
  | refused => exact h
  | again hrecord =>
    rw [hrecord]
    exact h
  | @charged rows sub hamount hnone hrows hsub =>
    have hlater := hrows.mono fun _ _ _ hr => hr.later hforward
    have hfitsS : sub.amountUsed + request.amount ≤ maxInt64 := by
      obtain ⟨sub₀, hsub₀, hl⟩ := hlater.mem hsub
      have := h.bounds sub₀ hsub₀
      have := hfits sub₀ hsub₀
      have := hl.period
      omega
    have hbooks := (h.later hlater).charge hsub hamount hfitsS (preConsume?_eq_none hnone)
    have hperiod : currentPeriod { st with
        subscriptions := saveRow (·.id) (sub.charged request.amount) rows
        preConsumes := st.preConsumes ++ [request.record sub.id] } sub.id = sub.resetBase := by
      have hmem : sub.charged request.amount ∈
          saveRow (·.id) (sub.charged request.amount) rows :=
        mem_saveRow.mpr (.inr ⟨rfl, sub, hsub, rfl⟩)
      have hfind : (saveRow (·.id) (sub.charged request.amount) rows).find? (·.id = sub.id) =
          some (sub.charged request.amount) := find?_of_mem hbooks.keys hmem
      rw [currentPeriod, Store.subscription?, hfind]
      rfl
    simp only [hnone, Option.isSome_none, Bool.false_eq_true, if_false]
    show PeriodBooks _ ⟨_, entries ++ [⟨request.requestId, sub.id, currentPeriod _ sub.id, _⟩]⟩
    rw [hperiod]
    exact hbooks
  | exhausted _ _ _ hnot => exact (hnot hserved).elim

/-- The difference is booked in full in its own period. -/
theorem settled (hentry : entry ∈ m.entries) (hkeeps : InOwnPeriod m entry delta)
    (hrun : (postConsumeUserSubscriptionDelta entry.subscriptionId delta).run m.store =
      .ok ((), st')) : PeriodBooks plans ⟨st', m.adjusted entry delta⟩ := by
  obtain ⟨st, entries⟩ := m
  rcases postConsume_ok hrun with ⟨rfl, rfl⟩ | ⟨sub, hsub, -, rfl⟩
  · rw [Metered.adjusted, Int.add_zero, saveRow_self h.entryKeys hentry]
    exact h
  have hmem : sub ∈ st.subscriptions := mem_of_find?_eq_some hsub
  have hid : sub.id = entry.subscriptionId := Store.subscription?_id hsub
  obtain ⟨hperiod, hfits⟩ := hkeeps sub hmem hid
  have hused : sub.usedAfter delta = sub.amountUsed + delta := by
    unfold UserSubscription.usedAfter
    rw [add64_eq (InInt64.of_nonneg hfits.1 hfits.2)]
    exact if_neg (not_lt.mpr hfits.1)
  rw [hused]
  exact h.adjust hmem hentry hid hperiod hfits

theorem settle (hkeeps : (PeriodOp.settle requestID delta).KeepsPeriods m) :
    PeriodBooks plans (m.settle requestID delta) := by
  unfold Metered.settle
  cases hentry : m.entries.find? (·.requestId = requestID) with
  | none => exact h
  | some entry =>
    have hmem : entry ∈ m.entries := mem_of_find?_eq_some hentry
    dsimp only
    cases hrun : (postConsumeUserSubscriptionDelta entry.subscriptionId delta).run m.store with
    | error => exact h
    | ok => exact h.settled hmem (hkeeps entry hmem (by simpa using find?_some hentry)) hrun

theorem refund (hkeeps : (PeriodOp.refund now requestID).KeepsPeriods m) :
    PeriodBooks plans (m.refund now requestID) := by
  have hcases := refundPreConsume_cases now requestID m.store
  unfold Metered.refund
  generalize refundSubscriptionPreConsume .none now requestID m.store = outcome at hcases ⊢
  cases hcases with
  | refused => exact h
  | already hrecord hstatus =>
    cases m.entries.find? (·.requestId = requestID) with
    | none =>
      rw [hrecord]
      exact h
    | some =>
      simp only [hrecord, hstatus, if_true]
      exact h
  | nothing hrecord =>
    have := h.amounts _ (mem_of_find?_eq_some hrecord)
    omega
  | @lowered record st₁ hrecord hstatus hamount hrun =>
    obtain ⟨hmem, hid⟩ := preConsume?_some hrecord
    have hmax := (h.amounts record hmem).2
    rw [neg64_eq ⟨by omega, by omega⟩] at hrun
    -- the entry of the request is there, and of the same subscription
    have haligned : (requestID, record.userSubscriptionId) ∈
        m.entries.map fun entry => (entry.requestId, entry.subscriptionId) := by
      rw [h.aligned, ← hid]
      exact mem_map_of_mem hmem
    obtain ⟨entry, hentry, hpair⟩ := mem_map.mp haligned
    obtain ⟨hrequest, hsubID⟩ := Prod.mk.inj hpair
    have hfind : m.entries.find? (·.requestId = requestID) = some entry := by
      rw [← hrequest]
      exact find?_of_mem h.entryKeys hentry
    have hconsumed : record.status = .consumed := by
      cases hs : record.status with
      | consumed => rfl
      | refunded => exact (hstatus hs).elim
    rw [← hsubID] at hrun
    have hbooks := h.settled hentry (hkeeps entry hentry hrequest record hmem hid hconsumed) hrun
    simp only [hrecord, hfind, hstatus, if_false]
    refine hbooks.records ?_ now
    rw [postConsume_records hrun]
    exact hmem

theorem resetDue (hforward : ForwardResets cfg plans) (fuel : Nat) (limit now : Int) :
    PeriodBooks plans { m with store := resetDueSubscriptions cfg fuel limit now m.store } := by
  obtain ⟨st, entries⟩ := m
  obtain rfl : st.plans = plans := h.plans
  obtain ⟨rows, hrows, heq⟩ := resetDueEach_rows h.keys cfg fuel now _
  rw [resetDueSubscriptions, heq]
  exact h.later (hrows.mono fun _ _ _ hr => hr.later hforward)

/-- **One operation** that keeps to the periods keeps the books. -/
theorem step {op : PeriodOp} (hforward : op.Forward plans) (hkeeps : op.KeepsPeriods m) :
    PeriodBooks plans (op.step m) := by
  cases op with
  | preConsume => exact h.preConsume hforward hkeeps
  | settle => exact h.settle hkeeps
  | refund => exact h.refund hkeeps
  | resetDue _ fuel limit now => exact h.resetDue hforward fuel limit now

end PeriodBooks

/-- **A period counts its own requests.** From subscriptions that are not used
yet, along every run whose settlements and refunds come in the periods of their
requests, `AmountUsed` is what the requests since the last reset have
consumed. -/
theorem amountUsed_eq_periodUsage {st : Store} (hkeys : (st.subscriptions.map (·.id)).Nodup)
    (hrecords : st.preConsumes = []) (hfresh : ∀ sub ∈ st.subscriptions, sub.amountUsed = 0)
    {ops : List PeriodOp} (hforward : ∀ op ∈ ops, op.Forward st.plans)
    (hkeeps : Along PeriodOp.step (fun m op => op.KeepsPeriods m) ⟨st, []⟩ ops) :
    ∀ sub ∈ (exec PeriodOp.step ⟨st, []⟩ ops).store.subscriptions,
      sub.amountUsed = periodUsage (exec PeriodOp.step ⟨st, []⟩ ops).entries sub := by
  have hstart : PeriodBooks st.plans ⟨st, []⟩ := by
    refine ⟨rfl, hkeys, ?_, ?_, ?_, ?_, ?_, ?_⟩
    · simp [hrecords]
    · simp [hrecords]
    · simp [hrecords]
    · intro sub hsub
      rw [hfresh sub hsub]
      decide
    · simp
    · exact hfresh
  have hbooks : PeriodBooks st.plans (exec PeriodOp.step ⟨st, []⟩ ops) := by
    have hboth := along_and.mpr ⟨along_of_forall hforward, hkeeps⟩
    exact Along.invariant (PeriodBooks st.plans) (fun m op h hop => h.step hop.1 hop.2) hstart hboth
  exact hbooks.balanced

/-! ## A request of the period before -/

/-- One subscription of 100 a day, from the first second on. -/
def dailyStore : Store :=
  Store.insertPlan
    { subscriptions := [
        { id := 1, userId := 1, planId := 1, amountTotal := 100, amountUsed := 0, startTime := 1,
          endTime := 864000, status := .active, source := .order, lastResetTime := 1,
          nextResetTime := 86400 }]
      nextSubscriptionID := 2 }
    { id := 0, totalAmount := 100, quotaResetPeriod := .daily }

def dailyRequest (requestID : String) (amount now : Int) : PreConsumeRequest where
  requestId := requestID
  userId := 1
  amount := amount
  now := now
  fuel := 5

/-- The usage of the subscription, and what its period has consumed. -/
def meterReading (ops : List PeriodOp) : Option (Int × Int) :=
  let m := exec PeriodOp.step ⟨dailyStore, []⟩ ops
  (m.store.subscription? 1).map fun sub => (sub.amountUsed, periodUsage m.entries sub)

theorem dailyStore_forward : ForwardResets sampleSettings dailyStore.plans := by
  rintro plan ⟨id, row, hrow, rfl⟩ base endUnix
  rw [dailyStore, Store.get_insertPlan] at hrow
  split at hrow
  · cases hrow
    show 0 < (if 0 < endUnix ∧ endUnix < (base / 86400 + 1) * 86400 then 0
      else (base / 86400 + 1) * 86400) → _ < (if 0 < endUnix ∧ endUnix < (base / 86400 + 1) * 86400
      then 0 else (base / 86400 + 1) * 86400)
    split <;> omega
  · cases hrow

/-- A request that is settled and one that is refunded, each in its period. -/
theorem amountUsed_eq_periodUsage_sample :
    let ops : List PeriodOp := [.preConsume sampleSettings (dailyRequest "a" 40 100),
      .settle "a" 10, .resetDue sampleSettings 5 0 86401,
      .preConsume sampleSettings (dailyRequest "b" 30 86402),
      .preConsume sampleSettings (dailyRequest "c" 20 86403), .refund 86404 "b"]
    meterReading ops = some (20, 20) ∧
      ∀ sub ∈ (exec PeriodOp.step ⟨dailyStore, []⟩ ops).store.subscriptions,
        sub.amountUsed = periodUsage (exec PeriodOp.step ⟨dailyStore, []⟩ ops).entries sub := by
  refine ⟨by decide +kernel, amountUsed_eq_periodUsage (by decide) rfl (by decide) ?_ ?_⟩
  · simp [PeriodOp.Forward, dailyStore_forward]
  · decide +kernel

/-- The first request takes 40 before the reset, the second 30 after it. The
refund of the first is taken off the new period, which then has used nothing. -/
theorem refund_after_reset_lowers_new_period :
    meterReading [.preConsume sampleSettings (dailyRequest "a" 40 100),
      .resetDue sampleSettings 5 0 86401, .preConsume sampleSettings (dailyRequest "b" 30 86402),
      .refund 86403 "a"] = some (0, 30) := by
  decide +kernel

end HermesToken.Subscription
