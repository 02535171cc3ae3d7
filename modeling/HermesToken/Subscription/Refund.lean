import HermesToken.Subscription.Usage

/-!
# Refunds of pre-consumed quota

`RefundSubscriptionPreConsume` of `model/subscription.go` and its caller
`SubscriptionFunding.Refund`, which tries up to three times. The usage is
changed by a transaction of its own inside the one that saves the record of the
request, so the change stays when the record is not saved: then the next
attempt changes the usage again.
-/

namespace HermesToken.Subscription

open Lib List

variable {record : SubscriptionPreConsumeRecord} {subscriptionID : Int} {requestID : String}

/-- Where the database can fail in an attempt. -/
inductive RefundPoint where
  | usage | record | commit
  deriving DecidableEq

/-- The errors of the database in one attempt. -/
abbrev RefundFaults := RefundPoint → Option SubError

def RefundFaults.none : RefundFaults := fun _ => Option.none

def SubscriptionPreConsumeRecord.refunded (record : SubscriptionPreConsumeRecord) (now : Int) :
    SubscriptionPreConsumeRecord :=
  { record with status := .refunded, updatedAt := now }

/-- The end of the transaction: the record is saved and the transaction
commits. -/
def saveRefunded (faults : RefundFaults) (now : Int) (record : SubscriptionPreConsumeRecord)
    (st : Store) : Except SubError Unit × Store :=
  match faults .record, faults .commit with
  | some e, _ => (.error e, st)
  | Option.none, some e => (.error e, st)
  | Option.none, Option.none => (.ok (), st.savePreConsume (record.refunded now))

def refundUsage (faults : RefundFaults) (record : SubscriptionPreConsumeRecord) (st : Store) :
    Except SubError Store :=
  match faults .usage with
  | some e => .error e
  | Option.none => ((postConsumeUserSubscriptionDelta record.userSubscriptionId
      (neg64 record.preConsumed)).run st).map (·.2)

def refundSubscriptionPreConsume (faults : RefundFaults) (now : Int) (requestID : String)
    (st : Store) : Except SubError Unit × Store :=
  if trimSpace requestID = "" then (.error (.text "requestId is empty"), st)
  else match st.preConsume? requestID with
  | Option.none => (.error .recordNotFound, st)
  | some record =>
    if record.status = .refunded then
      match faults .commit with
      | some e => (.error e, st)
      | Option.none => (.ok (), st)
    else if record.preConsumed ≤ 0 then saveRefunded faults now record st
    else match refundUsage faults record st with
    | .error e => (.error e, st)
    | .ok st' => saveRefunded faults now record st'

/-- One attempt of the retrying caller. -/
structure RefundAttempt where
  now : Int
  faults : RefundFaults

/-- `refundWithRetry` of `service/funding_source.go`, with the attempts it has
left. -/
def refundWithRetry (requestID : String) :
    List RefundAttempt → Except SubError Unit → Store → Except SubError Unit × Store
  | [], lastErr, st => (lastErr, st)
  | attempt :: attempts, _, st =>
    match refundSubscriptionPreConsume attempt.faults attempt.now requestID st with
    | (.ok (), st') => (.ok (), st')
    | (.error e, st') => refundWithRetry requestID attempts (.error e) st'

def maxAttempts : Nat := 3

/-- `SubscriptionFunding.Refund`. -/
def subscriptionFundingRefund (requestID : String) (preConsumed : Int)
    (attempt : Fin maxAttempts → RefundAttempt) (st : Store) : Except SubError Unit × Store :=
  if preConsumed ≤ 0 then (.ok (), st)
  else refundWithRetry requestID (List.ofFn attempt) (.ok ()) st

/-! ## One attempt -/

/-- How a request stands: the state of its record, its amount and subscription,
and what is used of the subscription. -/
def RequestStands (requestID : String) (subscriptionID amount : Int) (status : PreConsumeStatus)
    (used : Int) (st : Store) : Prop :=
  ∃ record, st.preConsume? requestID = some record ∧ record.status = status ∧
    record.preConsumed = amount ∧ record.userSubscriptionId = subscriptionID ∧
    st.usage subscriptionID = some used

/-- Nothing fails once the usage was written. -/
def RefundFaults.OnlyUsage (faults : RefundFaults) : Prop :=
  faults .record = Option.none ∧ faults .commit = Option.none

section

variable {requestID : String} {subscriptionID amount used : Int} {faults : RefundFaults}
  {now : Int} {st : Store}

theorem usedAfter_neg {sub : UserSubscription} (hamt : 0 < amount ∧ amount ≤ maxInt64)
    (hused : 0 ≤ sub.amountUsed ∧ sub.amountUsed ≤ maxInt64) :
    sub.usedAfter (-amount) = max (sub.amountUsed - amount) 0 := by
  have hadd : add64 sub.amountUsed (-amount) = sub.amountUsed - amount :=
    add64_eq ⟨by omega, by omega⟩
  unfold UserSubscription.usedAfter
  dsimp only
  split <;> omega

theorem refundUsage_ok (husage : st.usage record.userSubscriptionId = some used)
    (hamt : 0 < record.preConsumed ∧ record.preConsumed ≤ maxInt64)
    (hused : 0 ≤ used ∧ used ≤ maxInt64) (h : refundUsage faults record st = .ok st') :
    st'.usage record.userSubscriptionId = some (max (used - record.preConsumed) 0) := by
  have hneg : neg64 record.preConsumed = -record.preConsumed := neg64_eq ⟨by omega, by omega⟩
  unfold refundUsage at h
  split at h
  · cases h
  obtain ⟨⟨⟨⟩, st₁⟩, hrun, rfl⟩ := map_ok.mp h
  rw [hneg] at hrun
  rcases postConsume_ok hrun with ⟨_, -⟩ | ⟨sub, hsub, -, rfl⟩
  · omega
  obtain rfl : sub.amountUsed = used := by simpa [Store.usage, hsub] using husage
  rw [usedAfter_neg hamt hused]
  exact Store.usage_saveSubscription hsub _

theorem refundUsage_records (h : refundUsage faults record st = .ok st') :
    st'.preConsumes = st.preConsumes := by
  unfold refundUsage at h
  split at h
  · cases h
  · obtain ⟨⟨⟨⟩, st₁⟩, hrun, rfl⟩ := map_ok.mp h
    exact postConsume_records hrun

theorem preConsume?_savePreConsume (h : st.preConsume? requestID = some record) :
    (st.savePreConsume (record.refunded now)).preConsume? requestID =
      some (record.refunded now) := by
  have hid : record.requestId = requestID := by simpa using find?_some h
  have hfind : (st.savePreConsume (record.refunded now)).preConsume? requestID =
      (st.preConsume? requestID).map fun row =>
        if (record.refunded now).requestId = requestID then record.refunded now else row :=
    find?_saveRow (record.refunded now) requestID st.preConsumes
  rw [hfind, h, Option.map_some, if_pos (show (record.refunded now).requestId = _ from hid)]

/-- **An attempt that does not fail late** refunds the request once and says so,
or it does nothing and says so. -/
theorem refundPreConsume_of_consumed (now : Int) (hfault : faults.OnlyUsage)
    (hamt : 0 < amount ∧ amount ≤ maxInt64) (hused : 0 ≤ used ∧ used ≤ maxInt64)
    (h : RequestStands requestID subscriptionID amount .consumed used st) :
    (∃ e, refundSubscriptionPreConsume faults now requestID st = (.error e, st)) ∨
      ∃ st', refundSubscriptionPreConsume faults now requestID st = (.ok (), st') ∧
        RequestStands requestID subscriptionID amount .refunded (max (used - amount) 0) st' := by
  obtain ⟨record, hrec, hstat, rfl, rfl, husage⟩ := h
  unfold refundSubscriptionPreConsume
  by_cases hblank : trimSpace requestID = ""
  · exact .inl ⟨_, if_pos hblank⟩
  rw [if_neg hblank]
  simp only [hrec, hstat, reduceCtorEq, if_false, if_neg (not_le.mpr hamt.1)]
  cases husg : refundUsage faults record st with
  | error e => exact .inl ⟨e, rfl⟩
  | ok st₁ =>
  have hused₁ := refundUsage_ok husage hamt hused husg
  refine .inr ⟨st₁.savePreConsume (record.refunded now), ?_, record.refunded now, ?_, rfl, rfl,
    rfl, hused₁⟩
  · simp only [saveRefunded, hfault.1, hfault.2]
  refine preConsume?_savePreConsume ?_
  rw [Store.preConsume?, refundUsage_records husg]
  exact hrec

theorem refundPreConsume_of_refunded
    (h : RequestStands requestID subscriptionID amount .refunded used st) :
    (refundSubscriptionPreConsume faults now requestID st).2 = st := by
  obtain ⟨record, hrec, hstat, -⟩ := h
  unfold refundSubscriptionPreConsume
  split
  · rfl
  · simp only [hrec, hstat, if_true]
    cases faults .commit <;> rfl

end

/-- All that a refund can come to when the database does not fail. -/
inductive Refunding (now : Int) (requestID : String) (st : Store) :
    Except SubError Unit × Store → Prop
  | refused (e : SubError) : Refunding now requestID st (.error e, st)
  | already {record : SubscriptionPreConsumeRecord}
      (hrec : st.preConsume? requestID = some record) (hstat : record.status = .refunded) :
      Refunding now requestID st (.ok (), st)
  | nothing {record : SubscriptionPreConsumeRecord}
      (hrec : st.preConsume? requestID = some record) (hstat : record.status ≠ .refunded)
      (hamt : record.preConsumed ≤ 0) :
      Refunding now requestID st (.ok (), st.savePreConsume (record.refunded now))
  | lowered {record : SubscriptionPreConsumeRecord} {st₁ : Store}
      (hrec : st.preConsume? requestID = some record) (hstat : record.status ≠ .refunded)
      (hamt : 0 < record.preConsumed)
      (hrun : (postConsumeUserSubscriptionDelta record.userSubscriptionId
        (neg64 record.preConsumed)).run st = .ok ((), st₁)) :
      Refunding now requestID st (.ok (), st₁.savePreConsume (record.refunded now))

theorem refundPreConsume_cases (now : Int) (requestID : String) (st : Store) :
    Refunding now requestID st (refundSubscriptionPreConsume .none now requestID st) := by
  unfold refundSubscriptionPreConsume
  split
  · exact .refused _
  split
  · exact .refused _
  rename_i record hrec
  by_cases hstat : record.status = .refunded
  · rw [if_pos hstat]
    exact .already hrec hstat
  rw [if_neg hstat]
  by_cases hamt : record.preConsumed ≤ 0
  · rw [if_pos hamt]
    exact .nothing hrec hstat hamt
  rw [if_neg hamt]
  cases husg : refundUsage .none record st with
  | error e => exact .refused e
  | ok =>
    obtain ⟨⟨⟨⟩, st₂⟩, hrun, rfl⟩ := map_ok.mp husg
    exact .lowered hrec hstat (not_le.mp hamt) hrun

/-! ## The retrying caller -/

theorem refundWithRetry_of_refunded
    (h : RequestStands requestID subscriptionID amount .refunded used st)
    (attempts : List RefundAttempt) (lastErr : Except SubError Unit) :
    (refundWithRetry requestID attempts lastErr st).2 = st := by
  induction attempts generalizing lastErr with
  | nil => rfl
  | cons attempt attempts ih =>
  have hstay : (refundSubscriptionPreConsume attempt.faults attempt.now requestID st).2 = st :=
    refundPreConsume_of_refunded h
  unfold refundWithRetry
  cases hatt : refundSubscriptionPreConsume attempt.faults attempt.now requestID st with
  | mk answer st' =>
    rw [hatt] at hstay
    subst hstay
    cases answer with
    | ok _ => rfl
    | error e => exact ih (.error e)

/-- The attempts that `refundWithRetry` makes: the first success ends it. -/
def attemptsMade (requestID : String) : List RefundAttempt → Store → List RefundAttempt
  | [], _ => []
  | attempt :: attempts, st =>
    attempt :: match refundSubscriptionPreConsume attempt.faults attempt.now requestID st with
    | (.ok (), _) => []
    | (.error _, st') => attemptsMade requestID attempts st'

/-- The attempts together do what one of them does. -/
theorem refundWithRetry_of_consumed
    (hamt : 0 < amount ∧ amount ≤ maxInt64) (hused : 0 ≤ used ∧ used ≤ maxInt64)
    (h : RequestStands requestID subscriptionID amount .consumed used st)
    (hfault : ∀ a ∈ attemptsMade requestID attempts st, a.faults.OnlyUsage) (lastErr : SubError) :
    (∃ e, refundWithRetry requestID attempts (.error lastErr) st = (.error e, st)) ∨
      ∃ st', refundWithRetry requestID attempts (.error lastErr) st = (.ok (), st') ∧
        RequestStands requestID subscriptionID amount .refunded (max (used - amount) 0) st' := by
  induction attempts generalizing lastErr with
  | nil => exact .inl ⟨lastErr, rfl⟩
  | cons attempt _ ih =>
  unfold refundWithRetry
  rcases refundPreConsume_of_consumed attempt.now
    (hfault attempt mem_cons_self) hamt hused h with ⟨e, he⟩ | ⟨st', hok, husage⟩
  · rw [he]
    refine ih (fun a ha => hfault a (mem_cons_of_mem _ ?_)) e
    rw [he]
    exact ha
  · rw [hok]
    exact .inr ⟨st', rfl, husage⟩

/-- `SubscriptionFunding.Refund` called again and again: what the calls report,
and the tables. -/
def refundCalls (requestID : String) (preConsumed : Int) :
    List (Fin maxAttempts → RefundAttempt) → Store → List (Except SubError Unit) × Store
  | [], st => ([], st)
  | call :: calls, st =>
    let (report, st') := subscriptionFundingRefund requestID preConsumed call st
    let (reports, st'') := refundCalls requestID preConsumed calls st'
    (report :: reports, st'')

/-- The attempts of all the calls. -/
def callsMade (requestID : String) (preConsumed : Int) :
    List (Fin maxAttempts → RefundAttempt) → Store → List RefundAttempt
  | [], _ => []
  | call :: calls, st => attemptsMade requestID (ofFn call) st ++
    callsMade requestID preConsumed calls
      (subscriptionFundingRefund requestID preConsumed call st).2

section

variable {requestID : String} {subscriptionID amount used : Int} {st : Store}

theorem refundCalls_of_refunded
    (h : RequestStands requestID subscriptionID amount .refunded used st) :
    (refundCalls requestID amount calls st).2 = st := by
  induction calls with
  | nil => rfl
  | cons call _ ih =>
  have hstay : (subscriptionFundingRefund requestID amount call st).2 = st := by
    unfold subscriptionFundingRefund
    split
    · rfl
    · exact refundWithRetry_of_refunded h _ _
  simp only [refundCalls, hstay, ih]

/-- **A refund is made once.** As long as nothing fails between the commit of
the usage and the commit of the record, the usage has fallen by the amount of
the request, or to zero, if a call has reported success, and not at all if none
has. -/
theorem subscription_refund_once (hamount : 0 < amount ∧ amount ≤ maxInt64)
    (hused : 0 ≤ used ∧ used ≤ maxInt64)
    (h : RequestStands requestID subscriptionID amount .consumed used st)
    (calls : List (Fin maxAttempts → RefundAttempt))
    (hfaults : ∀ a ∈ callsMade requestID amount calls st, a.faults.OnlyUsage) :
    (refundCalls requestID amount calls st).2.usage subscriptionID =
      some (if (refundCalls requestID amount calls st).1.any (·.isOk) then
        max (used - amount) 0 else used) := by
  induction calls with
  | nil =>
    obtain ⟨-, -, -, -, -, hstands⟩ := h
    simpa [refundCalls] using hstands
  | cons call _ ih =>
  -- the call has an attempt, so what the loop starts with is not reported
  have hcall : subscriptionFundingRefund requestID amount call st =
      refundWithRetry requestID (ofFn call) (.error .unfinished) st := by
    obtain ⟨a, as, _⟩ : ∃ a as, ofFn call = a :: as := ⟨_, _, ofFn_succ⟩
    rw [subscriptionFundingRefund, if_neg (not_le.mpr hamount.1)]
    rfl
  rcases refundWithRetry_of_consumed hamount hused h
    (fun a ha => hfaults a (mem_append_left _ ha)) .unfinished with ⟨e, he⟩ | ⟨st', hok, hstands⟩
  · simp only [refundCalls, hcall, he, any_cons, Except.isOk, Except.toBool,
      Bool.false_or]
    refine ih fun a ha => hfaults a (mem_append_right _ ?_)
    rw [hcall, he]
    exact ha
  simp only [refundCalls, hcall, hok, any_cons, Except.isOk, Except.toBool, Bool.true_or, if_true]
  rw [refundCalls_of_refunded hstands]
  obtain ⟨-, -, -, -, -, hlowered⟩ := hstands
  exact hlowered

end

/-! ## A late failure -/

/-- A request that took 40 of the 100 that are used. -/
def takenStore : Store where
  subscriptions := [
    { id := 1, userId := 1, planId := 1, amountTotal := 200, amountUsed := 100, startTime := 0,
      endTime := 1000, status := .active, source := .order }]
  nextSubscriptionID := 2
  preConsumes := [
    { requestId := "r", userId := 1, userSubscriptionId := 1, preConsumed := 40,
      status := .consumed }]

/-- The usage cannot be written at first. The second attempt succeeds; the third,
whose commit would fail, is not made. -/
theorem subscription_refund_once_second_attempt : (refundCalls "r" 40 [fun i =>
      ⟨10, fun p => if i.val = 0 ∧ p = .usage ∨ i.val = 2 then some (.text "busy") else none⟩]
      takenStore).2.usage 1 = some 60 := by
  have hstands : RequestStands "r" 1 40 .consumed 100 takenStore := ⟨_, rfl, rfl, rfl, rfl, rfl⟩
  refine (subscription_refund_once (by decide) (by decide) hstands _ ?_).trans ?_
  · intro attempt hmade
    rcases (show attempt ∈ [_, _] from hmade) with _ | ⟨_, _ | ⟨_, _ | _⟩⟩ <;> exact ⟨rfl, rfl⟩
  · decide +kernel

/-- The commit of the first attempt fails after the usage was committed. The
second attempt succeeds, and the usage has fallen twice. -/
theorem late_failure_refunds_twice :
    let call : Fin maxAttempts → RefundAttempt := fun i =>
      ⟨10, fun point => if point = .commit ∧ i.val = 0 then some (.text "commit") else none⟩
    let outcome := subscriptionFundingRefund "r" 40 call takenStore
    outcome.1.isOk = true ∧ takenStore.usage 1 = some 100 ∧ outcome.2.usage 1 = some 20 := by
  decide +kernel

end HermesToken.Subscription
