import Mathlib.Algebra.Order.BigOperators.Group.List
import Mathlib.Algebra.Ring.Int.Defs
import HermesToken.Lib.Run
import HermesToken.Billing.Effects

/-!
# Atomicity of a billing session

Runs of `Reserve`, `Settle` and `Refund` in any order, with the refund
goroutine interleaved and any balance operation failing. The accounts are
compared with what they were BEFORE the session was opened.

The session is in one of three phases. While it is `Live` both debits are the
pre-consumed quota. After a settlement they are the settled amount. After a
refund they are what the steps still to run will give back.
-/

namespace HermesToken.Billing

open Lib BillingSession List
open FundingSource (counted isSubscription subscription wallet)

variable {o : Faults} {a quota : Int} {ok : Bool} {acc acc' : Accounts} {f : FundingSource}

/-! ## Runs -/

/-- A terminal call whose funding step succeeded. A settlement also says
whether its token step did. -/
inductive Terminal where
  | settle (actualQuota : Int) (token : Bool)
  | refund
  deriving DecidableEq

/-- A session with its accounts and the refund steps still to run. `first` is
the first terminal call, `refundOk` says that no refund step has failed. -/
structure Request where
  session : BillingSession
  accounts : Accounts
  job : List RefundStep := []
  first : Option Terminal := none
  refundOk : Bool := true

/-- A call on the session, or the goroutine running its next step. -/
inductive Act where
  | reserve (targetQuota : Int) (o : Faults)
  | settle (actualQuota : Int) (o : Faults)
  | refund
  | work (ok : Bool) (tries : List Attempt)

/-- Whether a settlement went through. On a refunded session a settlement of
the pre-consumed quota has no funding step, so it is not one. -/
def settlement (s : BillingSession) (a : Int) (c : Call) : Option Terminal :=
  if s.settled = false ∧ c.session.settled = true ∧
      (s.refunded = false ∨ a ≠ s.preConsumedQuota) then
    some (.settle a c.result.isOk)
  else none

namespace Request

/-- The goroutine runs the first step it has left. -/
def work (b : Request) (ok : Bool) (tries : List Attempt) : Request :=
  match b.job with
  | [] => b
  | step :: rest =>
    let r := b.session.runRefundStep b.accounts ok tries step
    { b with
      accounts := r.1
      job := rest
      first := b.first.or
        (if step = .funding ∧ r.2.isOk = true then some .refund else none)
      refundOk := b.refundOk && r.2.isOk }

def step (b : Request) : Act → Request
  | .reserve t o =>
    let c := b.session.reserve b.accounts t o
    { b with session := c.session, accounts := c.accounts }
  | .settle a o =>
    let c := b.session.settle b.accounts a o
    { b with
      session := c.session
      accounts := c.accounts
      first := b.first.or (settlement b.session a c) }
  | .refund =>
    { b with session := b.session.refund.1, job := b.job ++ b.session.refund.2 }
  | .work ok tries => b.work ok tries

/-- What a run must not do: reserve without being able to undo it, settle a
different amount after a refund or below zero, or lose the record of a
subscription refund that went through. -/
def Safe (b : Request) : Act → Prop
  | .reserve t o => b.session.Undoable b.accounts t o
  | .settle a o =>
    b.session.settled = true ∨ a = b.session.preConsumedQuota ∨
      b.session.funding.accepts b.accounts (a - b.session.preConsumedQuota) o.funding = false ∨
      (b.session.refunded = false ∧
        b.session.funding.AboveZero b.accounts (a - b.session.preConsumedQuota))
  | .refund => True
  | .work _ tries => Recorded tries

instance (b : Request) : (act : Act) → Decidable (b.Safe act)
  | .reserve t o => inferInstanceAs (Decidable (b.session.Undoable b.accounts t o))
  | .settle _ _ => inferInstanceAs (Decidable (_ ∨ _ ∨ _ ∨ _))
  | .refund => isTrue trivial
  | .work _ tries => inferInstanceAs (Decidable (Recorded tries))

/-- The debits once a terminal call went through. -/
def Accounted (acc₀ : Accounts) (b : Request) : Prop :=
  match b.first with
  | none => True
  | some (.settle a token) =>
    fundingDebit b.session.funding acc₀ b.accounts = a ∧
      (token = true → tokenDebit acc₀ b.accounts = tokenShare b.session.relayInfo a)
  | some .refund =>
    b.refundOk = true →
      fundingDebit b.session.funding acc₀ b.accounts = 0 ∧
        tokenDebit acc₀ b.accounts = 0

/-- A terminal call has been made. -/
def Ended (b : Request) : Prop :=
  b.first ≠ none ∨ b.session.refunded = true

end Request

open Request

/-! ## Phases -/

/-- What the session counts as taken from its funding source. -/
def BillingSession.held (s : BillingSession) : Int :=
  match s.funding with
  | .wallet consumed => consumed
  | .subscription _ preConsumed => preConsumed + s.extraReserved

/-- The pre-consume record matches a subscription's count. -/
def BillingSession.OnRecord (s : BillingSession) (acc : Accounts) : Prop :=
  ∀ amount p, s.funding = .subscription amount p →
    0 < p ∧ acc.record = some { preConsumed := p }

/-- **Live.** Both debits are the pre-consumed quota. -/
structure Live (acc₀ : Accounts) (b : Request) : Prop where
  unsettled : b.session.settled = false
  unrefunded : b.session.refunded = false
  uncommitted : b.session.fundingSettled = false
  idle : b.job = []
  first : b.first = none
  refundOk : b.refundOk = true
  nonneg : 0 ≤ b.session.preConsumedQuota
  extra : 0 ≤ b.session.extraReserved
  consumed : b.session.tokenConsumed = b.session.preConsumedQuota
  held : b.session.held = b.session.preConsumedQuota
  onRecord : b.session.OnRecord b.accounts
  funding : fundingDebit b.session.funding acc₀ b.accounts = b.session.preConsumedQuota
  token : tokenDebit acc₀ b.accounts =
    tokenShare b.session.relayInfo b.session.preConsumedQuota

/-- **Settled.** The debits are the settled amount. -/
structure Settled (acc₀ : Accounts) (b : Request) : Prop where
  settled : b.session.settled = true
  idle : b.job = []
  accounted : b.Accounted acc₀
  first : ∃ a token, b.first = some (.settle a token)

/-- **Refunding.** As long as no step fails, the debits are what is owed. -/
structure Refunding (acc₀ : Accounts) (b : Request) : Prop where
  refunded : b.session.refunded = true
  uncommitted : b.session.fundingSettled = false
  first : b.first = none ∨ b.first = some .refund
  suffix : b.job <:+ b.session.refundJob
  held : 0 ≤ b.session.held ∧ 0 ≤ b.session.extraReserved
  onRecord : b.job = b.session.refundJob → b.session.OnRecord b.accounts
  owed : b.refundOk = true →
    fundingDebit b.session.funding acc₀ b.accounts =
        (b.job.map b.session.owedFunding).sum ∧
      tokenDebit acc₀ b.accounts = (b.job.map owedToken).sum

inductive Phase (acc₀ : Accounts) (b : Request) : Prop where
  | live (h : Live acc₀ b)
  | settled (h : Settled acc₀ b)
  | refunding (h : Refunding acc₀ b)

variable {acc₀ : Accounts} {b : Request} {s : BillingSession}

/-- The refund steps together give back all that is held. -/
theorem owedFunding_refundJob (h : 0 ≤ s.extraReserved) :
    (s.refundJob.map s.owedFunding).sum = s.held := by
  simp only [refundJob, laterSteps, held]
  cases hf : s.funding with
  | wallet =>
    split <;> split <;> simp_all [owedFunding, isSubscription]
  | subscription =>
    split <;> split <;>
      simp_all [owedFunding, isSubscription] <;> omega

theorem owedToken_refundJob (h : 0 ≤ s.tokenConsumed) :
    (s.refundJob.map owedToken).sum = tokenShare s.relayInfo s.tokenConsumed := by
  simp only [refundJob, laterSteps, tokenShare]
  split <;> split <;> split <;> simp_all [owedToken] <;> omega

/-- A live subscription has used at least what this session took. -/
theorem Live.aboveZero (h : Live acc₀ b) (h₀ : 0 ≤ acc₀.amountUsed) :
    b.session.funding.AboveZero b.accounts 0 := by
  intro hsub
  have hfund := h.funding
  have hpre := h.nonneg
  cases hf : b.session.funding with
  | wallet => simp [hf, isSubscription] at hsub
  | subscription =>
    simp only [fundingDebit, hf] at hfund
    omega

open Request

section

variable (h : Live acc₀ b)
include h

theorem Live.reserve (h₀ : 0 ≤ acc₀.amountUsed)
    (hsafe : b.session.Undoable b.accounts t o) : Live acc₀ (b.step (.reserve t o)) := by
  rcases reserve_spec t o hsafe (h.aboveZero h₀) with ⟨hs, hacc⟩ | ⟨delta, _, _, hs, hacc⟩
  · have hsame : b.step (.reserve t o) = b := by
      simp only [step, hs, hacc]
    rw [hsame]
    exact h
  have hstep : b.step (.reserve t o) =
      { b with
        session := b.session.reserved (b.session.funding.counted delta) delta
        accounts := (b.accounts.take b.session.funding delta).takeToken
          b.session.relayInfo delta } := by
    simp only [step, hs, hacc]
  have hkind : ∀ acc, fundingDebit (b.session.funding.counted delta) acc₀ acc =
      fundingDebit b.session.funding acc₀ acc := by
    intro acc
    cases b.session.funding <;> rfl
  rw [hstep]
  exact {
    unsettled := h.unsettled
    unrefunded := h.unrefunded
    uncommitted := h.uncommitted
    idle := h.idle
    first := h.first
    refundOk := h.refundOk
    nonneg := by
      have := h.nonneg
      simp only [reserved]
      omega
    extra := by
      have := h.extra
      simp only [reserved]
      omega
    consumed := by simp only [reserved, h.consumed]
    held := by
      have := h.held
      simp only [BillingSession.held, reserved] at this ⊢
      cases hf : b.session.funding <;> simp_all [counted]
      omega
    onRecord := by
      intro amount p hf
      have := h.onRecord amount p
      cases hfund : b.session.funding <;>
        simp_all [reserved, counted]
    funding := by
      simp only [reserved, hkind, fundingDebit_takeToken, fundingDebit_take, h.funding]
    token := by
      simp only [reserved, tokenDebit_takeToken, tokenDebit_take, h.token, tokenShare_add] }

theorem Live.settled_of (hc : b.session.settle b.accounts a o = c)
    (hset : c.session.settled) (hfund : c.session.funding = b.session.funding)
    (hinfo : c.session.relayInfo = b.session.relayInfo)
    (hdebit : fundingDebit b.session.funding acc₀ c.accounts = a) (htoken : c.result.isOk →
      tokenDebit acc₀ c.accounts = tokenShare b.session.relayInfo a) :
    Settled acc₀ (b.step (.settle a o)) := by
  have hfst : (b.step (.settle a o)).first = some (.settle a c.result.isOk) := by
    simp [step, hc, hset, settlement, h.first, h.unsettled, h.unrefunded]
  refine ⟨by simp [step, hc, hset], h.idle, ?_, a, _, hfst⟩
  simp only [Accounted, hfst]
  simp only [step, hc, hfund, hinfo]
  exact ⟨hdebit, htoken⟩

theorem Live.settle_stays (hs : (b.session.settle b.accounts a o).session = b.session)
    (hacc : (b.session.settle b.accounts a o).accounts = b.accounts) :
    b.step (.settle a o) = b := by
  simp [step, hs, hacc, settlement, h.unsettled]

theorem Live.settle_within
    (hz : b.session.funding.AboveZero b.accounts (a - b.session.preConsumedQuota)) :
    Phase acc₀ (b.step (.settle a o)) := by
  rcases settle_spec a o (fun _ => h.uncommitted) hz with
    ⟨hs, hacc⟩ | ⟨_, ha, hc⟩ | ⟨_, _, hs, hacc⟩
  · rw [h.settle_stays hs hacc]
    exact .live h
  · exact .settled (h.settled_of hc rfl rfl rfl (by rw [h.funding, ha])
      (fun _ => by rw [h.token, ha]))
  refine .settled (h.settled_of rfl (by rw [hs]) (by rw [hs]) (by rw [hs]) ?_ ?_)
  · rcases hacc with hacc | ⟨hacc, _⟩ <;>
      simp only [hacc, fundingDebit_takeToken, fundingDebit_take, h.funding] <;> omega
  intro hok
  rcases hacc with hacc | ⟨_, hfail⟩
  · simp only [hacc, tokenDebit_takeToken, tokenDebit_take, h.token, ← tokenShare_add]
    congr 1
    omega
  · rw [hfail] at hok
    cases hok

theorem Live.settle (h₀ : 0 ≤ acc₀.amountUsed) (hsafe : b.Safe (.settle a o)) :
    Phase acc₀ (b.step (.settle a o)) := by
  by_cases ha : a = b.session.preConsumedQuota
  · refine h.settle_within fun hsub => ?_
    have := h.aboveZero h₀ hsub
    omega
  rcases hsafe with hs | hexact | href | ⟨_, hz⟩
  · simp [h.unsettled] at hs
  · exact absurd hexact ha
  · obtain ⟨hs, hacc⟩ := settle_refused a o (fun _ => h.uncommitted) ha href
    rw [h.settle_stays hs hacc]
    exact .live h
  · exact h.settle_within hz

/-- The request after a refund that has something to give back. -/
def Request.asRefunded (b : Request) : Request := { b with
  session := b.session.asRefunded
  job := b.session.refundJob }

theorem Live.refunding : Refunding acc₀ b.asRefunded where
  refunded := rfl
  uncommitted := h.uncommitted
  first := .inl h.first
  suffix := suffix_refl _
  held := ⟨(h.held ▸ h.nonneg : 0 ≤ b.session.held), h.extra⟩
  onRecord _ := h.onRecord
  owed _ := by
    have hpre := h.nonneg
    have hsum := owedToken_refundJob (s := b.session) (by rw [h.consumed]; omega)
    rw [h.consumed] at hsum
    exact ⟨h.funding.trans (h.held.symm.trans (owedFunding_refundJob h.extra).symm),
      h.token.trans hsum.symm⟩

theorem Live.refund_eq : b.session.refund =
    if b.session.needsRefund then (b.session.asRefunded, b.session.refundJob)
    else (b.session, []) := by
  cases hneed : b.session.needsRefund <;>
    simp [refund, hneed, h.unsettled, h.unrefunded]

/-- A session without anything to refund has taken nothing. -/
theorem Live.pre_eq_zero (hneed : b.session.needsRefund = false) :
    b.session.preConsumedQuota = 0 := by
  have hpre := h.nonneg
  have hcons := h.consumed
  simp only [needsRefund, h.unsettled, h.unrefunded, h.uncommitted,
    Bool.or_false, Bool.false_eq_true, if_false] at hneed
  split at hneed
  · cases hneed
  · omega

theorem Live.refund : Phase acc₀ (b.step .refund) := by
  simp only [step, h.refund_eq, h.idle, nil_append]
  cases b.session.needsRefund with
  | true => exact .refunding h.refunding
  | false =>
    have hsame : { b with session := b.session, job := [] } = b := by rw [← h.idle]
    exact .live (hsame.symm ▸ h)

end

/-! ## After the terminal call -/

theorem Settled.step_eq (h : Settled acc₀ b) (act : Act) : b.step act = b := by
  cases act with
  | reserve => simp [step, reserve, h.settled]
  | settle => simp [step, settle, settlement, h.settled]
  | refund => simp [step, refund, h.settled]
  | work => simp [step, work, h.idle]

/-- A call on the session, as opposed to a step of the goroutine. -/
def Act.isCall : Act → Bool
  | .work _ _ => false
  | _ => true

/-- After a refund a call can only mark the session as settled. -/
theorem Refunding.call (h : Refunding acc₀ b) (hact : act.isCall) (hsafe : b.Safe act) :
    b.step act = b ∨ b.step act = { b with session := { b.session with settled := true } } := by
  cases act with
  | reserve =>
    left
    simp [step, reserve, h.refunded]
  | settle a o =>
    by_cases ha : a = b.session.preConsumedQuota
    · right
      subst ha
      simp [step, settle_exact, settlement, h.refunded]
    left
    have hsame : (b.session.settle b.accounts a o).session = b.session ∧
        (b.session.settle b.accounts a o).accounts = b.accounts := by
      rcases hsafe with hs | hexact | href | ⟨hr, _⟩
      · simp [settle, hs]
      · exact absurd hexact ha
      · exact settle_refused a o (fun _ => h.uncommitted) ha href
      · simp [h.refunded] at hr
    cases hset : b.session.settled <;> simp [step, hsame, settlement, hset]
  | refund =>
    left
    simp [step, refund, h.refunded]
  | work => cases hact

/-- The steps after the first are the extra reservation of a subscription and
the token. -/
theorem mem_laterSteps {step} (h : step ∈ s.laterSteps) :
    (step = .extra s.extraReserved ∧ 0 < s.extraReserved ∧ s.funding.isSubscription) ∨
      step = .token s.tokenConsumed := by
  simp only [laterSteps, mem_append] at h
  rcases h with h | h <;> split at h <;> simp_all

theorem owedFunding_nonneg {step} (h : step ∈ s.laterSteps) : 0 ≤ s.owedFunding step := by
  rcases mem_laterSteps h with ⟨rfl, _, _⟩ | rfl <;>
    simp only [owedFunding] <;> omega

/-- The step that is next can give back all it owes: nothing before it
failed, so the accounts still hold the rest. -/
theorem Refunding.payable (h : Refunding acc₀ b) (h₀ : 0 ≤ acc₀.amountUsed)
    (hok : b.refundOk) {step rest}
    (hjob : b.job = step :: rest) : b.session.Payable b.accounts step := by
  have hsuff := h.suffix
  rw [hjob] at hsuff
  have hsplit := suffix_cons_iff.mp hsuff
  have hrest : rest <:+ b.session.laterSteps := by
    rcases hsplit with hwhole | htail
    · exact (cons.inj hwhole).2 ▸ suffix_refl rest
    · exact (suffix_cons step rest).trans htail
  have hsum : 0 ≤ (rest.map b.session.owedFunding).sum := by
    refine sum_nonneg fun x hx => ?_
    obtain ⟨step', hmem, rfl⟩ := mem_map.mp hx
    exact owedFunding_nonneg (hrest.subset hmem)
  have howed := (h.owed hok).1
  rw [hjob, map_cons, sum_cons] at howed
  rcases hsplit with hwhole | htail
  · -- the first step: the whole hold is still there
    obtain ⟨rfl, _⟩ := cons.inj hwhole
    cases hf : b.session.funding with
    | wallet =>
      have hheld := h.held.1
      simp only [BillingSession.held, hf] at hheld
      simpa only [Payable, hf] using hheld
    | subscription amount p =>
      obtain ⟨hp, hr⟩ := h.onRecord (hjob.trans hwhole) amount p hf
      simp only [fundingDebit, owedFunding, hf] at howed
      simp only [Payable, hf]
      exact ⟨hp, by omega, hr⟩
  rcases mem_laterSteps (htail.subset mem_cons_self) with ⟨rfl, hpos, hsub⟩ | rfl
  · refine ⟨hsub, hpos, ?_⟩
    cases hf : b.session.funding with
    | wallet => simp [hf, isSubscription] at hsub
    | subscription =>
      simp only [fundingDebit, owedFunding, hf] at howed
      omega
  · trivial

theorem Refunding.work (h : Refunding acc₀ b) (h₀ : 0 ≤ acc₀.amountUsed) {tries}
    (htries : Recorded tries) : Refunding acc₀ (b.work ok tries) := by
  cases hjob : b.job with
  | nil =>
    simp only [Request.work, hjob]
    exact h
  | cons step rest =>
  have hsuff := h.suffix
  rw [hjob] at hsuff
  have hwork : b.work ok tries =
      { b with
        accounts := (b.session.runRefundStep b.accounts ok tries step).1
        job := rest
        first := (b.work ok tries).first
        refundOk := b.refundOk && (b.session.runRefundStep b.accounts ok tries step).2.isOk } := by
    simp only [Request.work, hjob]
  rw [hwork]
  exact {
    refunded := h.refunded
    uncommitted := h.uncommitted
    first := by
      simp only [Request.work, hjob]
      rcases h.first with hf | hf <;> simp only [hf] <;> split <;> simp
    suffix := (suffix_cons step rest).trans hsuff
    held := h.held
    onRecord := by
      intro hwhole
      have hlen := hsuff.length_le
      have hwhole' : rest = b.session.refundJob := hwhole
      rw [← hwhole', length_cons] at hlen
      omega
    owed := by
      intro hok
      simp only [Bool.and_eq_true] at hok
      obtain ⟨hsofar, hstep⟩ := hok
      have howed := h.owed hsofar
      rw [hjob] at howed
      simp only [map_cons, sum_cons] at howed
      have hdone : (b.session.runRefundStep b.accounts ok tries step).2 = .ok () := by
        cases hr : (b.session.runRefundStep b.accounts ok tries step).2 with
        | ok => rfl
        | error => rw [hr] at hstep; cases hstep
      obtain ⟨_, _⟩ :=
        runRefundStep_ok acc₀ hdone htries (h.payable h₀ hsofar hjob)
      constructor <;> dsimp only <;> omega }

/-! ## Every run -/

theorem Refunding.settled (h : Refunding acc₀ b) :
    Refunding acc₀ { b with session := { b.session with settled := true } } :=
  ⟨h.refunded, h.uncommitted, h.first, h.suffix, h.held, h.onRecord, h.owed⟩

theorem Phase.step (h₀ : 0 ≤ acc₀.amountUsed) (h : Phase acc₀ b)
    (hsafe : b.Safe act) : Phase acc₀ (b.step act) := by
  cases h with
  | live h =>
    cases act with
    | reserve => exact .live (h.reserve h₀ hsafe)
    | settle => exact h.settle h₀ hsafe
    | refund => exact h.refund
    | work ok tries =>
      have hidle : b.step (.work ok tries) = b := by
        simp [Request.step, Request.work, h.idle]
      rw [hidle]
      exact .live h
  | settled h =>
    rw [h.step_eq act]
    exact .settled h
  | refunding h =>
    cases hcall : act.isCall with
    | true =>
      rcases h.call hcall hsafe with hstep | hstep <;> rw [hstep]
      · exact .refunding h
      · exact .refunding h.settled
    | false =>
      cases act with
      | work => exact .refunding (h.work h₀ hsafe)
      | _ => cases hcall

theorem Phase.accounted (h : Phase acc₀ b) (hidle : b.job = []) : b.Accounted acc₀ := by
  cases h with
  | live h => simp [Accounted, h.first]
  | settled h => exact h.accounted
  | refunding h =>
    rcases h.first with hf | hf
    · simp [Accounted, hf]
    simp only [Accounted, hf]
    intro hok
    simpa [hidle] using h.owed hok

theorem Phase.call_inert (h : Phase acc₀ b) (hended : b.Ended)
    (hact : act.isCall) (hsafe : b.Safe act) :
    (b.step act).accounts = b.accounts := by
  cases h with
  | live h => simp [Ended, h.first, h.unrefunded] at hended
  | settled h => rw [h.step_eq act]
  | refunding h => rcases h.call hact hsafe with hstep | hstep <;> rw [hstep]

/-! ## Opening a session -/

inductive Source where
  | wallet
  | subscription

def openSession (src : Source) (info : RelayInfo) (t : Trust) (acc : Accounts)
    (preConsumedQuota : Int) (o : Faults) : Call :=
  match src with
  | .wallet => tryWallet info t acc preConsumedQuota o
  | .subscription => trySubscription info t acc preConsumedQuota o

/-- The request starts from what the session call left. -/
def Request.start (c : Call) : Request := { session := c.session, accounts := c.accounts }

/-- A wallet is not asked for a negative quota. A subscription request is new,
and nothing used is negative. -/
def Openable (src : Source) (acc₀ : Accounts) (preConsumedQuota : Int) : Prop :=
  0 ≤ acc₀.amountUsed ∧
  match src with
  | .wallet => 0 ≤ preConsumedQuota
  | .subscription => acc₀.record = none

theorem preConsumeToken_ok (h : s.preConsumeToken acc quota ok = .ok (taken, acc'))
    (hq : 0 ≤ quota) : taken = quota ∧ acc' = acc.takeToken s.relayInfo quota := by
  simp only [preConsumeToken] at h
  by_cases hpos : quota > 0
  · rw [if_pos hpos] at h
    simp only [seq_ok, return_ok, Prod.mk.injEq] at h
    obtain ⟨acc₁, hacc₁, rfl, rfl⟩ := h
    have hres : s.reserveToken acc quota ok = .ok acc₁ := by
      by_cases hp : s.relayInfo.isPlayground
      · simpa [reserveToken, preConsumeTokenQuota, hp,
          show ¬ quota < 0 by omega] using hacc₁
      · rw [reserveToken, if_neg (fun h => h.elim (by omega) hp)]
        exact hacc₁
    exact ⟨rfl, reserveToken_ok hres hpos⟩
  have hzero : quota = 0 := by omega
  subst hzero
  obtain ⟨rfl, rfl⟩ := h
  refine ⟨rfl, ?_⟩
  simp [Accounts.takeToken]

/-- What `preConsume` leaves when it succeeds: the funding source and the
token are charged with the effective quota. -/
theorem preConsume_ok {trusted} (h : (s.preConsume acc trusted quota o).result.isOk)
    (hq : 0 ≤ if trusted then 0 else quota) :
    ∃ f acc', s.funding.preConsume
        (acc.takeToken s.relayInfo (if trusted then 0 else quota))
        (if trusted then 0 else quota) o.funding = .ok (f, acc') ∧
      (s.preConsume acc trusted quota o).session =
        { s with
          funding := f, trusted := trusted
          tokenConsumed := if trusted then 0 else quota
          preConsumedQuota := if trusted then 0 else quota } ∧
      (s.preConsume acc trusted quota o).accounts = acc' := by
  simp only [preConsume] at h ⊢
  cases ht : s.preConsumeToken acc (if trusted then 0 else quota) o.token with
  | error => simp [ht, Except.isOk, Except.toBool] at h
  | ok p =>
  obtain ⟨taken, acc₁⟩ := p
  obtain ⟨rfl, rfl⟩ := preConsumeToken_ok ht hq
  simp only [ht] at h ⊢
  split at h
  · simp [Except.isOk, Except.toBool] at h
  · rename_i f acc₂ hf
    exact ⟨f, acc₂, hf, rfl, rfl⟩

/-- What the funding source must have done for the session to start live. -/
structure Charged (f : FundingSource) (q : Int) (acc acc' : Accounts) : Prop where
  debit : ∀ acc₀, fundingDebit f acc₀ acc' = fundingDebit f acc₀ acc + q
  token : acc'.remainQuota = acc.remainQuota
  held : ∀ info, (mk info f 0 0 0 false false false false).held = q
  onRecord : ∀ amount p, f = .subscription amount p →
    0 < p ∧ acc'.record = some { preConsumed := p }

theorem walletPreConsume_ok (h : (wallet 0).preConsume acc q ok = .ok (f, acc'))
    (hq : 0 ≤ q) : Charged f q acc acc' := by
  simp only [FundingSource.preConsume] at h
  by_cases hpos : q ≤ 0
  · have hzero : q = 0 := by omega
    subst hzero
    obtain ⟨rfl, rfl⟩ := h
    exact ⟨by simp, rfl, fun _ => rfl, by simp⟩
  · rw [if_neg hpos] at h
    simp only [seq_ok, return_ok, decreaseUserQuota_ok_iff, Prod.mk.injEq] at h
    obtain ⟨_, ⟨_, _, rfl⟩, rfl, rfl⟩ := h
    exact ⟨fun _ => fundingDebit_take, rfl, fun _ => rfl, by simp⟩

theorem subscriptionPreConsume_ok
    (h : (subscription own 0).preConsume acc q ok = .ok (f, acc')) (hown : 0 < own)
    (hr : acc.record = none) : Charged f own acc acc' := by
  simp only [FundingSource.preConsume, preConsumeUserSubscription, hr,
    if_neg (show ¬ own ≤ 0 by omega), seq_ok, return_ok, Prod.exists] at h
  obtain ⟨taken, acc₁, htake, hpair⟩ := h
  split at htake
  · cases htake
  simp only [seq_ok, write_ok_iff, return_ok, Prod.mk.injEq] at htake
  obtain ⟨_, ⟨_, rfl⟩, rfl, rfl⟩ := htake
  obtain ⟨rfl, rfl⟩ := Prod.mk.inj hpair
  refine ⟨fun acc₀ => ?_, rfl, fun _ => by simp [held], ?_⟩
  · simp only [fundingDebit]
    omega
  intro amount p hp
  cases hp
  exact ⟨hown, rfl⟩

theorem live_of_preConsume {info f₀ trusted}
    (h : ((mk info f₀ 0 0 0 false false false false).preConsume acc₀
      trusted quota o).result.isOk) (hq : 0 ≤ if trusted then 0 else quota)
    (hfund : ∀ f acc', f₀.preConsume
        (acc₀.takeToken info (if trusted then 0 else quota))
        (if trusted then 0 else quota) o.funding = .ok (f, acc') →
      Charged f (if trusted then 0 else quota)
        (acc₀.takeToken info (if trusted then 0 else quota)) acc') :
    Live acc₀ (start
      ((mk info f₀ 0 0 0 false false false false).preConsume acc₀ trusted quota o)) := by
  obtain ⟨f, acc', hf, hsess, hacc⟩ := preConsume_ok h hq
  have hcharge := hfund f acc' hf
  simp only [start, hsess, hacc]
  generalize (if trusted then 0 else quota) = q at hq hcharge
  refine ⟨rfl, rfl, rfl, rfl, rfl, rfl, hq, le_refl _, rfl, hcharge.held info, hcharge.onRecord,
    ?_, ?_⟩
  · simp [hcharge.debit]
  have htoken : tokenDebit acc₀ acc' = tokenDebit acc₀ (acc₀.takeToken info q) := by
    simp only [tokenDebit, hcharge.token]
  simp [htoken]

theorem live_openSession {src info t}
    (hq : Openable src acc₀ quota) (h : (openSession src info t acc₀ quota o).result.isOk) :
    Live acc₀ (start (openSession src info t acc₀ quota o)) := by
  cases src with
  | wallet =>
    have hquo : 0 ≤ quota := hq.2
    simp only [openSession, tryWallet] at h ⊢
    by_cases hrich : acc₀.userQuota ≤ 0
    · simp [hrich, Except.isOk, Except.toBool] at h
    by_cases hroom : acc₀.userQuota - quota < 0
    · simp [hrich, hroom, Except.isOk, Except.toBool] at h
    rw [if_neg hrich, if_neg hroom] at h ⊢
    have heff (b : Bool) : 0 ≤ if b then 0 else quota := by
      cases b <;> simp [hquo]
    exact live_of_preConsume h (heff _) fun f acc' hf => walletPreConsume_ok hf (heff _)
  | subscription =>
    have hrec : acc₀.record = none := hq.2
    simp only [openSession, trySubscription] at h ⊢
    generalize hown : (if quota ≤ 0 then 1 else quota) = own at h ⊢
    have hpos : 0 < own := by split at hown <;> omega
    have htrust : (mk info (.subscription own 0) 0 0 0 false false false
        false).shouldTrust t.trustQuota t.tokenQuota = false := by
      simp only [shouldTrust]
      split <;> first | rfl | (split <;> first | rfl | (split <;> rfl))
    rw [htrust] at h ⊢
    refine live_of_preConsume h (by simp; omega) fun f acc' hf => ?_
    exact subscriptionPreConsume_ok hf hpos (by simpa using hrec)

/-- **A billing session is atomic.** In every safe run the debits of a
quiescent session are those of its first terminal call, and no later call
moves a balance. -/
theorem billingSession_atomic (src : Source) (info : RelayInfo) (t : Trust)
    (acc₀ : Accounts) (preConsumedQuota : Int) (o : Faults) (acts : List Act)
    (hq : Openable src acc₀ preConsumedQuota)
    (hopen : (openSession src info t acc₀ preConsumedQuota o).result.isOk = true)
    (hacts : Along step Safe (start (openSession src info t acc₀ preConsumedQuota o)) acts) :
    let b := exec step (start (openSession src info t acc₀ preConsumedQuota o)) acts
    (b.job = [] → b.Accounted acc₀) ∧
      (b.Ended → ∀ act, act.isCall = true → b.Safe act → (b.step act).accounts = b.accounts) := by
  intro b
  have hphase : Phase acc₀ b :=
    Along.invariant (Phase acc₀) (fun _ _ h hsafe => h.step hq.1 hsafe)
      (.live (live_openSession hq hopen)) hacts
  exact ⟨hphase.accounted, fun hended act hact hsafe => hphase.call_inert hended hact hsafe⟩

/-- A user with a wallet and a token of 100 each. -/
def sampleAccounts : Accounts := { userQuota := 100, remainQuota := 100 }

/-- 10 is pre-consumed, 20 reserved, and 15 settled. -/
theorem billingSession_atomic_sample :
    let b := exec step
      (start (openSession .wallet {} {} sampleAccounts 10 {}))
      [.reserve 20 {}, .settle 15 {}, .refund]
    (b.job = [] → b.Accounted sampleAccounts) ∧
      (b.Ended → ∀ act, act.isCall = true → b.Safe act → (b.step act).accounts = b.accounts) :=
  billingSession_atomic .wallet {} {} sampleAccounts 10 {} _
    ⟨by decide, (by decide : (0 : Int) ≤ 10)⟩ (by decide) (by decide)

/-- A settlement after a completed refund moves both balances: the refunded
session ends with a debit of `-5`. -/
theorem billingSession_settled_after_refund :
    let b := exec step
      (start (openSession .wallet {} {} sampleAccounts 10 {}))
      [.refund, .work true [], .work true []]
    let b' := b.step (.settle 5 {})
    (b.job = [] ∧ b.first = some .refund ∧ b.refundOk = true) ∧
      b'.accounts ≠ b.accounts ∧ b'.job = [] ∧ b'.first = some .refund ∧
      b'.refundOk = true ∧
      fundingDebit b'.session.funding sampleAccounts b'.accounts = -5 ∧
      tokenDebit sampleAccounts b'.accounts = -5 := by
  decide

end HermesToken.Billing
