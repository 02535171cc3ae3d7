import HermesToken.Lib.Guard

/-!
# Billing sessions

`BillingSession` of `billing_session.go` over the two funding sources of
`funding_source.go`. Every balance operation takes a flag that says whether
the database accepts it. A rejected operation returns its error and leaves
the accounts alone, as the error paths of the session code assume.

`Refund` answers at once and leaves its work to a goroutine. The work is a
list of `RefundStep`s, which a run may execute later.
-/

namespace HermesToken.Billing

structure SubscriptionPreConsumeRecord where
  preConsumed : Int
  refunded : Bool := false
  deriving DecidableEq

/-- The balances a request can move: the user's wallet, its token, the
subscription that was picked for it, and its pre-consume record. -/
structure Accounts where
  (userQuota remainQuota amountUsed amountTotal : Int := 0)
  record : Option SubscriptionPreConsumeRecord := none
  deriving DecidableEq

/-- What the session reads of the relay information. -/
structure RelayInfo where
  (isPlayground tokenUnlimited forcePreConsume : Bool := false)
  userQuota : Int := 0

/-! ## Balance operations -/

/-- A write that the database accepts or rejects. -/
def write (ok : Bool) (acc : Accounts) : Except String Accounts :=
  if ok then .ok acc else .error "database error"

def negativeQuota : String := "quota 不能为负数！"

section

variable (acc : Accounts) (quota : Int) (ok : Bool)

def decreaseUserQuota : Except String Accounts :=
  if quota < 0 then .error negativeQuota
  else write ok { acc with userQuota := acc.userQuota - quota }

def increaseUserQuota : Except String Accounts :=
  if quota < 0 then .error negativeQuota
  else write ok { acc with userQuota := acc.userQuota + quota }

def decreaseTokenQuota : Except String Accounts :=
  if quota < 0 then .error negativeQuota
  else write ok { acc with remainQuota := acc.remainQuota - quota }

def increaseTokenQuota : Except String Accounts :=
  if quota < 0 then .error negativeQuota
  else write ok { acc with remainQuota := acc.remainQuota + quota }

end

/-- A token without enough quota is refused unless it is unlimited. The
playground has no token to charge. -/
def preConsumeTokenQuota (info : RelayInfo) (acc : Accounts) (quota : Int)
    (ok : Bool) : Except String Accounts :=
  if quota < 0 then .error negativeQuota
  else if info.isPlayground then .ok acc
  else if !info.tokenUnlimited && acc.remainQuota < quota then .error "token quota is not enough"
  else decreaseTokenQuota acc quota ok

/-- The used amount is clamped at zero from below, and may not pass the
total (a total of zero is no limit). -/
def postConsumeUserSubscriptionDelta (acc : Accounts) (delta : Int) (ok : Bool) :
    Except String Accounts :=
  if delta = 0 then .ok acc
  else
    let newUsed := if acc.amountUsed + delta < 0 then 0 else acc.amountUsed + delta
    if acc.amountTotal > 0 ∧ newUsed > acc.amountTotal then .error "subscription used exceeds total"
    else write ok { acc with amountUsed := newUsed }

/-- A second call with the same request id finds the record and takes
nothing. -/
def preConsumeUserSubscription (acc : Accounts) (amount : Int) (ok : Bool) :
    Except String (Int × Accounts) :=
  if amount ≤ 0 then .error "amount must be > 0"
  else match acc.record with
    | some record =>
      if record.refunded then .error "subscription pre-consume already refunded"
      else .ok (record.preConsumed, acc)
    | none =>
      if acc.amountTotal > 0 ∧ acc.amountTotal - acc.amountUsed < amount then
        .error "subscription quota insufficient"
      else do
        let acc' ← write ok
          { acc with
            amountUsed := acc.amountUsed + amount
            record := some { preConsumed := amount } }
        return (amount, acc')

/-- One attempt of `RefundSubscriptionPreConsume`: whether the change of the
subscription commits, and whether the save of the record does. The two are
separate transactions. -/
structure Attempt where
  (posted saved : Bool := true)

/-- The accounts and the error after a step that can fail half way. -/
abbrev Effect := Accounts × Except String Unit

/-- The step keeps what it changed, or changes nothing. -/
def Effect.of (acc : Accounts) : Except String Accounts → Effect
  | .ok acc' => (acc', .ok ())
  | .error e => (acc, .error e)

def refundSubscriptionPreConsume (acc : Accounts) (o : Attempt) : Effect :=
  match acc.record with
  | none => (acc, .error "record not found")
  | some record =>
    if record.refunded then (acc, .ok ())
    else if record.preConsumed ≤ 0 then
      Effect.of acc (write o.saved
        { acc with record := some { record with refunded := true } })
    else match postConsumeUserSubscriptionDelta acc (-record.preConsumed) o.posted with
      | .error e => (acc, .error e)
      -- the subscription is already changed when the record is saved
      | .ok acc' => Effect.of acc' (write o.saved
          { acc' with record := some { record with refunded := true } })

def maxAttempts : Nat := 3

/-- `refundWithRetry`: up to `n` attempts, until one succeeds. -/
def refundWithRetry (acc : Accounts) : Nat → List Attempt → Effect
  | 0, _ => (acc, .error "refund failed")
  | _ + 1, [] => (acc, .error "refund failed")
  | n + 1, o :: rest =>
    match refundSubscriptionPreConsume acc o with
    | (acc', .ok ()) => (acc', .ok ())
    | (acc', .error _) => refundWithRetry acc' n rest

/-! ## Funding sources -/

inductive FundingSource where
  | wallet (consumed : Int)
  | subscription (amount preConsumed : Int)

namespace FundingSource

def isSubscription : FundingSource → Bool
  | .wallet _ => false
  | .subscription _ _ => true

variable (f : FundingSource) (acc : Accounts)

/-- The subscription ignores the argument and takes its own `amount`. -/
def preConsume (amount : Int) (ok : Bool) : Except String (FundingSource × Accounts) :=
  match f with
  | .wallet consumed =>
    if amount ≤ 0 then .ok (.wallet consumed, acc)
    else do
      let acc' ← decreaseUserQuota acc amount ok
      return (.wallet amount, acc')
  | .subscription own _ => do
    let (taken, acc') ← preConsumeUserSubscription acc own ok
    return (.subscription own taken, acc')

def settle (delta : Int) (ok : Bool) : Except String Accounts :=
  match f with
  | .wallet _ =>
    if delta = 0 then .ok acc
    else if delta > 0 then decreaseUserQuota acc delta ok
    else increaseUserQuota acc (-delta) ok
  | .subscription _ _ =>
    if delta = 0 then .ok acc
    else postConsumeUserSubscriptionDelta acc delta ok

def refund (ok : Bool) (tries : List Attempt) : Effect :=
  match f with
  | .wallet consumed =>
    if consumed ≤ 0 then (acc, .ok ())
    else Effect.of acc (increaseUserQuota acc consumed ok)
  | .subscription _ preConsumed =>
    if preConsumed ≤ 0 then (acc, .ok ())
    else refundWithRetry acc maxAttempts tries

end FundingSource

/-! ## The session -/

structure BillingSession where
  relayInfo : RelayInfo
  funding : FundingSource
  (preConsumedQuota tokenConsumed extraReserved : Int := 0)
  (trusted fundingSettled settled refunded : Bool := false)

structure Call where
  session : BillingSession
  accounts : Accounts
  result : Except String Unit

/-- Which of the balance operations of a call the database accepts. -/
structure Faults where
  (funding token rollback : Bool := true)

namespace BillingSession

variable (s : BillingSession)

/-- The token operation of `Settle`. -/
def settleToken (acc : Accounts) (delta : Int) (ok : Bool) :
    Except String Accounts :=
  if s.relayInfo.isPlayground then .ok acc
  else if delta > 0 then decreaseTokenQuota acc delta ok
  else increaseTokenQuota acc (-delta) ok

/-- The second half of `Settle`: the funding source is committed, and a token
error is only reported. -/
def finishSettle (acc : Accounts) (delta : Int) (ok : Bool) : Call :=
  let s' := { s with fundingSettled := true, settled := true }
  match s.settleToken acc delta ok with
  | .ok acc' => ⟨s', acc', .ok ()⟩
  | .error e => ⟨s', acc, .error e⟩

/-- `Settle`. It asks whether the session is settled, NOT whether it is
refunded. -/
def settle (acc : Accounts) (actualQuota : Int) (o : Faults) : Call :=
  if s.settled then ⟨s, acc, .ok ()⟩
  else
    let delta := actualQuota - s.preConsumedQuota
    if delta = 0 then ⟨{ s with settled := true }, acc, .ok ()⟩
    else if s.fundingSettled then s.finishSettle acc delta o.token
    else match s.funding.settle acc delta o.funding with
      | .error e => ⟨s, acc, .error e⟩
      | .ok acc' => s.finishSettle acc' delta o.token

def needsRefund : Bool :=
  if s.settled || s.refunded || s.fundingSettled then false
  else if s.tokenConsumed > 0 then true
  else match s.funding with
    | .wallet _ => false
    | .subscription _ preConsumed => preConsumed > 0

end BillingSession

/-- A step of the goroutine that `Refund` starts. -/
inductive RefundStep where
  | funding
  | extra (quota : Int)
  | token (quota : Int)
  deriving DecidableEq

namespace BillingSession

variable (s : BillingSession)

/-- The steps after the funding source's own refund, with the values `Refund`
copies for them. -/
def laterSteps : List RefundStep :=
  (if s.extraReserved > 0 ∧ s.funding.isSubscription = true then
    [.extra s.extraReserved] else []) ++
  (if s.tokenConsumed > 0 ∧ s.relayInfo.isPlayground = false then [.token s.tokenConsumed] else [])

def refundJob : List RefundStep := .funding :: s.laterSteps

def asRefunded : BillingSession := { s with refunded := true }

def refund : BillingSession × List RefundStep :=
  if s.settled || s.refunded || !s.needsRefund then (s, [])
  else (s.asRefunded, s.refundJob)

/-- The funding source is shared with the session, so it is read when the
step runs. -/
def runRefundStep (acc : Accounts) (ok : Bool) (tries : List Attempt) :
    RefundStep → Effect
  | .funding => s.funding.refund acc ok tries
  | .extra quota => Effect.of acc (postConsumeUserSubscriptionDelta acc (-quota) ok)
  | .token quota => Effect.of acc (increaseTokenQuota acc quota ok)

def reserveFunding (acc : Accounts) (delta : Int) (ok : Bool) :
    Except String (FundingSource × Accounts) :=
  match s.funding with
  | .wallet consumed => do
    let acc' ← decreaseUserQuota acc delta ok
    return (.wallet (consumed + delta), acc')
  | .subscription amount preConsumed => do
    let acc' ← postConsumeUserSubscriptionDelta acc delta ok
    return (.subscription amount preConsumed, acc')

/-- A rollback that fails is only logged. The wallet then keeps counting the
amount as consumed, the subscription does not. -/
def rollbackFundingReserve (f : FundingSource) (acc : Accounts) (delta : Int)
    (ok : Bool) : FundingSource × Accounts :=
  match f with
  | .wallet consumed =>
    match increaseUserQuota acc delta ok with
    | .ok acc' => (.wallet (consumed - delta), acc')
    | .error _ => (.wallet consumed, acc)
  | .subscription amount preConsumed =>
    match postConsumeUserSubscriptionDelta acc (-delta) ok with
    | .ok acc' => (.subscription amount preConsumed, acc')
    | .error _ => (.subscription amount preConsumed, acc)

variable (acc : Accounts)

def reserveToken (delta : Int) (ok : Bool) : Except String Accounts :=
  if delta ≤ 0 ∨ s.relayInfo.isPlayground = true then .ok acc
  else preConsumeTokenQuota s.relayInfo acc delta ok

/-- The session after `delta` more was reserved on `f` and the token. -/
def reserved (f : FundingSource) (delta : Int) : BillingSession := { s with
  funding := f
  preConsumedQuota := s.preConsumedQuota + delta
  tokenConsumed := s.tokenConsumed + delta
  extraReserved := s.extraReserved + delta }

def reserve (targetQuota : Int) (o : Faults) : Call :=
  if s.settled || s.refunded || s.trusted || targetQuota ≤ s.preConsumedQuota then ⟨s, acc, .ok ()⟩
  else
    let delta := targetQuota - s.preConsumedQuota
    match s.reserveFunding acc delta o.funding with
    | .error e => ⟨s, acc, .error e⟩
    | .ok (f, acc₁) =>
      match s.reserveToken acc₁ delta o.token with
      | .ok acc₂ => ⟨s.reserved f delta, acc₂, .ok ()⟩
      | .error e =>
        let (f', acc₂) := rollbackFundingReserve f acc₁ delta o.rollback
        ⟨{ s with funding := f' }, acc₂, .error e⟩

/-! ## Opening a session -/

/-- `shouldTrust`: only a wallet request can skip the pre-consume, and only
when both the wallet and the token are above the trust quota. -/
def shouldTrust (trustQuota tokenQuota : Int) : Bool :=
  if s.relayInfo.forcePreConsume then false
  else if trustQuota ≤ 0 then false
  else if !(s.relayInfo.tokenUnlimited || tokenQuota > trustQuota) then false
  else match s.funding with
    | .wallet _ => s.relayInfo.userQuota > trustQuota
    | .subscription _ _ => false

/-- The token half of `preConsume`. -/
def preConsumeToken (quota : Int) (ok : Bool) : Except String (Int × Accounts) :=
  if quota > 0 then do
    let acc' ← preConsumeTokenQuota s.relayInfo acc quota ok
    return (quota, acc')
  else .ok (0, acc)

/-- The compensation for a token that was charged before the funding failed. -/
def rollbackToken (consumed : Int) (ok : Bool) : Accounts :=
  if consumed > 0 ∧ s.relayInfo.isPlayground = false then
    match increaseTokenQuota acc consumed ok with
    | .ok acc' => acc'
    | .error _ => acc
  else acc

/-- `preConsume` with the answer of `shouldTrust`. -/
def preConsume (trusted : Bool) (quota : Int) (o : Faults) : Call :=
  let effective := if trusted then 0 else quota
  match s.preConsumeToken acc effective o.token with
  | .error e => ⟨{ s with trusted }, acc, .error e⟩
  | .ok (consumed, acc₁) =>
    match s.funding.preConsume acc₁ effective o.funding with
    | .error e =>
      ⟨{ s with trusted }, s.rollbackToken acc₁ consumed o.rollback, .error e⟩
    | .ok (f, acc₂) =>
      ⟨{ s with
          funding := f, trusted,
          tokenConsumed := consumed, preConsumedQuota := effective },
        acc₂, .ok ()⟩

end BillingSession

/-- The trust settings `shouldTrust` reads: the configured quota and the
token quota of the request context. -/
structure Trust where
  (trustQuota tokenQuota : Int := 0)

variable (info : RelayInfo) (t : Trust) (acc : Accounts) (preConsumedQuota : Int) (o : Faults)

/-- The wallet branch of `NewBillingSession`. -/
def tryWallet : Call :=
  let s : BillingSession :=
    { relayInfo := { info with userQuota := acc.userQuota }, funding := .wallet 0 }
  if acc.userQuota ≤ 0 then ⟨s, acc, .error "用户额度不足"⟩
  else if acc.userQuota - preConsumedQuota < 0 then ⟨s, acc, .error "预扣费额度失败"⟩
  else s.preConsume acc (s.shouldTrust t.trustQuota t.tokenQuota) preConsumedQuota o

/-- The subscription branch of `NewBillingSession`: at least 1 is taken. -/
def trySubscription : Call :=
  let subConsume := if preConsumedQuota ≤ 0 then 1 else preConsumedQuota
  let s : BillingSession :=
    { relayInfo := info, funding := .subscription subConsume 0 }
  s.preConsume acc (s.shouldTrust t.trustQuota t.tokenQuota) subConsume o

end HermesToken.Billing
