import HermesToken.Payment.TopUp

/-!
# Crypto payment orders

The rows of `model/topup_crypto.go` and what its functions do to the ROWS
they have read: expiry, the marks that a recorded transfer leaves on an
order, and the completion of an order with the evidence of a transfer. Which
rows they read is the business of the store.
-/

namespace HermesToken.Payment

open Lib

inductive CryptoPaymentStatus where
  | pending | detected | confirmed | success | expired | underpaid | overpaid
  | ambiguous | latePaid | failed
  deriving DecidableEq

inductive CryptoTransactionStatus where
  | seen | confirmed | ignored | orphaned

structure CryptoPaymentOrder where
  (id topUpId : Int)
  tradeNo : String
  userId : Int
  (network tokenContract : String)
  tokenDecimals : Int
  (receiveAddress payAmount payAmountBaseUnits : String)
  (expiresAt requiredConfirmations : Int)
  status : CryptoPaymentStatus := .pending
  matchedTxHash : String := ""
  matchedLogIndex : Int := -1
  (detectedAt confirmedAt completedAt : Int := 0)
  (createTime updateTime : Int)
  deriving DecidableEq

/-- A recorded on-chain transfer. Its identity is the unique index over
network, hash and log index. -/
structure CryptoPaymentTransaction where
  (network txHash : String)
  (logIndex blockNumber blockTimestamp : Int)
  (fromAddress toAddress tokenContract : String)
  tokenDecimals : Int
  (amount amountBaseUnits : String)
  confirmations : Int
  status : CryptoTransactionStatus := .seen
  matchedOrderId : Int := 0
  rawPayload : String := ""
  (createTime updateTime : Int)

def normalizeCryptoNetwork (network : String) : String :=
  toLower (trimSpace network)

theorem normalizeCryptoNetwork_idem :
    normalizeCryptoNetwork (normalizeCryptoNetwork network) = normalizeCryptoNetwork network :=
  toLower_trimSpace_idem network

def isActiveCryptoOrderStatus : CryptoPaymentStatus → Bool
  | .pending | .detected | .confirmed => true
  | _ => false

namespace CryptoPaymentOrder

variable (order : CryptoPaymentOrder)

def isExpired (now : Int) : Bool :=
  if order.expiresAt ≤ 0 then false else now > order.expiresAt

/-- `ExpireCryptoPaymentOrderIfNeeded`: the row it saves, if it saves one. -/
def expireIfNeeded (now : Int) : Option CryptoPaymentOrder :=
  if order.status ≠ .pending ∨ order.isExpired now = false then none
  else some { order with status := .expired, updateTime := now }

/-- Still open for a match by a recorded transfer. -/
def unmatched : Bool := order.status = .pending ∨ order.status = .expired

/-- The order that a transfer pays in time. -/
def markDetected (txHash : String) (logIndex observedAt : Int) : CryptoPaymentOrder := { order with
  status := .detected
  matchedTxHash := txHash
  matchedLogIndex := logIndex
  detectedAt := observedAt
  updateTime := observedAt }

/-- An order that a transfer pays together with others: only two columns are
updated. -/
def markAmbiguous (observedAt : Int) : CryptoPaymentOrder :=
  { order with status := .ambiguous, updateTime := observedAt }

/-- The order that a transfer pays after its expiry. -/
def markLatePaid (txHash : String) (logIndex observedAt : Int) : CryptoPaymentOrder := { order with
  status := .latePaid
  matchedTxHash := txHash
  matchedLogIndex := logIndex
  updateTime := observedAt }

/-- The order of a top-up that was completed elsewhere. -/
def markClosed (now : Int) : CryptoPaymentOrder :=
  { order with status := .success, completedAt := now, updateTime := now }

/-- The order completed with the evidence of a transfer. -/
def markSuccess (txHash : String) (logIndex now : Int) : CryptoPaymentOrder := { order with
  status := .success
  matchedTxHash := txHash
  matchedLogIndex := logIndex
  confirmedAt := now
  completedAt := now
  updateTime := now }

end CryptoPaymentOrder

structure CryptoTxEvidence where
  (network txHash : String)
  logIndex : Int
  (blockNumber blockTimestamp : Int := 0)
  fromAddress : String := ""
  (toAddress tokenContract amountBaseUnits : String)
  confirmations : Int
  rawPayload : String := ""

def cryptoEvidenceMatchesOrder (order : CryptoPaymentOrder) (evidence : CryptoTxEvidence) :
    Bool :=
  normalizeCryptoNetwork evidence.network = order.network &&
  equalFold (trimSpace evidence.tokenContract) (trimSpace order.tokenContract) &&
  equalFold (trimSpace evidence.toAddress) (trimSpace order.receiveAddress) &&
  trimSpace evidence.amountBaseUnits = order.payAmountBaseUnits &&
  trimSpace evidence.txHash ≠ "" &&
  evidence.logIndex ≥ 0

def errCryptoOrderNotFound : String := "crypto payment order not found"
def errCryptoOrderStatusInvalid : String := "crypto payment order status invalid"
def errCryptoTransactionMismatch : String := "crypto transaction evidence mismatch"
def errCryptoInvalidAmount : String := "invalid crypto payment amount"
def errCryptoAmountCollision : String := "crypto payment amount collision"
def errTopUpStatusInvalid : String := "topup status invalid"

/-- The transaction row that a completion creates from its evidence. -/
def evidenceRecord (order : CryptoPaymentOrder) (evidence : CryptoTxEvidence) (now : Int) :
    CryptoPaymentTransaction where
  network := order.network
  txHash := evidence.txHash
  logIndex := evidence.logIndex
  blockNumber := evidence.blockNumber
  blockTimestamp := evidence.blockTimestamp
  fromAddress := evidence.fromAddress
  toAddress := evidence.toAddress
  tokenContract := evidence.tokenContract
  tokenDecimals := order.tokenDecimals
  amount := order.payAmount
  amountBaseUnits := evidence.amountBaseUnits
  confirmations := evidence.confirmations
  status := .confirmed
  matchedOrderId := order.id
  rawPayload := evidence.rawPayload
  createTime := now
  updateTime := now

/-- The transaction row that a completion saves over an existing one. -/
def CryptoPaymentTransaction.confirmed (tx : CryptoPaymentTransaction) (orderId : Int)
    (evidence : CryptoTxEvidence) (now : Int) : CryptoPaymentTransaction :=
  { tx with
    matchedOrderId := orderId
    status := .confirmed
    confirmations := evidence.confirmations
    updateTime := now }

/-- The row under the evidence's key after a completion of `order`; a row
matched to another order refuses it. -/
def claimTransaction (order : CryptoPaymentOrder) (evidence : CryptoTxEvidence) (now : Int) :
    Option CryptoPaymentTransaction → Except String CryptoPaymentTransaction
  | none => .ok (evidenceRecord order evidence now)
  | some existing => do
    require (existing.matchedOrderId = 0 ∨ existing.matchedOrderId = order.id)
      errCryptoTransactionMismatch
    return existing.confirmed order.id evidence now

/-- What `CompleteCryptoTopUp` writes. -/
inductive CryptoCompletion where
  /-- The order is already completed. -/
  | already
  /-- The top-up is already completed; only the order is closed. -/
  | close (order : CryptoPaymentOrder)
  | credit (order : CryptoPaymentOrder) (tx : CryptoPaymentTransaction)
      (completion : Completion)

/-- `CompleteCryptoTopUp` on the rows it reads: the order of the trade number,
its top-up, and the transaction under the evidence's key. -/
def completeCryptoTopUp (rates : Rates) (now : Int) (evidence : CryptoTxEvidence)
    (order : CryptoPaymentOrder) (topUp : Option TopUp)
    (existing : Option CryptoPaymentTransaction) : Except String CryptoCompletion :=
  if order.status = .success then .ok .already
  else do
    require (order.requiredConfirmations ≤ evidence.confirmations)
      errCryptoOrderStatusInvalid
    require (cryptoEvidenceMatchesOrder order evidence = true) errCryptoTransactionMismatch
    let topUp ← found topUp "record not found"
    if topUp.status = .success then return .close (order.markClosed now)
    else
      require (topUp.status = .pending ∧ topUp.paymentMethod = .cryptoUSDT)
        errTopUpStatusInvalid
      let quotaToAdd := quotaFromStandardTopUpAmount rates topUp.amount
      require (quotaToAdd > 0) errCryptoInvalidAmount
      let tx ← claimTransaction order evidence now existing
      return .credit (order.markSuccess evidence.txHash evidence.logIndex now) tx
        (topUp.complete now quotaToAdd)

/-- What a completion that succeeds has found: the order already completed,
the top-up already completed, or both open and the transaction free. -/
theorem completeCryptoTopUp_ok
    (h : completeCryptoTopUp rates now evidence order topUp existing = .ok done) :
    (order.status = .success ∧ done = .already) ∨
    (order.status ≠ .success ∧ cryptoEvidenceMatchesOrder order evidence ∧
      done = .close (order.markClosed now)) ∨
    (order.status ≠ .success ∧ cryptoEvidenceMatchesOrder order evidence ∧
      ∃ t tx quota, topUp = some t ∧ t.status = .pending ∧
        claimTransaction order evidence now existing = .ok tx ∧
        done = .credit (order.markSuccess evidence.txHash evidence.logIndex now) tx
          (t.complete now quota)) := by
  simp only [completeCryptoTopUp] at h
  by_cases hs : order.status = .success
  · rw [if_pos hs] at h
    exact .inl ⟨hs, (Except.ok.inj h).symm⟩
  right
  simp only [if_neg hs, seq_ok, require_ok, found_ok, exists_const] at h
  obtain ⟨_, hmat, t, ht, h⟩ := h
  by_cases htop : t.status = .success
  · rw [if_pos htop] at h
    exact .inl ⟨hs, hmat, (Except.ok.inj h).symm⟩
  simp only [if_neg htop, seq_ok, require_ok, return_ok, exists_const] at h
  obtain ⟨⟨hpend, _⟩, _, tx, htx, rfl⟩ := h
  exact .inr ⟨hs, hmat, t, tx, _, ht, hpend, htx, rfl⟩

/-- A claimed transaction is matched to the order. It is the row that was
found, which was free or already the order's, or a new one. -/
theorem claimTransaction_ok (h : claimTransaction order evidence now existing = .ok tx) :
    tx.matchedOrderId = order.id ∧
      ((existing = none ∧ tx = evidenceRecord order evidence now) ∨
        ∃ known, existing = some known ∧ tx = known.confirmed order.id evidence now ∧
          (known.matchedOrderId = 0 ∨ known.matchedOrderId = order.id)) := by
  cases existing with
  | none =>
    cases Except.ok.inj h
    exact ⟨rfl, .inl ⟨rfl, rfl⟩⟩
  | some known =>
    simp only [claimTransaction, seq_ok, require_ok, return_ok, exists_const] at h
    obtain ⟨hfree, rfl⟩ := h
    exact ⟨rfl, .inr ⟨known, rfl, rfl, hfree⟩⟩

end HermesToken.Payment
