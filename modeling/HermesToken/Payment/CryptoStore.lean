import HermesToken.Lib.Rows
import HermesToken.Payment.CryptoOrder

/-!
# The crypto payment store

The tables of `model/topup_crypto.go` and the functions on them, each as one
transaction: the creation of an order, its expiry, the recording of a
transfer, and the completion of orders. `credits` is the log of what was
added to users, with the evidence it was added for.
-/

namespace HermesToken.Payment

open Lib List

/-- A credit and the transfer that is its evidence. -/
structure CryptoCredit where
  orderId : Int
  (network txHash : String)
  logIndex : Int
  credit : Credit

structure CryptoStore where
  orders : List CryptoPaymentOrder := []
  transactions : List CryptoPaymentTransaction := []
  topUps : List TopUp := []
  credits : List CryptoCredit := []

/-- The unique index of a transaction row. -/
def CryptoPaymentTransaction.key (tx : CryptoPaymentTransaction) : String × String × Int :=
  (tx.network, tx.txHash, tx.logIndex)

namespace CryptoStore

variable (st : CryptoStore)

def saveOrder (order : CryptoPaymentOrder) : CryptoStore :=
  { st with orders := saveRow CryptoPaymentOrder.id order st.orders }

def saveTransaction (tx : CryptoPaymentTransaction) : CryptoStore :=
  { st with transactions := saveRow CryptoPaymentTransaction.key tx st.transactions }

def saveTopUp (topUp : TopUp) : CryptoStore :=
  { st with topUps := saveRow TopUp.id topUp st.topUps }

def orderByTradeNo (tradeNo : String) : Option CryptoPaymentOrder :=
  st.orders.find? fun o => o.tradeNo = tradeNo

def topUpById (id : Int) : Option TopUp := st.topUps.find? fun t => t.id = id

def transaction (network txHash : String) (logIndex : Int) :
    Option CryptoPaymentTransaction :=
  st.transactions.find? fun tx => tx.key = (network, txHash, logIndex)

/-- The row is created, or saved over the one with its key. -/
def putTransaction (tx : CryptoPaymentTransaction) : CryptoStore :=
  match st.transaction tx.network tx.txHash tx.logIndex with
  | some _ => st.saveTransaction tx
  | none => { st with transactions := st.transactions ++ [tx] }

end CryptoStore

/-! ## Creating an order -/

structure CreateCryptoTopUpOrderInput where
  userID : Int
  network : String
  amount : ℚ
  (receiveAddress tokenContract : String)
  tokenDecimals : Int
  (requiredConfirmations expireMinutes : Int := 0)
  /-- The answers of the suffix generator, one for each attempt. -/
  suffixes : List Int
  /-- The trade number, with its random part. -/
  tradeNo : String

def cryptoPaymentSuffixScale : Int := 1000000
def cryptoPaymentSuffixMax : Int := cryptoPaymentSuffixScale - 1

/-- `CryptoPayAmountFromSuffix`: the amount to pay, displayed and in base
units. -/
def cryptoPayAmountFromSuffix (baseAmount : ℚ) (tokenDecimals suffix : Int) :
    Except String (String × String) := do
  require (baseAmount > 0 ∧ tokenDecimals ≥ 6) errCryptoInvalidAmount
  require (1 ≤ suffix ∧ suffix ≤ cryptoPaymentSuffixMax) "invalid crypto payment suffix"
  let payAmount := baseAmount + (suffix : ℚ) / cryptoPaymentSuffixScale
  return (stringFixed payAmount 6, stringFixed (payAmount * 10 ^ tokenDecimals.toNat) 0)

namespace CryptoStore

variable (st : CryptoStore)

/-- Another active order asks for the same amount at the same address. The
token contract is not compared. -/
def collides (network receiveAddress payBaseUnits : String) (now : Int) : Bool :=
  st.orders.any fun o =>
    o.network = network && o.receiveAddress = receiveAddress &&
    o.payAmountBaseUnits = payBaseUnits && decide (o.expiresAt ≥ now) &&
    isActiveCryptoOrderStatus o.status

def expireMinutes (input : CreateCryptoTopUpOrderInput) : Int :=
  if input.expireMinutes ≤ 0 then 10 else input.expireMinutes

def newOrder (now : Int) (input : CreateCryptoTopUpOrderInput)
    (payAmount payBaseUnits : String) : CryptoPaymentOrder where
  id := st.orders.length + 1
  topUpId := st.topUps.length + 1
  tradeNo := input.tradeNo
  userId := input.userID
  network := normalizeCryptoNetwork input.network
  tokenContract := trimSpace input.tokenContract
  tokenDecimals := input.tokenDecimals
  receiveAddress := trimSpace input.receiveAddress
  payAmount := payAmount
  payAmountBaseUnits := payBaseUnits
  expiresAt := now + expireMinutes input * 60
  requiredConfirmations :=
    if input.requiredConfirmations ≤ 0 then 20 else input.requiredConfirmations
  createTime := now
  updateTime := now

def newTopUp (now : Int) (input : CreateCryptoTopUpOrderInput) (suffix : Int) : TopUp where
  id := st.topUps.length + 1
  userId := input.userID
  amount := input.amount
  money := roundTo (input.amount + (suffix : ℚ) / cryptoPaymentSuffixScale) 6
  tradeNo := input.tradeNo
  paymentMethod := .cryptoUSDT
  paymentProvider := .other ""
  currency := "USDT"
  createTime := now

def insertOrder (order : CryptoPaymentOrder) (topUp : TopUp) : CryptoStore :=
  { st with orders := st.orders ++ [order], topUps := st.topUps ++ [topUp] }

def createAttempts (now : Int) (input : CreateCryptoTopUpOrderInput) :
    Nat → List Int → Except String CryptoStore
  | 0, _ | _, [] => .error errCryptoAmountCollision
  | n + 1, suffix :: rest =>
    match cryptoPayAmountFromSuffix input.amount input.tokenDecimals suffix with
    | .error e => .error e
    | .ok (payAmount, payBaseUnits) =>
      if st.collides (normalizeCryptoNetwork input.network)
          (trimSpace input.receiveAddress) payBaseUnits now then
        createAttempts now input n rest
      else if st.orders.any (fun o => o.tradeNo = input.tradeNo) then
        .error "UNIQUE constraint failed"
      else .ok (st.insertOrder (st.newOrder now input payAmount payBaseUnits)
        (st.newTopUp now input suffix))

/-- `CreateCryptoTopUpOrder`. -/
def createCryptoTopUpOrder (now : Int) (input : CreateCryptoTopUpOrderInput) :
    Except String CryptoStore := do
  require (input.userID > 0 ∧ input.amount > 0 ∧ input.tokenDecimals ≥ 6 ∧
      trimSpace input.receiveAddress ≠ "" ∧ trimSpace input.tokenContract ≠ "")
    errCryptoInvalidAmount
  st.createAttempts now input 20 input.suffixes

/-! ## Expiry -/

/-- A status query reads the order and expires it if it is due. -/
def expireCryptoPaymentOrderIfNeeded (now : Int) (tradeNo : String) : CryptoStore :=
  match st.orderByTradeNo (trimSpace tradeNo) with
  | none => st
  | some order => match order.expireIfNeeded now with
    | none => st
    | some order' => st.saveOrder order'

end CryptoStore

/-! ## Recording a transfer -/

structure CryptoObservedTransfer where
  (network txHash : String)
  (logIndex blockNumber blockTimestamp : Int)
  (fromAddress toAddress tokenContract : String)
  tokenDecimals : Int
  (amount amountBaseUnits : String)
  confirmations : Int
  rawPayload : String := ""
  deriving DecidableEq

/-- The row of a transfer that is observed for the first time. -/
def CryptoObservedTransfer.row (transfer : CryptoObservedTransfer) (observedAt : Int) :
    CryptoPaymentTransaction where
  network := normalizeCryptoNetwork transfer.network
  txHash := trimSpace transfer.txHash
  logIndex := transfer.logIndex
  blockNumber := transfer.blockNumber
  blockTimestamp := transfer.blockTimestamp
  fromAddress := trimSpace transfer.fromAddress
  toAddress := trimSpace transfer.toAddress
  tokenContract := trimSpace transfer.tokenContract
  tokenDecimals := transfer.tokenDecimals
  amount := transfer.amount
  amountBaseUnits := transfer.amountBaseUnits
  confirmations := transfer.confirmations
  rawPayload := transfer.rawPayload
  createTime := observedAt
  updateTime := observedAt

/-- The time a transfer counts as paid: that of its block, or of its
observation when the block has none. -/
def CryptoObservedTransfer.paidAt (transfer : CryptoObservedTransfer) (observedAt : Int) :
    Int :=
  if transfer.blockTimestamp > 0 then transfer.blockTimestamp else observedAt

/-- The order asks for what the transaction pays: network, address, contract
and base units agree exactly. -/
def CryptoPaymentOrder.paidBy (order : CryptoPaymentOrder) (tx : CryptoPaymentTransaction) :
    Bool :=
  order.network = tx.network && order.receiveAddress = tx.toAddress &&
  order.tokenContract = tx.tokenContract && order.payAmountBaseUnits = tx.amountBaseUnits

/-- The first of the orders that expired last. -/
def latestExpired : List CryptoPaymentOrder → Option CryptoPaymentOrder
  | [] => none
  | order :: rest => match latestExpired rest with
    | none => some order
    | some other => if other.expiresAt > order.expiresAt then some other else some order

namespace CryptoStore

variable (st : CryptoStore)

/-- A known transfer only gets its new confirmations. -/
def observe (observedAt : Int) (transfer : CryptoObservedTransfer) :
    CryptoPaymentTransaction :=
  let row := transfer.row observedAt
  match st.transaction row.network row.txHash row.logIndex with
  | none => row
  | some known =>
    { known with confirmations := transfer.confirmations, updateTime := observedAt }

/-- The unmatched orders that the transfer pays before their expiry. The time
they were created is NOT compared. -/
def candidates (tx : CryptoPaymentTransaction) (paidAt : Int) : List CryptoPaymentOrder :=
  st.orders.filter fun o =>
    o.paidBy tx && decide (o.expiresAt ≥ paidAt) && o.unmatched

/-- The unmatched orders that the transfer pays too late. -/
def tooLate (tx : CryptoPaymentTransaction) (paidAt : Int) : List CryptoPaymentOrder :=
  st.orders.filter fun o =>
    o.paidBy tx && decide (o.expiresAt < paidAt) && o.unmatched

/-- The order and the transaction are saved as matched to each other. -/
def matchOrder (order : CryptoPaymentOrder) (tx : CryptoPaymentTransaction) : CryptoStore :=
  (st.saveOrder order).saveTransaction { tx with matchedOrderId := order.id }

def markCandidates (orders : List CryptoPaymentOrder) (observedAt : Int) : CryptoStore :=
  { st with orders := st.orders.map fun o =>
      if o ∈ orders then o.markAmbiguous observedAt else o }

/-- The part of `RecordCryptoTransfer` after the transaction row is stored:
`row` is what was observed, `saved` what is stored. -/
def attributeTransfer (observedAt paidAt : Int) (row saved : CryptoPaymentTransaction) :
    CryptoStore :=
  if saved.matchedOrderId ≠ 0 then st
  else match st.candidates row paidAt with
    | [order] =>
      st.matchOrder (order.markDetected row.txHash row.logIndex observedAt) saved
    | _ :: _ :: _ => st.markCandidates (st.candidates row paidAt) observedAt
    | [] => match latestExpired (st.tooLate row paidAt) with
      | some order =>
        st.matchOrder (order.markLatePaid row.txHash row.logIndex observedAt) saved
      | none => st

/-- `RecordCryptoTransfer`. -/
def recordCryptoTransfer (observedAt : Int) (transfer : CryptoObservedTransfer) :
    CryptoStore :=
  let saved := st.observe observedAt transfer
  (st.putTransaction saved).attributeTransfer observedAt (transfer.paidAt observedAt)
    (transfer.row observedAt) saved

/-! ## Completing orders -/

def completed (order : CryptoPaymentOrder) (tx : CryptoPaymentTransaction)
    (c : Completion) : CryptoStore :=
  let st' := ((st.putTransaction tx).saveTopUp c.topUp).saveOrder order
  { st' with
    credits := st.credits ++
      [{ orderId := order.id, network := tx.network, txHash := tx.txHash,
         logIndex := tx.logIndex, credit := c.credit }] }

/-- `CompleteCryptoTopUp`. -/
def completeCryptoTopUp (rates : Rates) (now : Int) (tradeNo : String)
    (evidence : CryptoTxEvidence) : Except String CryptoStore := do
  require (trimSpace tradeNo ≠ "") errCryptoOrderNotFound
  let order ← found (st.orderByTradeNo tradeNo) errCryptoOrderNotFound
  let done ← Payment.completeCryptoTopUp rates now evidence order
    (st.topUpById order.topUpId)
    (st.transaction order.network evidence.txHash evidence.logIndex)
  return match done with
    | .already => st
    | .close order' => st.saveOrder order'
    | .credit order' tx c => st.completed order' tx c

/-- The evidence that a stored transaction gives. -/
def evidenceOf (tx : CryptoPaymentTransaction) : CryptoTxEvidence where
  network := tx.network
  txHash := tx.txHash
  logIndex := tx.logIndex
  blockNumber := tx.blockNumber
  blockTimestamp := tx.blockTimestamp
  fromAddress := tx.fromAddress
  toAddress := tx.toAddress
  tokenContract := tx.tokenContract
  amountBaseUnits := tx.amountBaseUnits
  confirmations := tx.confirmations
  rawPayload := tx.rawPayload

/-- The confirmed transaction that an order is matched to. -/
def readyTransaction (order : CryptoPaymentOrder) : Option CryptoPaymentTransaction :=
  match st.transaction order.network order.matchedTxHash order.matchedLogIndex with
  | none => none
  | some tx =>
    if tx.matchedOrderId = order.id ∧ order.requiredConfirmations ≤ tx.confirmations then some tx
    else none

/-- The loop of `CompleteReadyCryptoOrders` over the orders it has read. It
stops at the first completion that fails. -/
def completeReady (rates : Rates) (now : Int) :
    List CryptoPaymentOrder → CryptoStore → CryptoStore
  | [], st => st
  | order :: rest, st => match st.readyTransaction order with
    | none => completeReady rates now rest st
    | some tx =>
      match st.completeCryptoTopUp rates now order.tradeNo (evidenceOf tx) with
      | .ok st' => completeReady rates now rest st'
      | .error _ => st

/-- `CompleteReadyCryptoOrders`. -/
def completeReadyCryptoOrders (rates : Rates) (now : Int) (network : String) :
    CryptoStore :=
  completeReady rates now
    (st.orders.filter fun o =>
      o.network = normalizeCryptoNetwork network &&
      (decide (o.status = .detected) || decide (o.status = .confirmed)) &&
      o.matchedTxHash ≠ "") st

/-- `AdminCompleteCryptoTopUp`: the evidence is what the administrator typed. -/
def adminCompleteCryptoTopUp (rates : Rates) (now : Int) (tradeNo reason : String)
    (evidence : CryptoTxEvidence) : Except String CryptoStore := do
  require (trimSpace tradeNo ≠ "" ∧ trimSpace evidence.txHash ≠ "" ∧
    trimSpace reason ≠ "") "链上证据不完整"
  let _ ← found (st.orderByTradeNo (trimSpace tradeNo)) "订单不存在"
  st.completeCryptoTopUp rates now (trimSpace tradeNo)
    { evidence with blockNumber := 0, blockTimestamp := 0, fromAddress := "" }

end CryptoStore

/-! ## What is stored -/

namespace CryptoStore

variable {st : CryptoStore} {tx r : CryptoPaymentTransaction}
  {order o : CryptoPaymentOrder}

theorem transaction_some (h : st.transaction network txHash logIndex = some r) :
    r ∈ st.transactions ∧ r.key = (network, txHash, logIndex) :=
  ⟨mem_of_find?_eq_some h, by simpa using find?_some h⟩

theorem transaction_none
    (h : st.transaction network txHash logIndex = none) (hr : r ∈ st.transactions) :
    r.key ≠ (network, txHash, logIndex) := by
  simpa using find?_eq_none.mp h r hr

theorem orderByTradeNo_some (h : st.orderByTradeNo tradeNo = some o) : o ∈ st.orders :=
  mem_of_find?_eq_some h

theorem orderByTradeNo_tradeNo (h : st.orderByTradeNo tradeNo = some o) : o.tradeNo = tradeNo := by
  simpa using find?_some h

/-- After a put the row with that key is the new one, the others are as they
were. -/
theorem mem_putTransaction :
    r ∈ (st.putTransaction tx).transactions ↔ (r ∈ st.transactions ∧ r.key ≠ tx.key) ∨ r = tx := by
  simp only [putTransaction]
  cases hfind : st.transaction tx.network tx.txHash tx.logIndex with
  | some known =>
    obtain ⟨hmem, hkey⟩ := transaction_some hfind
    simp only [saveTransaction, mem_saveRow]
    refine or_congr Iff.rfl ⟨fun h => h.1, fun h => ⟨h, known, hmem, hkey⟩⟩
  | none =>
    simp only [mem_append, mem_singleton]
    refine or_congr ⟨fun h => ⟨h, ?_⟩, fun h => h.1⟩ Iff.rfl
    exact transaction_none hfind h

theorem nodup_putTransaction (h : (st.transactions.map (·.key)).Nodup) :
    ((st.putTransaction tx).transactions.map (·.key)).Nodup := by
  simp only [putTransaction]
  cases hfind : st.transaction tx.network tx.txHash tx.logIndex with
  | some => simpa [saveTransaction] using h
  | none =>
  rw [map_append, nodup_append]
  refine ⟨h, by simp, ?_⟩
  intro k hk k' hk'
  obtain ⟨r, hr, rfl⟩ := mem_map.mp hk
  simp only [map_cons, map_nil, mem_singleton] at hk'
  rw [hk']
  exact transaction_none hfind hr

@[simp] theorem putTransaction_orders : (st.putTransaction tx).orders = st.orders := by
  simp only [putTransaction]
  split <;> rfl

@[simp] theorem putTransaction_credits : (st.putTransaction tx).credits = st.credits := by
  simp only [putTransaction]
  split <;> rfl

theorem saveOrder_putTransaction :
    (st.putTransaction tx).saveOrder order = (st.saveOrder order).putTransaction tx := by
  simp only [putTransaction, saveOrder, transaction, saveTransaction]
  split <;> rfl

theorem saveTransaction_eq_put (hr : r ∈ st.transactions) (hkey : r.key = tx.key) :
    st.saveTransaction tx = st.putTransaction tx := by
  simp only [putTransaction]
  cases hfind : st.transaction tx.network tx.txHash tx.logIndex with
  | some => rfl
  | none => exact absurd hkey (transaction_none hfind hr)

theorem putTransaction_putTransaction (hkey : r.key = tx.key) :
    (st.putTransaction r).putTransaction tx = st.putTransaction tx := by
  rw [← saveTransaction_eq_put (mem_putTransaction.mpr (.inr rfl)) hkey]
  have hfind : st.transaction r.network r.txHash r.logIndex =
      st.transaction tx.network tx.txHash tx.logIndex := by
    exact congrArg (fun k => st.transactions.find? fun t => t.key = k) hkey
  simp only [putTransaction, hfind]
  cases hknown : st.transaction tx.network tx.txHash tx.logIndex with
  | some => simp only [saveTransaction, saveRow_saveRow hkey]
  | none =>
    have habs : saveRow CryptoPaymentTransaction.key tx st.transactions = st.transactions :=
      saveRow_of_absent fun r' hr' => transaction_none hknown hr'
    simp only [saveTransaction, saveRow, map_append, map_cons, map_nil, if_pos hkey] at habs ⊢
    rw [habs]

theorem matchOrder_eq :
    (st.putTransaction tx).matchOrder order tx =
      ((st.putTransaction tx).saveOrder order).putTransaction
        { tx with matchedOrderId := order.id } :=
  saveTransaction_eq_put (r := tx) (mem_putTransaction.mpr (.inr rfl)) rfl

theorem matchOrder_eq_once :
    (st.putTransaction tx).matchOrder order tx =
      (st.putTransaction { tx with matchedOrderId := order.id }).saveOrder order := by
  rw [matchOrder_eq, saveOrder_putTransaction, saveOrder_putTransaction]
  exact putTransaction_putTransaction rfl

theorem mem_saveOrder :
    o ∈ (st.saveOrder order).orders ↔
      (o ∈ st.orders ∧ o.id ≠ order.id) ∨ (o = order ∧ ∃ o₀ ∈ st.orders, o₀.id = order.id) :=
  mem_saveRow

@[simp] theorem candidates_putTransaction (row : CryptoPaymentTransaction) (paidAt : Int) :
    (st.putTransaction tx).candidates row paidAt = st.candidates row paidAt := by
  simp only [candidates, putTransaction_orders]

@[simp] theorem tooLate_putTransaction (row : CryptoPaymentTransaction) (paidAt : Int) :
    (st.putTransaction tx).tooLate row paidAt = st.tooLate row paidAt := by
  simp only [tooLate, putTransaction_orders]

theorem mem_candidates : o ∈ st.candidates tx paidAt ↔
    o ∈ st.orders ∧ o.paidBy tx ∧ paidAt ≤ o.expiresAt ∧ o.unmatched := by
  simp [candidates, and_assoc]

theorem mem_tooLate : o ∈ st.tooLate tx paidAt ↔
    o ∈ st.orders ∧ o.paidBy tx ∧ o.expiresAt < paidAt ∧ o.unmatched := by
  simp [tooLate, and_assoc]

end CryptoStore

theorem latestExpired_mem (h : latestExpired orders = some order) : order ∈ orders := by
  induction orders generalizing order with
  | nil => cases h
  | cons o rest ih =>
  simp only [latestExpired] at h
  cases hrest : latestExpired rest with simp only [hrest] at h
  | none =>
    cases h
    exact mem_cons_self
  | some other =>
    split at h
    · cases h
      exact mem_cons_of_mem _ (ih hrest)
    · cases h
      exact mem_cons_self

end HermesToken.Payment
